import SolrClause.CommandLine.Grammar
import SolrClause.Criteria

/-! Invocations: what a command line asks for. The options come before the command, and each command
has switches and operands of its own. -/

namespace SolrClause.CommandLine

inductive OutputFormat where
  | human
  | json
  deriving DecidableEq, Repr

namespace OutputFormat

def name : OutputFormat → String
  | .human => "human"
  | .json => "json"

def ofName? (name : String) : Option OutputFormat :=
  [human, json].find? fun format => format.name = name

end OutputFormat

structure Options where
  /-- How often more output was asked for, up to 255. -/
  verbose : Nat := 0
  quiet : Bool := false
  format : OutputFormat := .human
  pretty : Bool := false
  config : Option Argument := none
  canonicalOrder : Bool := false
  deriving DecidableEq, Repr

/-- Nothing if quiet, and otherwise at least one. -/
def Options.verbosity (options : Options) : Nat :=
  if options.quiet then 0 else max 1 options.verbose

/-- Criteria given on the command line. All values are texts. -/
structure CompileRequest where
  field : String
  negating : Bool := false
  equals : List String := []
  contains : List String := []
  startsWith : List String := []
  endsWith : List String := []
  expression : List String := []
  between : Bool := false
  lower : Option String := none
  upper : Option String := none
  excludeLower : Bool := false
  excludeUpper : Bool := false
  deriving DecidableEq, Repr

namespace CompileRequest

/-- A range is asked for as such, or by either bound. -/
def hasRange (r : CompileRequest) : Bool := r.between || r.lower.isSome || r.upper.isSome

def range (r : CompileRequest) : Range :=
  ⟨r.lower.map .text, r.upper.map .text, !r.excludeLower, !r.excludeUpper⟩

def comparisons (comparison : Comparison) (values : List String) : List Predicate :=
  values.map fun value => .compare comparison (.text value)

def predicates (r : CompileRequest) : List Predicate :=
  comparisons .equals r.equals ++ comparisons .contains r.contains ++
    comparisons .startsWith r.startsWith ++ comparisons .endsWith r.endsWith ++
    comparisons .expression r.expression ++ if r.hasRange then [.between r.range] else []

def criteria (r : CompileRequest) : Criteria := .ofParts r.field r.negating r.predicates

end CompileRequest

inductive Command where
  | compile (request : CompileRequest)
  | file (path : Argument)
  | escape (value : String) (noQuote : Bool)
  deriving DecidableEq, Repr

structure Invocation where
  options : Options
  command : Command
  deriving DecidableEq, Repr

/-! ### The grammars -/

inductive OptionId where
  | verbose
  | quiet
  | format
  | pretty
  | config
  | canonicalOrder
  deriving DecidableEq, Repr

def helpSwitch (ι : Type) : Switch ι := ⟨"help", some 'h', .help⟩

def configSlot : Slot OptionId := { id := .config, check := .path }

def optionGrammar : Grammar OptionId where
  switches :=
    [⟨"verbose", some 'v', .counter .verbose⟩, ⟨"quiet", some 'q', .flag .quiet⟩,
      ⟨"format", some 'f', .value { id := .format, check := .oneOf ["human", "json"] }⟩,
      ⟨"pretty", none, .flag .pretty⟩, ⟨"config", none, .value configSlot⟩,
      ⟨"canonical-order", none, .flag .canonicalOrder⟩, helpSwitch _,
      ⟨"version", some 'V', .version⟩]
  operands := []
  commands := ["compile", "file", "escape", "help"]

inductive CompileId where
  | field
  | not
  | compare (comparison : Comparison)
  | between
  | lower
  | upper
  | excludeLower
  | excludeUpper
  deriving DecidableEq, Repr

/-- A comparison may be asked for any number of times. -/
def comparisonSwitch (long : String) (comparison : Comparison) : Switch CompileId :=
  ⟨long, none, .value { id := .compare comparison, check := .text, repeatable := true }⟩

def compileGrammar : Grammar CompileId where
  switches :=
    [⟨"not", none, .flag .not⟩, comparisonSwitch "equals" .equals,
      comparisonSwitch "contains" .contains, comparisonSwitch "starts-with" .startsWith,
      comparisonSwitch "ends-with" .endsWith, comparisonSwitch "expression" .expression,
      ⟨"between", none, .flag .between⟩, ⟨"lower", none, .value { id := .lower, check := .text }⟩,
      ⟨"upper", none, .value { id := .upper, check := .text }⟩,
      ⟨"exclude-lower", none, .flag .excludeLower⟩, ⟨"exclude-upper", none, .flag .excludeUpper⟩,
      helpSwitch _]
  operands := [{ id := .field, check := .text }]
  commands := []

inductive FileId where
  | path
  deriving DecidableEq, Repr

def fileGrammar : Grammar FileId where
  switches := [helpSwitch _]
  operands := [{ id := .path, check := .path }]
  commands := []

inductive EscapeId where
  | value
  | noQuote
  deriving DecidableEq, Repr

def escapeGrammar : Grammar EscapeId where
  switches := [⟨"no-quote", none, .flag .noQuote⟩, helpSwitch _]
  operands := [{ id := .value, check := .text }]
  commands := []

/-! ### Reading command lines -/

/-- The first value, which must be there. -/
def required : List α → Except UsageProblem α
  | value :: _ => .ok value
  | [] => .error .missingRequiredArgument

def CompileRequest.ofOccurrences (field : String) (seen : List (Occurrence CompileId)) :
    CompileRequest where
  field
  negating := Occurrence.isPresent seen .not
  equals := Occurrence.texts seen (.compare .equals)
  contains := Occurrence.texts seen (.compare .contains)
  startsWith := Occurrence.texts seen (.compare .startsWith)
  endsWith := Occurrence.texts seen (.compare .endsWith)
  expression := Occurrence.texts seen (.compare .expression)
  between := Occurrence.isPresent seen .between
  lower := (Occurrence.texts seen .lower).head?
  upper := (Occurrence.texts seen .upper).head?
  excludeLower := Occurrence.isPresent seen .excludeLower
  excludeUpper := Occurrence.isPresent seen .excludeUpper

def readCompile (arguments : List Argument) : Except UsageProblem CompileRequest := do
  let seen ← compileGrammar.scanAll arguments
  let field ← required (Occurrence.texts seen .field)
  .ok (.ofOccurrences field seen)

def readFile (arguments : List Argument) : Except UsageProblem Argument := do
  let seen ← fileGrammar.scanAll arguments
  required (Occurrence.arguments seen .path)

def readEscape (arguments : List Argument) : Except UsageProblem (String × Bool) := do
  let seen ← escapeGrammar.scanAll arguments
  let value ← required (Occurrence.texts seen .value)
  .ok (value, Occurrence.isPresent seen .noQuote)

/-- Help on a command, of which only the first level has any. -/
def helpProblem : List Argument → UsageProblem
  | [] => .displayHelp
  | [name] =>
    if (optionGrammar.command? name).isSome then .displayHelp else .invalidSubcommand
  | _ => .invalidSubcommand

def readCommand (name : String) (arguments : List Argument) : Except UsageProblem Command :=
  if name = "compile" then (readCompile arguments).map .compile
  else if name = "file" then (readFile arguments).map .file
  else if name = "escape" then
    (readEscape arguments).map fun (value, noQuote) => .escape value noQuote
  else .error (helpProblem arguments)

def Options.ofOccurrences (seen : List (Occurrence OptionId)) : Options where
  verbose := min 255 (Occurrence.count seen .verbose)
  quiet := Occurrence.isPresent seen .quiet
  format := ((Occurrence.texts seen .format).head?.bind OutputFormat.ofName?).getD .human
  pretty := Occurrence.isPresent seen .pretty
  config := (Occurrence.arguments seen .config).head?
  canonicalOrder := Occurrence.isPresent seen .canonicalOrder

/-- Takes the settings file from the environment, unless the command line names one. -/
def addEnvironment (s : Scan OptionId) (config : Option Argument) :
    Except UsageProblem (Scan OptionId) :=
  match config with
  | none => .ok s
  | some path => if s.isPresent .config then .ok s else s.addValue configSlot (some path)

namespace Invocation

/-- What a command line asks for, where `config` is the settings file that the environment names.
The command's own arguments are checked before the options are. -/
def read (config : Option Argument) (arguments : List Argument) :
    Except UsageProblem Invocation := do
  let (s, rest) ← optionGrammar.scan optionGrammar.start false arguments
  let command ← match rest with
    | none => .ok none
    | some (name, rest) => (readCommand name rest).map some
  let s ← s.resolve
  let s ← addEnvironment s config
  match command with
  | some command => .ok ⟨.ofOccurrences s.seen, command⟩
  | none =>
    if s.seen.isEmpty then .error .displayHelpOnMissing else .error .missingSubcommand

end Invocation

end SolrClause.CommandLine
