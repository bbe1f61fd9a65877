import SolrClause.CommandLine.Argument

/-! Grammars of command lines and the scanner of arguments. A grammar lists the switches, operands
and commands; scanning gives the occurrences of switches and operands in their order. A value is
checked only when the argument after it is known to be one, so a bad value is reported after an
unknown argument that follows it. -/

namespace SolrClause.CommandLine

/-- The ways in which a command line is not used as intended, and the two requests for help. -/
inductive UsageProblem where
  | displayHelp
  | displayVersion
  | displayHelpOnMissing
  | missingSubcommand
  | missingRequiredArgument
  | invalidSubcommand
  | unknownArgument
  | invalidValue
  | invalidUtf8
  | argumentConflict
  | tooManyValues
  deriving DecidableEq, Repr

/-- Help and version that were asked for are no failure. -/
def UsageProblem.exitCode : UsageProblem → Nat
  | .displayHelp => 0
  | .displayVersion => 0
  | _ => 2

inductive Check where
  | text
  | path
  | oneOf (names : List String)
  deriving DecidableEq, Repr

namespace Check

/-- A text must be valid, a path must not be empty, and a name must be one of those listed. -/
def run : Check → Argument → Except UsageProblem Unit
  | .text, a => if a.text?.isSome then .ok () else .error .invalidUtf8
  | .path, a => if a.isEmpty then .error .invalidValue else .ok ()
  | .oneOf names, a =>
    match a.text? with
    | some name => if names.contains name then .ok () else .error .invalidValue
    | none => .error .invalidValue

end Check

/-- A value that a command line can give. -/
structure Slot (ι : Type) where
  id : ι
  check : Check
  repeatable : Bool := false

inductive Effect (ι : Type) where
  | flag (id : ι)
  | counter (id : ι)
  | value (slot : Slot ι)
  | help
  | version

structure Switch (ι : Type) where
  long : String
  short : Option Char
  effect : Effect ι

structure Grammar (ι : Type) where
  switches : List (Switch ι)
  operands : List (Slot ι)
  commands : List String

/-- A switch or operand that was met, with its value if it has one. -/
abbrev Occurrence (ι : Type) := ι × Option Argument

/-- How far a command line has been scanned. -/
structure Scan (ι : Type) where
  /-- What was met and checked, in order. -/
  seen : List (Occurrence ι)
  /-- A value that has not been checked yet, or that has not been met yet. -/
  pending : Option (Slot ι × Option Argument)
  operands : List (Slot ι)

namespace Scan

variable {ι : Type} [DecidableEq ι]

def isPresent (s : Scan ι) (id : ι) : Bool := s.seen.any fun occurrence => occurrence.1 = id

def add (s : Scan ι) (id : ι) (value : Option Argument) : Scan ι :=
  { s with seen := s.seen ++ [(id, value)] }

/-- A switch without a value that may come only once. -/
def addFlag (s : Scan ι) (id : ι) : Except UsageProblem (Scan ι) :=
  if s.isPresent id then .error .argumentConflict else .ok (s.add id none)

/-- A value, which must be there, must not be a second one, and must pass its check. -/
def addValue (s : Scan ι) (slot : Slot ι) (value : Option Argument) :
    Except UsageProblem (Scan ι) :=
  match value with
  | none => .error .invalidValue
  | some a =>
    if !slot.repeatable && s.isPresent slot.id then .error .argumentConflict
    else do
      slot.check.run a
      .ok (s.add slot.id (some a))

def resolve (s : Scan ι) : Except UsageProblem (Scan ι) :=
  match s.pending with
  | none => .ok s
  | some (slot, value) => addValue { s with pending := none } slot value

def isAwaiting (s : Scan ι) : Bool :=
  match s.pending with
  | some (_, none) => true
  | _ => false

def fill (s : Scan ι) (a : Argument) : Scan ι :=
  { s with pending := s.pending.map fun (slot, _) => (slot, some a) }

end Scan

namespace Grammar

variable {ι : Type} [DecidableEq ι]

def start (g : Grammar ι) : Scan ι := ⟨[], none, g.operands⟩

def command? (g : Grammar ι) (a : Argument) : Option String :=
  a.text?.bind fun text => g.commands.find? (· = text)

def takeBare (s : Scan ι) (effect : Effect ι) : Except UsageProblem (Scan ι) := do
  let s ← s.resolve
  match effect with
  | .flag id => s.addFlag id
  | .counter id => .ok (s.add id none)
  | .value slot => .ok { s with pending := some (slot, none) }
  | .help => .error .displayHelp
  | .version => .error .displayVersion

def takeAttached (s : Scan ι) (effect : Effect ι) (value : Argument) :
    Except UsageProblem (Scan ι) :=
  match effect with
  | .value slot => do
    let s ← s.resolve
    s.addValue slot (some value)
  | _ => .error .tooManyValues

def takeLong (g : Grammar ι) (s : Scan ι) (name : Argument) (value : Option Argument) :
    Except UsageProblem (Scan ι) :=
  match name.text?.bind fun text => g.switches.find? (·.long = text) with
  | none => .error .unknownArgument
  | some switch =>
    match value with
    | none => takeBare s switch.effect
    | some value => takeAttached s switch.effect value

/-- Short switches after one dash. One that takes a value takes the rest, without an equals sign in
front. -/
def takeCluster (g : Grammar ι) (s : Scan ι) : List Glyph → Except UsageProblem (Scan ι)
  | [] => .ok s
  | .stray _ :: _ => .error .unknownArgument
  | .char c :: rest =>
    match g.switches.find? (·.short = some c) with
    | none => .error .unknownArgument
    | some switch =>
      match switch.effect with
      | .value slot =>
        match rest with
        | [] => takeBare s (.value slot)
        | .char '=' :: value => takeAttached s (.value slot) ⟨value⟩
        | value => takeAttached s (.value slot) ⟨value⟩
      | effect => do
        let s ← takeBare s effect
        takeCluster g s rest

/-- What is wrong with an operand that has no place. -/
def operandProblem (g : Grammar ι) (afterSeparator : Bool) (a : Argument) : UsageProblem :=
  if g.commands.isEmpty || (afterSeparator && (g.command? a).isSome) then .unknownArgument
  else .invalidSubcommand

def takeOperand (g : Grammar ι) (s : Scan ι) (afterSeparator : Bool) (a : Argument) :
    Except UsageProblem (Scan ι) :=
  match s.operands with
  | [] => .error (g.operandProblem afterSeparator a)
  | slot :: more => do
    let s ← s.resolve
    .ok { s with pending := some (slot, some a), operands := more }

/-- Scans arguments up to the first command, and gives the command with what follows it. -/
def scan (g : Grammar ι) (s : Scan ι) (afterSeparator : Bool) :
    List Argument → Except UsageProblem (Scan ι × Option (String × List Argument))
  | [] => .ok (s, none)
  | a :: rest =>
    if afterSeparator then do
      let s ← g.takeOperand s true a
      scan g s true rest
    else
      match if s.isAwaiting then none else g.command? a with
      | some command => .ok (s, some (command, rest))
      | none =>
        if a.isSeparator then scan g s true rest
        else
          match a.long? with
          | some (name, value) => do
            let s ← g.takeLong s name value
            scan g s false rest
          | none =>
            match a.cluster? with
            | some cluster => do
              let s ← g.takeCluster s cluster
              scan g s false rest
            | none =>
              if s.isAwaiting then scan g (s.fill a) false rest
              else do
                let s ← g.takeOperand s false a
                scan g s false rest

def scanAll (g : Grammar ι) (arguments : List Argument) :
    Except UsageProblem (List (Occurrence ι)) := do
  let (s, _) ← g.scan g.start false arguments
  let s ← s.resolve
  .ok s.seen

end Grammar

/-! ### Occurrences -/

namespace Occurrence

variable {ι : Type} [DecidableEq ι]

def arguments (seen : List (Occurrence ι)) (id : ι) : List Argument :=
  seen.filterMap fun (other, value) => if other = id then value else none

def count (seen : List (Occurrence ι)) (id : ι) : Nat :=
  (seen.filter fun occurrence => occurrence.1 = id).length

def isPresent (seen : List (Occurrence ι)) (id : ι) : Bool :=
  seen.any fun occurrence => occurrence.1 = id

def texts (seen : List (Occurrence ι)) (id : ι) : List String :=
  (arguments seen id).filterMap Argument.text?

end Occurrence

end SolrClause.CommandLine
