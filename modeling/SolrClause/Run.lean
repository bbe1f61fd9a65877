import SolrClause.Compiler.Batch
import SolrClause.CriteriaFile
import SolrClause.Form.Config
import SolrClause.Log.Filter
import SolrClause.Report

/-! Running an invocation: the settings are read first, then the criteria, and a report is printed
only if nothing failed. Running is a function of the files that a path may lead to. -/

namespace SolrClause

open SolrClause.CommandLine

abbrev Files := Argument → Except FileFault String

/-- A result with what was logged on the way to it. -/
structure Logged (α : Type) where
  events : List Log.Event
  result : Except Error α

namespace Logged

def andThen (first : Logged α) (next : α → Logged β) : Logged β :=
  match first.result with
  | .ok value => ⟨first.events ++ (next value).events, (next value).result⟩
  | .error error => ⟨first.events, .error error⟩

end Logged

namespace Run

def target : String := "ckan_solr::cli::commands"

def info (message : String) : Log.Event := ⟨.info, target, message⟩

def debug (message : String) : Log.Event := ⟨.debug, target, message⟩

def readFile (files : Files) (path : Argument) : Except Error String :=
  match files path with
  | .ok content => .ok content
  | .error fault => .error (.file fault)

/-- The settings in a text, provided that they can be used. -/
def configOfText (content : String) : Except Error Compiler.Config :=
  match Json.parse Compiler.Config.ofJson content.toList with
  | .error fault => .error (.json fault)
  | .ok config =>
    match config.problem? with
    | some problem => .error (.invalidArgument problem)
    | none => .ok config

def readConfig (files : Files) (path : Argument) : Except Error Compiler.Config := do
  configOfText (← readFile files path)

def describe (config : Compiler.Config) : String :=
  r"CompilerConfig { canonical_order: " ++ Scalar.booleanText config.canonicalOrder ++
    ", parallel_threshold: " ++ toString config.parallelThreshold.toNat ++ r" }"

/-- The settings of the file that the options name, if they name one, and of the switch. -/
def buildConfig (files : Files) (options : Options) : Logged Compiler.Config :=
  let loaded : Logged Compiler.Config := match options.config with
    | some path => ⟨[info ("Loading compiler config from: " ++ path.shown)], readConfig files path⟩
    | none => ⟨[], .ok {}⟩
  loaded.andThen fun config =>
    let config :=
      { config with canonicalOrder := config.canonicalOrder || options.canonicalOrder }
    ⟨[debug ("Compiler config: " ++ describe config)], .ok config⟩

def loadCriteria (files : Files) (path : Argument) : Except Error (List Criteria) := do
  CriteriaFile.read (← readFile files path)

def compiled (config : Compiler.Config) (c : Criteria) : CompiledClause :=
  ⟨c.field, Compiler.clause config c⟩

def compile (files : Files) (options : Options) (request : CompileRequest) : Logged Report :=
  (buildConfig files options).andThen fun config =>
    ⟨Compiler.clauseEvents config request.criteria,
      .ok (.clauses [compiled config request.criteria])⟩

/-- Criteria with the clauses of their batch, one to one. -/
def paired (criteria : List Criteria) (clauses : List String) : List CompiledClause :=
  criteria.zipWith (fun c query => ⟨c.field, query⟩) clauses

/-- No criteria is without its clause, and none has the clause of another. -/
theorem paired_clausesBy (division : Compiler.Division) (config : Compiler.Config)
    (criteria : List Criteria) :
    paired criteria (Compiler.clausesBy division config criteria) =
      criteria.map (compiled config) := by
  rw [paired, Compiler.clausesBy_eq, List.zipWith_map_right, List.zipWith_self]
  rfl

def compileFile (files : Files) (options : Options) (path : Argument) : Logged Report :=
  (buildConfig files options).andThen fun config =>
    let loaded : Logged (List Criteria) :=
      ⟨[info ("Reading criteria from: " ++ path.shown)], loadCriteria files path⟩
    loaded.andThen fun criteria =>
      ⟨info ("Loaded " ++ toString criteria.length ++ " criteria") ::
        Compiler.batchEvents config criteria,
        .ok (.clauses (paired criteria (Compiler.clauses config criteria)))⟩

def escape (value : String) (noQuote : Bool) : Report :=
  .escaped ⟨value, if noQuote then Literal.escape value else Literal.sanitize value⟩

def report (files : Files) (invocation : Invocation) : Logged Report :=
  match invocation.command with
  | .compile request => compile files invocation.options request
  | .file path => compileFile files invocation.options path
  | .escape value noQuote => ⟨[], .ok (escape value noQuote)⟩

def paths (invocation : Invocation) : List Argument :=
  invocation.options.config.toList ++
    match invocation.command with
    | .file path => [path]
    | _ => []

def output (files : Files) (invocation : Invocation) : Except Error String :=
  (report files invocation).result.map fun report =>
    report.text invocation.options.format invocation.options.pretty

/-! ### The program -/

def level (verbosity : Nat) : Log.Level :=
  match verbosity with
  | 0 => .error
  | 1 => .warn
  | 2 => .info
  | _ => .debug

structure Outcome where
  exitCode : Nat
  stdout : String
  stderr : String
  deriving DecidableEq, Repr

def versionText : String := "ckan-solr 0.1.0\n"

def usageText : String :=
  "Usage: ckan-solr [OPTIONS] <compile FIELD | file CRITERIA_FILE | escape VALUE | help>\n"

/-- An invocation run as a program, with the log filtered by its options and by directives. -/
def program (files : Files) (directives : Option String) (invocation : Invocation) : Outcome :=
  let (filter, complaints) := Log.Filter.build (level invocation.options.verbosity) directives
  let shown := complaints.map Log.Complaint.line ++
    ((report files invocation).events.filter filter.passes).map Log.Event.line
  match output files invocation with
  | .ok text => ⟨0, text, Report.joinLines shown⟩
  | .error error => ⟨1, "", Report.joinLines (shown ++ ["Error: " ++ error.message])⟩

/-- A request for help is answered, and a wrong use is explained. -/
def usageOutcome (problem : UsageProblem) : Outcome :=
  match problem with
  | .displayVersion => ⟨problem.exitCode, versionText, ""⟩
  | .displayHelp => ⟨problem.exitCode, usageText, ""⟩
  | _ => ⟨problem.exitCode, "", usageText⟩

/-- What the program leaves behind, given what its environment and its arguments say. -/
def start (files : Files) (config : Option Argument) (directives : Option String)
    (arguments : List Argument) : Outcome :=
  match Invocation.read config arguments with
  | .ok invocation => program files directives invocation
  | .error problem => usageOutcome problem

end Run

end SolrClause
