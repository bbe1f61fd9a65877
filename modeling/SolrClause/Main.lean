import SolrClause.Run

/-! The program: it reads the environment and the files that an invocation names, runs the
invocation, and prints what it leaves behind. -/

namespace SolrClause.Main

open SolrClause.CommandLine

/-- The code is this number, or its negative. -/
def isCode (number code : UInt32) : Bool := code = number || code = 0 - number

def faultOf : IO.Error → FileFault
  | .noFileOrDirectory _ _ _ => .missing
  | .inappropriateType file code details =>
    if isCode 20 code then .notDirectory
    else if isCode 21 code then .isDirectory
    else .other (toString (IO.Error.inappropriateType file code details))
  | .invalidArgument file code details =>
    if isCode 36 code then .nameTooLong
    else .other (toString (IO.Error.invalidArgument file code details))
  | error => .other (toString error)

/-- The text of a file. A path that is no text cannot be opened. -/
def readText (path : Argument) : IO (Except FileFault String) := do
  match path.text? with
  | none => return .error .missing
  | some name =>
    if name.contains '\x00' then return .error .nulInPath
    try
      match String.fromUTF8? (← IO.FS.readBinFile name) with
      | some content => return .ok content
      | none => return .error .notText
    catch error => return .error (faultOf error)

def gather (paths : List Argument) : IO Files := do
  let contents ← paths.mapM fun path => do return (path, ← readText path)
  return fun path =>
    match contents.find? (·.1 = path) with
    | some (_, content) => content
    | none => .error .missing

end SolrClause.Main

open SolrClause SolrClause.CommandLine in
def main (arguments : List String) : IO UInt32 := do
  let config := (← IO.getEnv "CKAN_SOLR_CONFIG").map Argument.ofString
  let directives ← IO.getEnv "RUST_LOG"
  let arguments := arguments.map Argument.ofString
  let paths := match Invocation.read config arguments with
    | .ok invocation => Run.paths invocation
    | .error _ => []
  let outcome := Run.start (← Main.gather paths) config directives arguments
  (← IO.getStdout).putStr outcome.stdout
  (← IO.getStderr).putStr outcome.stderr
  return UInt32.ofNat outcome.exitCode
