import SolrClause.Json.Fault
import SolrClause.Predicate

/-! Errors: what a command or a reader can fail with, and how it is said. -/

namespace SolrClause

inductive FileFault where
  | missing
  | isDirectory
  | notDirectory
  | notText
  | nulInPath
  | nameTooLong
  | other (description : String)
  deriving DecidableEq, Repr

def FileFault.message : FileFault → String
  | .missing => "No such file or directory (os error 2)"
  | .isDirectory => "Is a directory (os error 21)"
  | .notDirectory => "Not a directory (os error 20)"
  | .notText => "stream did not contain valid UTF-8"
  | .nulInPath => "file name contained an unexpected NUL byte"
  | .nameTooLong => "File name too long (os error 36)"
  | .other description => description

inductive Error where
  | malformedPredicate (cause : MalformedPredicate)
  | invalidArgument (description : String)
  | file (fault : FileFault)
  | json (fault : Json.Fault)
  deriving DecidableEq

def Error.message : Error → String
  | .malformedPredicate cause =>
    "Malformed " ++ cause.operation.name ++ " predicate: expected " ++ cause.expected
  | .invalidArgument description => "Invalid argument: " ++ description
  | .file fault => "I/O error: " ++ fault.message
  | .json fault => "JSON error: " ++ fault.message

end SolrClause
