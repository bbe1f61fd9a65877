/-! Log events with a level and the module that they come from. -/

namespace SolrClause.Log

inductive Level where
  | error
  | warn
  | info
  | debug
  | trace
  deriving DecidableEq, Repr

namespace Level

def all : List Level := [.error, .warn, .info, .debug, .trace]

def name : Level → String
  | .error => "ERROR"
  | .warn => "WARN"
  | .info => "INFO"
  | .debug => "DEBUG"
  | .trace => "TRACE"

/-- How much passes at this level: the more, the higher. -/
def verbosity : Level → Nat
  | .error => 1
  | .warn => 2
  | .info => 3
  | .debug => 4
  | .trace => 5

end Level

/-- One message. The target names the part of the program that it comes from. -/
structure Event where
  level : Level
  target : String
  message : String
  deriving DecidableEq, Repr

end SolrClause.Log
