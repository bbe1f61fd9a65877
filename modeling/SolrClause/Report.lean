import SolrClause.CommandLine.Invocation
import SolrClause.Json.Reading

/-! Reports: the results that commands print, line by line for people or as JSON. -/

namespace SolrClause

open SolrClause.Json

structure CompiledClause where
  field : String
  query : String
  deriving DecidableEq, Repr

structure EscapedValue where
  input : String
  escaped : String
  deriving DecidableEq, Repr

/-- A record of two texts, both of which are required. -/
structure TextPair where
  /-- The record as messages name it. -/
  name : String
  first : String
  second : String

namespace TextPair

/-- The texts of a pair that have been read. -/
structure Draft where
  first : Option String := none
  second : Option String := none

def toJson (p : TextPair) (first second : String) : Value :=
  .object [(p.first, .string first), (p.second, .string second)]

/-- Takes up one member; others than the two texts are skipped. -/
def takeUp (p : TextPair) (draft : Draft) (name : String) (document : Document) :
    Except Fault Draft :=
  if name = p.first then do
    .ok { draft with first := ← setField name draft.first document.readString }
  else if name = p.second then do
    .ok { draft with second := ← setField name draft.second document.readString }
  else do
    document.skip
    .ok draft

def finish (p : TextPair) (draft : Draft) : Except Fault (String × String) := do
  let first ← requireField p.first draft.first
  let second ← requireField p.second draft.second
  .ok (first, second)

def ofElements (p : TextPair) (elements : Elements) :
    Except Fault ((String × String) × Elements) := do
  let expected := p.name ++ " with 2 elements"
  let (first, elements) ← elements.require 0 expected Document.readString
  let (second, elements) ← elements.require 1 expected Document.readString
  .ok ((first, second), elements)

def ofJson (p : TextPair) : Reading (String × String) :=
  readRecord p.name (fun _ => p.ofElements) {} (fun _ => p.takeUp) p.finish

end TextPair

namespace CompiledClause

def pair : TextPair := ⟨"struct CompiledClause", "field", "query"⟩

def toJson (c : CompiledClause) : Value := pair.toJson c.field c.query

def ofJson : Reading CompiledClause := fun levels document =>
  (pair.ofJson levels document).map fun (field, query) => ⟨field, query⟩

def listOfJson : Reading (List CompiledClause) := Document.readList ofJson

end CompiledClause

namespace EscapedValue

def pair : TextPair := ⟨"struct EscapedValue", "input", "escaped"⟩

def toJson (e : EscapedValue) : Value := pair.toJson e.input e.escaped

def ofJson : Reading EscapedValue := fun levels document =>
  (pair.ofJson levels document).map fun (input, escaped) => ⟨input, escaped⟩

end EscapedValue

namespace CommandLine.OutputFormat

def ofJson : Reading OutputFormat := Document.readChoice ofName? ["human", "json"]

end CommandLine.OutputFormat

inductive Report where
  | clauses (list : List CompiledClause)
  | escaped (value : EscapedValue)
  deriving DecidableEq, Repr

namespace Report

open SolrClause.CommandLine

/-- One line for each clause, or one for the value. -/
def humanLines : Report → List String
  | .clauses list => list.map CompiledClause.query
  | .escaped value => [value.escaped]

def toJson : Report → Value
  | .clauses list => .array (list.map CompiledClause.toJson)
  | .escaped value => value.toJson

/-- The lines of a text, each with its line break. -/
def joinLines (lines : List String) : String := String.join (lines.map (· ++ "\n"))

def text (report : Report) (format : OutputFormat) (pretty : Bool) : String :=
  match format with
  | .human => joinLines report.humanLines
  | .json =>
    joinLines [if pretty then report.toJson.pretty else report.toJson.compact]

end Report

end SolrClause
