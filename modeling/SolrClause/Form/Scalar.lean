import SolrClause.Json.Reading

/-! The JSON form of scalars. Booleans, numbers and strings stand for themselves; a timestamp is an
object with one member, so that no string is ever taken for one. -/

namespace SolrClause

open SolrClause.Json

namespace Timestamp

def member : String := "datetime"

def toJson (t : Timestamp) : Value := .object [(member, .string t.text)]

end Timestamp

namespace Scalar

def toJson : Scalar → Value
  | .boolean value => .boolean value
  | .integer value => .number (.integer value.toInt)
  | .float value => .number (.float value)
  | .timestamp value => value.toJson
  | .text value => .string value

def booleanOfValue? : Value → Option Scalar
  | .boolean value => some (.boolean value)
  | _ => none

/-- An integer of 64 bits with a sign. -/
def integerOfValue? : Value → Option Scalar
  | .number (.integer value) =>
    if Int64.minValue.toInt ≤ value ∧ value ≤ Int64.maxValue.toInt then
      some (.integer (Int64.ofInt value))
    else none
  | _ => none

/-- A number that is not an integer. -/
def floatOfValue? : Value → Option Scalar
  | .number (.float value) => some (.float value)
  | _ => none

/-- The text of a timestamp, as the only member of an object or the only item of an array. -/
def timestampOfValue? : Value → Option Scalar
  | .object [(key, Value.string content)] =>
    if key = Timestamp.member then (Timestamp.ofText? content).map Scalar.timestamp else none
  | .array [Value.string content] => (Timestamp.ofText? content).map Scalar.timestamp
  | _ => none

def textOfValue? : Value → Option Scalar
  | .string value => some (.text value)
  | _ => none

/-- The scalar of a value, by the first type that it has. -/
def ofValue? (value : Value) : Option Scalar :=
  booleanOfValue? value <|> integerOfValue? value <|> floatOfValue? value <|>
    timestampOfValue? value <|> textOfValue? value

def ofValue (value : Value) : Except Fault Scalar :=
  match ofValue? value with
  | some scalar => .ok scalar
  | none => .error .noScalar

def ofJson : Reading Scalar := fun levels document => do
  ofValue (← document.value levels)

end Scalar

end SolrClause
