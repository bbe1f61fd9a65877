import SolrClause.Form.Scalar
import SolrClause.Predicate

/-! The JSON form of ranges: a record of the two bounds and the two flags. An open bound is `null`
or left out, and the flags are required. A range is read from a document, or from a value that was
read before it was known to be a range. -/

namespace SolrClause.Range

open SolrClause.Json

def boundToJson : Option Scalar → Value
  | some value => value.toJson
  | none => .null

def toJson (range : Range) : Value :=
  .object
    [("lower", boundToJson range.lower), ("upper", boundToJson range.upper),
      ("include_lower", .boolean range.includeLower),
      ("include_upper", .boolean range.includeUpper)]

def expected : String := "struct Range"

def expectedLength : String := "struct Range with 4 elements"

structure Draft where
  lower : Option (Option Scalar) := none
  upper : Option (Option Scalar) := none
  includeLower : Option Bool := none
  includeUpper : Option Bool := none

/-- How the members of a range are read. -/
structure Source (β : Type) where
  bound : β → Except Fault (Option Scalar)
  flag : β → Except Fault Bool
  skip : β → Except Fault Unit

namespace Draft

/-- Takes up one member; others than the four fields are skipped. -/
def takeUp (source : Source β) (draft : Draft) (name : String) (content : β) :
    Except Fault Draft :=
  if name = "lower" then do
    .ok { draft with lower := ← setField name draft.lower (source.bound content) }
  else if name = "upper" then do
    .ok { draft with upper := ← setField name draft.upper (source.bound content) }
  else if name = "include_lower" then do
    .ok { draft with includeLower := ← setField name draft.includeLower (source.flag content) }
  else if name = "include_upper" then do
    .ok { draft with includeUpper := ← setField name draft.includeUpper (source.flag content) }
  else do
    source.skip content
    .ok draft

def finish (draft : Draft) : Except Fault Range := do
  let includeLower ← requireField "include_lower" draft.includeLower
  let includeUpper ← requireField "include_upper" draft.includeUpper
  .ok ⟨draft.lower.getD none, draft.upper.getD none, includeLower, includeUpper⟩

end Draft

/-- The members of a range in a document. -/
def ofDocument (levels : Nat) : Source Document :=
  ⟨Document.readOptional Scalar.ofJson levels, Document.readBoolean, Document.skip⟩

def ofElements (levels : Nat) (elements : Elements) : Except Fault (Range × Elements) := do
  let source := ofDocument levels
  let (lower, elements) ← elements.take source.bound
  let (upper, elements) ← elements.take source.bound
  let (includeLower, elements) ← elements.require 2 expectedLength source.flag
  let (includeUpper, elements) ← elements.require 3 expectedLength source.flag
  .ok (⟨lower.getD none, upper.getD none, includeLower, includeUpper⟩, elements)

def ofJson : Reading Range :=
  readRecord expected ofElements {} (fun levels => Draft.takeUp (ofDocument levels)) Draft.finish

/-! ### Ranges from values -/

def boundOfValue : Value → Except Fault (Option Scalar)
  | .null => .ok none
  | value => (Scalar.ofValue value).map some

def flagOfValue : Value → Except Fault Bool
  | .boolean b => .ok b
  | value => .error (.wrongType value.found "a boolean")

/-- The members of a range in a value. -/
def ofMembers : Source Value := ⟨boundOfValue, flagOfValue, fun _ => .ok ()⟩

def ofItems (items : List Value) : Except Fault Range :=
  match items with
  | lower :: upper :: includeLower :: includeUpper :: rest => do
    let lower ← boundOfValue lower
    let upper ← boundOfValue upper
    let includeLower ← flagOfValue includeLower
    let includeUpper ← flagOfValue includeUpper
    if rest.isEmpty then .ok ⟨lower, upper, includeLower, includeUpper⟩
    else .error (.wrongLength items.length "4 elements in sequence")
  | [lower, upper, includeLower] => do
    let _ ← boundOfValue lower
    let _ ← boundOfValue upper
    let _ ← flagOfValue includeLower
    .error (.wrongLength 3 expectedLength)
  | short => do
    let _ ← short.mapM boundOfValue
    .error (.wrongLength 2 expectedLength)

def ofValue : Value → Except Fault Range
  | .array items => ofItems items
  | .object members => do
    let draft ← members.foldlM (fun draft (name, value) => Draft.takeUp ofMembers draft name value)
      ({} : Draft)
    draft.finish
  | value => .error (.wrongType value.found expected)

end SolrClause.Range
