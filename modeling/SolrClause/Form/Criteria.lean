import SolrClause.Criteria
import SolrClause.Form.Predicate

/-! The JSON form of criteria: a record of the field, the flag and the list of predicates. Only the
field is required, and repeated predicates count once. -/

namespace SolrClause

open SolrClause.Json

namespace PredicateSet

def toJson (set : PredicateSet) : Value := .array (set.toList.map Predicate.toJson)

def ofJson : Reading PredicateSet := fun levels document =>
  (Document.readList Predicate.ofJson levels document).map ofList

end PredicateSet

namespace Criteria

def toJson (c : Criteria) : Value :=
  .object
    [("field", .string c.field), ("negating", .boolean c.negating),
      ("predicates", c.predicates.toJson)]

def expected : String := "struct Criteria"

def expectedLength : String := "struct Criteria with 3 elements"

structure Draft where
  field : Option String := none
  negating : Option Bool := none
  predicates : Option PredicateSet := none

namespace Draft

/-- Takes up one member; others than the three fields are skipped. -/
def takeUp (levels : Nat) (draft : Draft) (name : String) (document : Document) :
    Except Fault Draft :=
  if name = "field" then do
    .ok { draft with field := ← setField name draft.field document.readString }
  else if name = "negating" then do
    .ok { draft with negating := ← setField name draft.negating document.readBoolean }
  else if name = "predicates" then do
    let predicates ← setField name draft.predicates (PredicateSet.ofJson levels document)
    .ok { draft with predicates }
  else do
    document.skip
    .ok draft

def finish (draft : Draft) : Except Fault Criteria := do
  let field ← requireField "field" draft.field
  .ok ⟨field, draft.negating.getD false, draft.predicates.getD .empty⟩

end Draft

def ofElements (levels : Nat) (elements : Elements) : Except Fault (Criteria × Elements) := do
  let (field, elements) ← elements.require 0 expectedLength Document.readString
  let (negating, elements) ← elements.take Document.readBoolean
  let (predicates, elements) ← elements.take (PredicateSet.ofJson levels)
  .ok (⟨field, negating.getD false, predicates.getD .empty⟩, elements)

def ofJson : Reading Criteria := readRecord expected ofElements {} Draft.takeUp Draft.finish

end Criteria

end SolrClause
