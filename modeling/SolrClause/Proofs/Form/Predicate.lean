import SolrClause.Form.Predicate
import SolrClause.Proofs.Form.Scalar

/-! Predicates and ranges survive their JSON form, as far as their scalars do. What is read in place
of each bound decides what is read in place of the range. -/

namespace SolrClause

open SolrClause.Json

namespace Range

variable {levels : Nat} {range : Range} {lower upper : Option Scalar}

/-- A bound of a range as it is read back, a level of nesting below the range. -/
def readBound (levels : Nat) (bound : Option Scalar) : Except Fault (Option Scalar) :=
  Document.readOptional Scalar.ofJson (levels - 1) (boundToJson bound).document

theorem readBound_eq (hlevels : 3 ≤ levels) {bound : Option Scalar}
    (h : ∀ value ∈ bound, value.Kept) : readBound levels bound = .ok bound := by
  cases bound with
  | none => rfl
  | some value =>
    exact Scalar.readOptional_of_ok ((h value rfl).ofJson_toJson (show 2 ≤ levels - 1 by omega))

/-- A range is read back with its flags, and with what its bounds are read back as. -/
theorem ofJson_toJson (hlevels : 2 ≤ levels) (hlower : readBound levels range.lower = .ok lower)
    (hupper : readBound levels range.upper = .ok upper) :
    ofJson levels range.toJson.document =
      .ok ⟨lower, upper, range.includeLower, range.includeUpper⟩ := by
  rw [readBound] at hlower hupper
  rw [toJson, Value.document, ofJson, readRecord, descend_eq hlevels, ok_bind]
  simp [memberDocuments, Draft.takeUp, ofDocument, setField, hlower, hupper, ObjectEnd.check,
    Draft.finish, requireField]

end Range

namespace Predicate

variable {levels : Nat}

theorem ofContent_toJson (hlevels : 3 ≤ levels) {p : Predicate}
    (h : ∀ value ∈ p.scalars, value.Kept) :
    ofContent levels p.payload.toJson.document p.operation = .ok p := by
  cases p with
  | compare comparison value =>
    have hread := (h value List.mem_cons_self).ofJson_toJson (show 2 ≤ levels by omega)
    rw [payload, operation, Payload.toJson, ofContent, hread, map_ok]
  | between range =>
    have hlower := Range.readBound_eq hlevels fun value hvalue =>
      h value (mem_scalars_between.mpr (.inl hvalue))
    have hupper := Range.readBound_eq hlevels fun value hvalue =>
      h value (mem_scalars_between.mpr (.inr hvalue))
    rw [payload, operation, Payload.toJson, ofContent,
      Range.ofJson_toJson (by omega) hlower hupper, map_ok]

theorem findPart_cons {close : ObjectEnd} (part : Part) (d : Document)
    (rest : List (Quotation × Document)) :
    findPart close ((.ofText part.name, d) :: rest) = .ok (some (part, d, rest)) := by
  have hname : Part.ofName? part.name = some part := by cases part <;> rfl
  rw [findPart, Quotation.text_ofText, ok_bind, hname]

/-- A payload is read once its operation is known. -/
theorem ofJson_object (hlevels : 2 ≤ levels) (operation : Operation) (d : Document) :
    ofJson levels (.object [(.ofText Part.operation.name, operation.toJson.document),
      (.ofText Part.value.name, d)] .closed) = ofContent (levels - 1) d operation := by
  have hoperation : Operation.ofJson (levels - 1) operation.toJson.document = .ok operation :=
    Document.readChoice_document (Operation.ofName?_name operation) (levels - 1)
  rw [ofJson, descend_eq hlevels, ok_bind, ofMembers, findPart_cons, ok_bind]
  dsimp only
  rw [hoperation, ok_bind, findPart_cons, ok_bind]
  dsimp only
  cases ofContent (levels - 1) d operation <;> rfl

theorem ofJson_eq_ofContent (hlevels : 2 ≤ levels) (p : Predicate) :
    ofJson levels p.toJson.document =
      ofContent (levels - 1) p.payload.toJson.document p.operation := by
  have hmembers : memberDocuments
      [("operation", p.operation.toJson), ("value", p.payload.toJson)] =
      [(.ofText Part.operation.name, p.operation.toJson.document),
        (.ofText Part.value.name, p.payload.toJson.document)] := rfl
  rw [toJson, Value.document, hmembers, ofJson_object hlevels]

/-- A predicate is read back from its form if its scalars are. -/
theorem ofJson_toJson (hlevels : 4 ≤ levels) {p : Predicate}
    (h : ∀ value ∈ p.scalars, value.Kept) : ofJson levels p.toJson.document = .ok p := by
  rw [ofJson_eq_ofContent (by omega), ofContent_toJson (by omega) h]

end Predicate

end SolrClause
