import SolrClause.Proofs.Form.Criteria
import SolrClause.Proofs.Form.Integer
import SolrClause.Proofs.Json.Short

/-! Criteria with floats, saved and loaded again. A number that is not finite has no JSON form and
is written as null. In place of a comparand nothing can be read then, and in place of a bound an
open bound is read: the only silent changes are to such bounds and to floats that their own numerals
miss. A float whose numeral is short is not missed. -/

namespace SolrClause

open SolrClause.Json

namespace Scalar

/-- The scalar is a float that is no number, or infinite. -/
def NonFinite (value : Scalar) : Prop :=
  match value with
  | .float x => x.ratio? = none
  | _ => False

instance (value : Scalar) : Decidable value.NonFinite :=
  match value with
  | .float x => inferInstanceAs (Decidable (x.ratio? = none))
  | .boolean _ | .integer _ | .timestamp _ | .text _ => isFalse id

theorem document_of_nonFinite {value : Scalar} (h : value.NonFinite) :
    value.toJson.document = .null := by
  cases value with
  | float x =>
    have hratio : x.ratio? = none := h
    rw [Number.Binary64.ratio?] at hratio
    rw [toJson, Value.document, Number.document]
    cases hcontent : x.content with
    | finite negative significand exponent =>
      rw [hcontent] at hratio
      cases hratio
    | infinite negative => rfl
    | notANumber => rfl
  | boolean b => exact h.elim
  | integer n => exact h.elim
  | timestamp t => exact h.elim
  | text s => exact h.elim

/-- A float whose numeral is short is kept. -/
theorem kept_of_short {x : Number.Binary64} {negative : Bool} {significand : Nat} {exponent : Int}
    (h : x.content = .finite negative significand exponent)
    (hshort : (Numeral.ofFinite negative significand exponent).Short) : (float x).Kept := by
  have hdocument : (float x).toJson.document =
      .number (.ofFinite negative significand exponent) := by
    rw [toJson, Value.document, Number.document, h]
  rw [Kept, parse_compact, hdocument, ofJson_number, Numeral.value?_ofFinite h hshort]
  exact ofValue_float x

/-- The scalar is no float, or a finite one whose numeral is short. -/
def ShortForm (value : Scalar) : Prop :=
  match value with
  | .float x =>
    match x.content with
    | .finite negative significand exponent =>
      (Numeral.ofFinite negative significand exponent).Short
    | _ => False
  | _ => True

instance (value : Scalar) : Decidable value.ShortForm := by
  unfold ShortForm
  split
  · split <;> infer_instance
  · infer_instance

theorem kept_of_shortForm {value : Scalar} (h : value.ShortForm) : value.Kept := by
  cases value with
  | float x =>
    rw [ShortForm] at h
    split at h
    · rename_i hcontent
      exact kept_of_short hcontent h
    · exact h.elim
  | boolean b => exact kept_of_notFloat nofun
  | integer n => exact kept_of_notFloat nofun
  | timestamp t => exact kept_of_notFloat nofun
  | text s => exact kept_of_notFloat nofun

theorem ofJson_of_nonFinite (levels : Nat) {value : Scalar} (h : value.NonFinite) :
    ofJson levels value.toJson.document = .error .noScalar := by
  rw [document_of_nonFinite h]
  rfl

end Scalar

namespace Predicate

def bounds : Predicate → List Scalar
  | .compare _ _ => []
  | .between range => range.lower.toList ++ range.upper.toList

/-- A predicate whose bounds are finite is read back, unless its comparand is not finite. -/
theorem ofJson_toJson_or_error {levels : Nat} (hlevels : 4 ≤ levels) {p : Predicate}
    (hbounds : ∀ value ∈ p.bounds, ¬value.NonFinite)
    (hkept : ∀ value ∈ p.scalars, ¬value.NonFinite → value.Kept) :
    (∀ value ∈ p.scalars, ¬value.NonFinite) ∧ ofJson levels p.toJson.document = .ok p ∨
      (∃ value ∈ p.scalars, value.NonFinite) ∧
        ofJson levels p.toJson.document = .error .noScalar := by
  by_cases hfinite : ∀ value ∈ p.scalars, ¬value.NonFinite
  · exact .inl ⟨hfinite, ofJson_toJson hlevels fun value hvalue =>
      hkept value hvalue (hfinite value hvalue)⟩
  · simp only [not_forall, not_not] at hfinite
    obtain ⟨value, hvalue, hnonFinite⟩ := hfinite
    refine .inr ⟨⟨value, hvalue, hnonFinite⟩, ?_⟩
    cases p with
    | between range => exact absurd hnonFinite (hbounds value hvalue)
    | compare comparison value' =>
      obtain rfl : value = value' := List.mem_singleton.mp hvalue
      have hread := Scalar.ofJson_of_nonFinite (levels - 1) hnonFinite
      rw [ofJson_eq_ofContent (by omega), payload, operation, Payload.toJson, ofContent, hread]
      rfl

end Predicate

namespace Criteria

section Reload

variable {c d : Criteria}

theorem ofJson_toJson_error {levels : Nat} (hlevels : 6 ≤ levels)
    (h : ∀ p ∈ c.predicates, Predicate.ofJson (levels - 2) p.toJson.document = .ok p ∨
      Predicate.ofJson (levels - 2) p.toJson.document = .error .noScalar)
    (herror : ∃ p ∈ c.predicates,
      Predicate.ofJson (levels - 2) p.toJson.document = .error .noScalar) :
    ofJson levels c.toJson.document = .error .noScalar := by
  have hlist := Document.readList_document_error (show 2 ≤ levels - 1 by omega) h herror
  rw [ofJson_eq (by omega), PredicateSet.ofJson, PredicateSet.toJson, hlist]
  rfl

/-- Criteria are loaded as they were saved if their floats have short numerals, whatever the order
in which the predicates were written. -/
theorem parse_toJson_of_shortForm (hsame : d.Same c)
    (hshort : ∀ p ∈ c.predicates, ∀ value ∈ p.scalars, value.ShortForm) :
    ∃ e, parse ofJson d.toJson.compact.toList = .ok e ∧ e.Same c := by
  have hkept : ∀ p ∈ d.predicates, ∀ value ∈ p.scalars, value.Kept := fun p hp value hvalue =>
    Scalar.kept_of_shortForm (hshort p (hsame.2.2.mem_iff.mp hp) value hvalue)
  refine ⟨d, ?_, hsame⟩
  rw [parse_compact, ofJson_toJson_of_kept (by decide) hkept]

/-- The price `19.99` has a short numeral. -/
example : (Scalar.float ⟨0x4033FD70A3D70A3D⟩).ShortForm := by decide +kernel

/-- Saving criteria and loading them again changes nothing silently, as long as no bound is infinite
or no number, and the numerals of the finite floats are read as those floats. What is loaded is the
criteria that were saved, in whatever order the predicates were written; and loading fails exactly
if some number compared with is not finite. -/
theorem parse_toJson_faithful (hsame : d.Same c)
    (hbounds : ∀ p ∈ c.predicates, ∀ value ∈ p.bounds, ¬value.NonFinite)
    (hkept : ∀ p ∈ c.predicates, ∀ value ∈ p.scalars, ¬value.NonFinite → value.Kept) :
    (∀ e, parse ofJson d.toJson.compact.toList = .ok e → e.Same c) ∧
    ((∀ p ∈ c.predicates, ∀ value ∈ p.scalars, ¬value.NonFinite) →
      ∃ e, parse ofJson d.toJson.compact.toList = .ok e) ∧
    ((∃ p ∈ c.predicates, ∃ value ∈ p.scalars, value.NonFinite) →
      parse ofJson d.toJson.compact.toList = .error .noScalar) := by
  have hmem {p : Predicate} : p ∈ d.predicates ↔ p ∈ c.predicates := hsame.2.2.mem_iff
  have hread : ∀ p ∈ d.predicates, _ := fun p hp =>
    Predicate.ofJson_toJson_or_error (show 4 ≤ levelLimit - 2 by decide)
      (hbounds p (hmem.mp hp)) (hkept p (hmem.mp hp))
  have hfinite : (∀ p ∈ c.predicates, ∀ value ∈ p.scalars, ¬value.NonFinite) →
      ofJson levelLimit d.toJson.document = .ok d := fun hfinite =>
    ofJson_toJson_of_kept (by decide) fun p hp value hvalue =>
      hkept p (hmem.mp hp) value hvalue (hfinite p (hmem.mp hp) value hvalue)
  have herror : (∃ p ∈ c.predicates, ∃ value ∈ p.scalars, value.NonFinite) →
      ofJson levelLimit d.toJson.document = .error .noScalar := by
    rintro ⟨p, hp, value, hvalue, hnonFinite⟩
    refine ofJson_toJson_error (by decide) (fun p hp => (hread p hp).imp And.right And.right) ?_
    refine ⟨p, hmem.mpr hp, ?_⟩
    rcases hread p (hmem.mpr hp) with hok | hfault
    · exact absurd hnonFinite (hok.1 value hvalue)
    · exact hfault.2
  rw [parse_compact]
  refine ⟨fun e he => ?_, fun h => ⟨d, hfinite h⟩, herror⟩
  by_cases hall : ∀ p ∈ c.predicates, ∀ value ∈ p.scalars, ¬value.NonFinite
  · obtain rfl : d = e := Except.ok.inj ((hfinite hall).symm.trans he)
    exact hsame
  · simp only [not_forall, not_not, exists_prop] at hall
    rw [herror hall] at he
    cases he

/-- Floats that are kept, with the predicates written in another order than they were given. -/
theorem parse_toJson_faithful_halves :
    ∃ e, parse ofJson (ofParts "price" true
        [.between ⟨some (.float ⟨0xBFE0000000000000⟩), none, true, false⟩,
          .compare .equals (.float ⟨0x3FF8000000000000⟩)]).toJson.compact.toList = .ok e ∧
      e.Same (ofParts "price" true
        [.compare .equals (.float ⟨0x3FF8000000000000⟩),
          .between ⟨some (.float ⟨0xBFE0000000000000⟩), none, true, false⟩]) := by
  obtain ⟨hsame, hread, -⟩ := parse_toJson_faithful
    (c := ofParts "price" true [.compare .equals (.float ⟨0x3FF8000000000000⟩),
      .between ⟨some (.float ⟨0xBFE0000000000000⟩), none, true, false⟩])
    (d := ofParts "price" true [.between ⟨some (.float ⟨0xBFE0000000000000⟩), none, true, false⟩,
      .compare .equals (.float ⟨0x3FF8000000000000⟩)])
    (by decide) (by decide) (by decide +kernel)
  obtain ⟨e, he⟩ := hread (by decide)
  exact ⟨e, he, hsame e he⟩

end Reload

/-- Criteria that are loaded as others than were saved: a bound that is no number comes back as no
bound, and a whole number just below `2 ^ 53` as the one before it. -/
theorem exists_parse_toJson_not_same :
    (∃ e, parse ofJson (ofParts "n" false
        [.between ⟨some (.float ⟨0x7FF8000000000000⟩), none, true, true⟩]).toJson.compact.toList =
          .ok e ∧
      ¬e.Same (ofParts "n" false
        [.between ⟨some (.float ⟨0x7FF8000000000000⟩), none, true, true⟩])) ∧
    (∃ e, parse ofJson (ofParts "n" false
        [.compare .equals (.float ⟨0x433FFFFFFFFFFFFF⟩)]).toJson.compact.toList = .ok e ∧
      ¬e.Same (ofParts "n" false [.compare .equals (.float ⟨0x433FFFFFFFFFFFFF⟩)])) := by
  refine ⟨⟨ofParts "n" false [.between ⟨none, none, true, true⟩], ?_, by decide⟩,
    ofParts "n" false [.compare .equals (.float ⟨0x433FFFFFFFFFFFFE⟩)], ?_, by decide⟩
  · decide +kernel
  · decide +kernel

end Criteria

end SolrClause
