import SolrClause.Proofs.Form.Rearranged
import SolrClause.Proofs.Json.Strict

/-! Criteria are read strictly: whatever part of them a reader keeps or skips, it refuses them when
something is wrong anywhere in their text. -/

namespace SolrClause

open SolrClause.Json

theorem Scalar.strict_ofJson (levels : Nat) : Strict (ofJson levels) := by
  intro d value h
  obtain ⟨v, hv, -⟩ := bind_eq_ok.mp h
  exact Document.strict_value levels d v hv

namespace Range

variable {levels : Nat}

theorem strict_bound : Strict (ofDocument levels).bound :=
  Document.strict_readOptional (Scalar.strict_ofJson levels)

theorem strict_takeUp (draft : Draft) (name : String) :
    Strict (Draft.takeUp (ofDocument levels) draft name) := by
  intro d next h
  rcases takeUp_eq_ok.mp h with ⟨-, -, v, hv, -⟩ | ⟨-, -, v, hv, -⟩ | ⟨-, -, b, hb, -⟩ |
    ⟨-, -, b, hb, -⟩ | ⟨-, hskip, -⟩
  · exact strict_bound d v hv
  · exact strict_bound d v hv
  · exact Document.strict_readBoolean d b hb
  · exact Document.strict_readBoolean d b hb
  · exact hskip

theorem skips_of_ofElements {elements rest : Elements} {range : Range}
    (h : ofElements levels elements = .ok (range, rest)) (hrest : rest.Skips) :
    elements.Skips := by
  obtain ⟨⟨lower, elements₁⟩, hlower, h⟩ := bind_eq_ok.mp h
  obtain ⟨⟨upper, elements₂⟩, hupper, h⟩ := bind_eq_ok.mp h
  obtain ⟨⟨includeLower, elements₃⟩, hincludeLower, h⟩ := bind_eq_ok.mp h
  obtain ⟨⟨includeUpper, elements₄⟩, hincludeUpper, h⟩ := bind_eq_ok.mp h
  cases h
  have h₃ := hrest.of_require Document.strict_readBoolean hincludeUpper
  have h₂ := h₃.of_require Document.strict_readBoolean hincludeLower
  exact (h₂.of_take strict_bound hupper).of_take strict_bound hlower

theorem strict_ofJson (levels : Nat) : Strict (ofJson levels) :=
  strict_readRecord (fun _ _ _ _ => skips_of_ofElements) (fun _ => strict_takeUp) levels

end Range

namespace Predicate

variable {levels : Nat}

theorem strict_ofContent (operation : Operation) :
    Strict fun d => ofContent levels d operation := by
  cases operation with
  | compare comparison => exact (Scalar.strict_ofJson levels).map _
  | between => exact (Range.strict_ofJson levels).map _

theorem skips_of_ofElements {elements rest : Elements} {p : Predicate}
    (h : ofElements levels elements = .ok (p, rest)) (hrest : rest.Skips) : elements.Skips := by
  obtain ⟨⟨operation, left⟩, hoperation, hcontent⟩ := bind_eq_ok.mp h
  have hleft := hrest.of_require (strict_ofContent operation) hcontent
  exact hleft.of_require (Document.strict_readName _ _) hoperation

/-- Only an object that is closed has its parts found to the end. -/
theorem closed_of_findPart {close : ObjectEnd} {members : List (Quotation × Document)}
    (h : findPart close members = .ok none) : close = .closed := by
  induction members with
  | nil =>
    obtain ⟨hclose, -⟩ := check_bind_eq_ok.mp h
    exact ObjectEnd.check_eq_ok.mp hclose
  | cons member members ih =>
    obtain ⟨name, -, h⟩ := bind_eq_ok.mp h
    cases hpart : Part.ofName? name with
    | some part =>
      rw [hpart] at h
      cases h
    | none =>
      rw [hpart] at h
      exact ih (check_bind_eq_ok.mp h).2

theorem closed_of_checkRest {close : ObjectEnd} {members : List (Quotation × Document)}
    (h : checkRest close members = .ok ()) : close = .closed := by
  obtain ⟨found, hfound, h⟩ := bind_eq_ok.mp h
  cases found with
  | none => exact closed_of_findPart hfound
  | some part => cases h

theorem closed_of_ofMembers {close : ObjectEnd} {members : List (Quotation × Document)}
    {p : Predicate} (h : ofMembers levels members close = .ok p) : close = .closed := by
  obtain ⟨first, hfirst, h⟩ := bind_eq_ok.mp h
  match first with
  | none => cases h
  | some (.operation, _, rest) =>
    obtain ⟨operation, -, h⟩ := bind_eq_ok.mp h
    obtain ⟨second, -, h⟩ := bind_eq_ok.mp h
    match second with
    | none => cases h
    | some (.operation, _, _) => cases h
    | some (.value, _, _) =>
      obtain ⟨q, -, h⟩ := bind_eq_ok.mp h
      exact closed_of_checkRest (check_bind_eq_ok.mp h).1
  | some (.value, _, rest) =>
    obtain ⟨value, -, h⟩ := bind_eq_ok.mp h
    obtain ⟨second, -, h⟩ := bind_eq_ok.mp h
    match second with
    | none => cases h
    | some (.value, _, _) => cases h
    | some (.operation, _, _) =>
      obtain ⟨operation, -, h⟩ := bind_eq_ok.mp h
      obtain ⟨q, -, h⟩ := bind_eq_ok.mp h
      exact closed_of_checkRest (check_bind_eq_ok.mp h).1

/-- Members can be skipped when those that are parts can be. -/
theorem skipMembers_of_parts {members : List (Quotation × Document)}
    {parts : List (Part × Document)} (h : HasParts members parts)
    (hparts : ∀ part ∈ parts, part.2.skip = .ok ()) : Document.skipMembers members = .ok () := by
  induction members generalizing parts with
  | nil => rfl
  | cons m members ih =>
    obtain ⟨name, hname, -⟩ := h.passes m List.mem_cons_self
    have hclosed := Quotation.closed_of_text hname
    cases hpart : Part.ofName? name with
    | none =>
      obtain ⟨hskip, hrest⟩ := (hasParts_cons_of_none hname hpart).mp h
      exact Document.skipMembers_cons_eq_ok.mpr ⟨hclosed, hskip, ih hrest hparts⟩
    | some part =>
      obtain ⟨more, rfl, hrest⟩ := (hasParts_cons_of_some hname hpart).mp h
      obtain ⟨hskip, hmore⟩ := List.forall_mem_cons.mp hparts
      exact Document.skipMembers_cons_eq_ok.mpr ⟨hclosed, hskip, ih hrest hmore⟩

theorem strict_ofJson (levels : Nat) : Strict (ofJson levels) := by
  intro d p h
  cases d with
  | array items close =>
    obtain ⟨inner, -, h⟩ := bind_eq_ok.mp h
    obtain ⟨⟨record, rest⟩, hrecord, h⟩ := bind_eq_ok.mp h
    obtain ⟨hfinish, -⟩ := check_bind_eq_ok.mp h
    exact Document.skip_array_eq_ok.mpr
      (skips_of_ofElements hrecord (Elements.skips_of_finish hfinish))
  | object members close =>
    obtain ⟨inner, -, h⟩ := bind_eq_ok.mp h
    obtain rfl := closed_of_ofMembers h
    refine Document.skip_object_eq_ok.mpr ⟨?_, rfl⟩
    obtain ⟨o, v, operation, ho, ⟨hparts, hv⟩ | ⟨hparts, hv⟩⟩ := ofMembers_eq_ok.mp h
    all_goals have hoperation : o.skip = .ok () := Document.strict_readChoice _ _ inner o _ ho
    · have hvalue : v.skip = .ok () := strict_ofContent operation v p hv
      exact skipMembers_of_parts hparts (by simp [hoperation, hvalue])
    · obtain ⟨value, hvalue, -⟩ := bind_eq_ok.mp hv
      have hvalue : v.skip = .ok () := Document.strict_value inner v value hvalue
      exact skipMembers_of_parts hparts (by simp [hoperation, hvalue])
  | _ => exact absurd h nofun

end Predicate

theorem PredicateSet.strict_ofJson (levels : Nat) : Strict (ofJson levels) :=
  (Document.strict_readList Predicate.strict_ofJson levels).map ofList

namespace Criteria

theorem strict_takeUp (levels : Nat) (draft : Draft) (name : String) :
    Strict (Draft.takeUp levels draft name) := by
  intro d next h
  rcases takeUp_eq_ok.mp h with ⟨-, -, s, hs, -⟩ | ⟨-, -, b, hb, -⟩ | ⟨-, -, set, hset, -⟩ |
    ⟨-, hskip, -⟩
  · exact Document.strict_readString d s hs
  · exact Document.strict_readBoolean d b hb
  · exact PredicateSet.strict_ofJson levels d set hset
  · exact hskip

theorem skips_of_ofElements {levels : Nat} {elements rest : Elements} {c : Criteria}
    (h : ofElements levels elements = .ok (c, rest)) (hrest : rest.Skips) : elements.Skips := by
  obtain ⟨⟨field, elements₁⟩, hfield, h⟩ := bind_eq_ok.mp h
  obtain ⟨⟨negating, elements₂⟩, hnegating, h⟩ := bind_eq_ok.mp h
  obtain ⟨⟨predicates, elements₃⟩, hpredicates, h⟩ := bind_eq_ok.mp h
  cases h
  have h₂ := hrest.of_take (PredicateSet.strict_ofJson levels) hpredicates
  have h₁ := h₂.of_take Document.strict_readBoolean hnegating
  exact h₁.of_require Document.strict_readString hfield

theorem strict_ofJson (levels : Nat) : Strict (ofJson levels) :=
  strict_readRecord (fun _ _ _ _ => skips_of_ofElements) strict_takeUp levels

end Criteria

end SolrClause
