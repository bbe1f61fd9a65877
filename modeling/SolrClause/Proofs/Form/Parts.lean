import Mathlib.Data.List.Permutation
import SolrClause.Proofs.Form.Depth
import SolrClause.Proofs.Form.Range

/-! Predicates in any order. A predicate is read from an object exactly when one member is the
operation and one is the payload, and the others are skipped; which of the two comes first decides
only whether the payload is read directly or from its value. -/

namespace SolrClause.Predicate

open SolrClause.Json

def fields : List String := [Part.operation.name, Part.value.name]

/-! ### The parts of an object -/

namespace Part

theorem ofName?_eq_some {name : String} {part : Part} :
    ofName? name = some part ↔ name = part.name := by
  rw [ofName?]
  cases part <;> split_ifs with hoperation hvalue <;> simp_all [Part.name]

theorem ofName?_eq_none {name : String} : ofName? name = none ↔ name ∉ fields := by
  rw [ofName?]
  split_ifs with hoperation hvalue <;> simp_all [fields]

end Part

/-- The part that a member is, with its document. -/
def part? (m : Quotation × Document) : Option (Part × Document) :=
  match m.1.text with
  | .ok name => (Part.ofName? name).map (·, m.2)
  | .error _ => none

/-- The key stands for a name, and the member can be skipped unless it is a part. -/
def Passes (m : Quotation × Document) : Prop :=
  ∃ name, m.1.text = .ok name ∧ (Part.ofName? name = none → m.2.skip = .ok ())

/-- The parts of an object in their order; the other members can be skipped. -/
structure HasParts (members : List (Quotation × Document)) (parts : List (Part × Document)) :
    Prop where
  passes : ∀ m ∈ members, Passes m
  filterMap : members.filterMap part? = parts

section HasParts

theorem hasParts_iff {members : List (Quotation × Document)} {parts : List (Part × Document)} :
    HasParts members parts ↔ (∀ m ∈ members, Passes m) ∧ members.filterMap part? = parts :=
  ⟨fun h => ⟨h.passes, h.filterMap⟩, fun h => ⟨h.1, h.2⟩⟩

variable {members rest : List (Quotation × Document)} {parts : List (Part × Document)}
  {m : Quotation × Document} {name : String} {part : Part} {d : Document}

theorem part?_eq (hname : m.1.text = .ok name) :
    part? m = (Part.ofName? name).map (·, m.2) := by
  rw [part?, hname]

theorem hasParts_nil : HasParts [] parts ↔ parts = [] :=
  ⟨fun h => h.filterMap.symm, fun h => ⟨nofun, h.symm⟩⟩

theorem hasParts_cons_of_none (hname : m.1.text = .ok name) (hpart : Part.ofName? name = none) :
    HasParts (m :: members) parts ↔ m.2.skip = .ok () ∧ HasParts members parts := by
  have hm : part? m = none := by rw [part?_eq hname, hpart]; rfl
  constructor
  · rintro ⟨hpasses, hparts⟩
    obtain ⟨⟨name', hname', hskip⟩, hrest⟩ := List.forall_mem_cons.mp hpasses
    obtain rfl : name = name' := Except.ok.inj (hname.symm.trans hname')
    rw [List.filterMap_cons_none hm] at hparts
    exact ⟨hskip hpart, hrest, hparts⟩
  · rintro ⟨hskip, hrest, hparts⟩
    refine ⟨List.forall_mem_cons.mpr ⟨⟨name, hname, fun _ => hskip⟩, hrest⟩, ?_⟩
    rw [List.filterMap_cons_none hm, hparts]

theorem hasParts_cons_of_some (hname : m.1.text = .ok name)
    (hpart : Part.ofName? name = some part) :
    HasParts (m :: members) parts ↔
      ∃ more, parts = (part, m.2) :: more ∧ HasParts members more := by
  have hm : part? m = some (part, m.2) := by rw [part?_eq hname, hpart]; rfl
  constructor
  · rintro ⟨hpasses, hparts⟩
    rw [List.filterMap_cons_some hm] at hparts
    exact ⟨_, hparts.symm, (List.forall_mem_cons.mp hpasses).2, rfl⟩
  · rintro ⟨more, rfl, hrest, hparts⟩
    refine ⟨List.forall_mem_cons.mpr ⟨⟨name, hname, ?_⟩, hrest⟩, ?_⟩
    · rw [hpart]
      exact nofun
    · rw [List.filterMap_cons_some hm, hparts]

theorem not_hasParts_of_error {fault : Fault} (h : m.1.text = .error fault) :
    ¬HasParts (m :: members) parts := by
  rintro ⟨hpasses, -⟩
  obtain ⟨name, hname, -⟩ := hpasses m List.mem_cons_self
  rw [h] at hname
  cases hname

/-- Looking for the next part finds none if there is none, and otherwise the first one. -/
theorem findPart_eq_none : findPart .closed members = .ok none ↔ HasParts members [] := by
  induction members with
  | nil => exact ⟨fun _ => hasParts_nil.mpr rfl, fun _ => rfl⟩
  | cons m members ih =>
    obtain ⟨key, d⟩ := m
    rw [findPart]
    cases hname : key.text with
    | error fault =>
      refine iff_of_false (fun h => ?_) (not_hasParts_of_error hname)
      cases h
    | ok name =>
      rw [ok_bind]
      cases hpart : Part.ofName? name with
      | none => rw [hasParts_cons_of_none hname hpart, ← ih, ← check_bind_eq_ok]
      | some part =>
        rw [hasParts_cons_of_some hname hpart]
        refine iff_of_false (fun h => ?_) ?_
        · cases h
        · rintro ⟨more, hcons, -⟩
          exact List.cons_ne_nil _ _ hcons.symm

theorem hasParts_cons : HasParts members ((part, d) :: parts) ↔
    ∃ rest, findPart .closed members = .ok (some (part, d, rest)) ∧ HasParts rest parts := by
  induction members with
  | nil =>
    refine iff_of_false (fun h => ?_) ?_
    · cases hasParts_nil.mp h
    · rintro ⟨rest, h, -⟩
      cases h
  | cons m members ih =>
    obtain ⟨key, d'⟩ := m
    simp only [findPart]
    cases hname : key.text with
    | error fault =>
      refine iff_of_false (not_hasParts_of_error hname) ?_
      rintro ⟨rest, h, -⟩
      cases h
    | ok name =>
      simp only [ok_bind]
      cases hpart : Part.ofName? name with
      | none =>
        rw [hasParts_cons_of_none hname hpart, ih]
        simp only [check_bind_eq_ok, and_assoc, exists_and_left]
      | some found =>
        rw [hasParts_cons_of_some hname hpart]
        constructor
        · rintro ⟨more, hparts, hmore⟩
          cases hparts
          exact ⟨members, rfl, hmore⟩
        · rintro ⟨rest, hfound, hrest⟩
          cases hfound
          exact ⟨parts, rfl, hrest⟩

theorem checkRest_eq_ok : checkRest .closed members = .ok () ↔ HasParts members [] := by
  rw [← findPart_eq_none, checkRest, bind_eq_ok]
  constructor
  · rintro ⟨found, hfound, h⟩
    cases found with
    | none => exact hfound
    | some found => cases h
  · intro h
    exact ⟨none, h, rfl⟩

/-- A predicate is read from an object with just the two parts. -/
theorem ofMembers_eq_ok {levels : Nat} {p : Predicate} :
    ofMembers levels members .closed = .ok p ↔
      ∃ o v operation, Operation.ofJson levels o = .ok operation ∧
        (HasParts members [(.operation, o), (.value, v)] ∧ ofContent levels v operation = .ok p ∨
          HasParts members [(.value, v), (.operation, o)] ∧
            (v.value levels >>= (ofValue · operation)) = .ok p) := by
  constructor
  · intro h
    obtain ⟨first, hfirst, h⟩ := bind_eq_ok.mp h
    match first with
    | none => cases h
    | some (.operation, o, rest) =>
      obtain ⟨operation, hoperation, h⟩ := bind_eq_ok.mp h
      obtain ⟨second, hsecond, h⟩ := bind_eq_ok.mp h
      match second with
      | none => cases h
      | some (.operation, _, _) => cases h
      | some (.value, v, more) =>
        obtain ⟨q, hq, h⟩ := bind_eq_ok.mp h
        obtain ⟨hmore, h⟩ := check_bind_eq_ok.mp h
        cases h
        refine ⟨o, v, operation, hoperation, .inl ⟨?_, hq⟩⟩
        exact hasParts_cons.mpr ⟨rest, hfirst,
          hasParts_cons.mpr ⟨more, hsecond, checkRest_eq_ok.mp hmore⟩⟩
    | some (.value, v, rest) =>
      obtain ⟨value, hvalue, h⟩ := bind_eq_ok.mp h
      obtain ⟨second, hsecond, h⟩ := bind_eq_ok.mp h
      match second with
      | none => cases h
      | some (.value, _, _) => cases h
      | some (.operation, o, more) =>
        obtain ⟨operation, hoperation, h⟩ := bind_eq_ok.mp h
        obtain ⟨q, hq, h⟩ := bind_eq_ok.mp h
        obtain ⟨hmore, h⟩ := check_bind_eq_ok.mp h
        cases h
        refine ⟨o, v, operation, hoperation, .inr ⟨?_, bind_eq_ok.mpr ⟨value, hvalue, hq⟩⟩⟩
        exact hasParts_cons.mpr ⟨rest, hfirst,
          hasParts_cons.mpr ⟨more, hsecond, checkRest_eq_ok.mp hmore⟩⟩
  · rintro ⟨o, v, operation, hoperation, ⟨hparts, hp⟩ | ⟨hparts, hp⟩⟩
    · obtain ⟨rest, hfirst, hrest⟩ := hasParts_cons.mp hparts
      obtain ⟨more, hsecond, hmore⟩ := hasParts_cons.mp hrest
      rw [ofMembers, hfirst, ok_bind]
      dsimp only
      rw [hoperation, ok_bind, hsecond, ok_bind]
      dsimp only
      rw [hp, ok_bind, checkRest_eq_ok.mpr hmore]
      rfl
    · obtain ⟨rest, hfirst, hrest⟩ := hasParts_cons.mp hparts
      obtain ⟨more, hsecond, hmore⟩ := hasParts_cons.mp hrest
      obtain ⟨value, hvalue, hp⟩ := bind_eq_ok.mp hp
      rw [ofMembers, hfirst, ok_bind]
      dsimp only
      rw [hvalue, ok_bind, hsecond, ok_bind]
      dsimp only
      rw [hoperation, ok_bind, hp, ok_bind, checkRest_eq_ok.mpr hmore]
      rfl

end HasParts

/-! ### Parts in either order -/

variable {levels : Nat} {allowed : Numeral → Bool} {members members' : List (Quotation × Document)}
  {o v v' : Document} {operation : Operation} {p : Predicate}

/-- A payload comes to the same whether it is read directly or from its value. -/
theorem ofContent_value (hlevels : 102 ≤ levels)
    (h : operation = .between → Range.Legible Numeral.held v) :
    Agree (ofContent levels v operation) (v.value levels >>= (ofValue · operation)) := by
  cases operation with
  | compare comparison =>
    have hassoc : ofContent levels v (.compare comparison) =
        v.value levels >>= (ofValue · (.compare comparison)) := by
      rw [ofContent, Scalar.ofJson]
      cases v.value levels <;> rfl
    rw [hassoc]
    exact .refl _
  | between =>
    have hassoc : (v.value levels >>= (ofValue · .between)) =
        (v.value levels >>= Range.ofValue).map .between := by
      cases v.value levels <;> rfl
    rw [hassoc]
    exact (Range.ofJson_value hlevels (h rfl)).map Predicate.between

/-- The object has just the two parts, in either order. -/
def Made (members : List (Quotation × Document)) (o v : Document) : Prop :=
  (∀ m ∈ members, Passes m) ∧
    (members.filterMap part?).Perm [(.operation, o), (.value, v)]

theorem made_iff : Made members o v ↔
    HasParts members [(.operation, o), (.value, v)] ∨
      HasParts members [(.value, v), (.operation, o)] := by
  rw [Made, List.perm_pair, and_or_left, hasParts_iff, hasParts_iff]

/-- A predicate is read from the two parts in either order, if payloads of ranges are legible. -/
theorem ofMembers_eq_ok_of_legible (hlevels : 102 ≤ levels)
    (h : ∀ o v, Made members o v → Operation.ofJson levels o = .ok .between →
      Range.Legible Numeral.held v) :
    ofMembers levels members .closed = .ok p ↔ ∃ o v operation, Made members o v ∧
      Operation.ofJson levels o = .ok operation ∧ ofContent levels v operation = .ok p := by
  have hvalue {o v operation} (hmade : Made members o v)
      (hoperation : Operation.ofJson levels o = .ok operation) :
      Agree (ofContent levels v operation) (v.value levels >>= (ofValue · operation)) := by
    apply ofContent_value hlevels
    rintro rfl
    exact h o v hmade hoperation
  rw [ofMembers_eq_ok]
  constructor
  · rintro ⟨o, v, operation, hoperation, ⟨hparts, hp⟩ | ⟨hparts, hp⟩⟩
    · exact ⟨o, v, operation, made_iff.mpr (.inl hparts), hoperation, hp⟩
    · have hmade := made_iff.mpr (.inr hparts)
      exact ⟨o, v, operation, hmade, hoperation, (hvalue hmade hoperation p).mpr hp⟩
  · rintro ⟨o, v, operation, hmade, hoperation, hp⟩
    refine ⟨o, v, operation, hoperation, ?_⟩
    rcases made_iff.mp hmade with hparts | hparts
    · exact .inl ⟨hparts, hp⟩
    · exact .inr ⟨hparts, (hvalue hmade hoperation p).mp hp⟩

/-! ### Parts that change -/

section Changed

variable {Q : Document → Document → Prop} {m m' : Quotation × Document}

/-- The payload changes, and no other member. -/
abbrev PayloadChanged (Q : Document → Document → Prop) : String → Document → Document → Prop :=
  FieldChanged Part.value.name Q

/-- What becomes of a part then. -/
def PartChanged (Q : Document → Document → Prop) : Part × Document → Part × Document → Prop
  | (.operation, o), part => part = (.operation, o)
  | (.value, v), part => ∃ v', part = (.value, v') ∧ Q v v'

theorem part?_changed (h : Changed (PayloadChanged Q) m m') :
    Option.Rel (PartChanged Q) (part? m) (part? m') := by
  obtain ⟨hkey, hvalue⟩ := h
  cases hname : m.1.text with
  | error fault =>
    rw [part?, part?, hkey, hname]
    exact .none
  | ok name =>
    rw [part?_eq hname, part?_eq (hkey ▸ hname)]
    cases hpart : Part.ofName? name with
    | none => exact .none
    | some part =>
      obtain rfl := Part.ofName?_eq_some.mp hpart
      cases part with
      | operation => exact .some (congrArg (Part.operation, ·) ((hvalue _ hname).2 (by decide)))
      | value => exact .some ⟨m'.2, rfl, (hvalue _ hname).1 rfl⟩

theorem passes_changed (h : Changed (PayloadChanged Q) m m') : Passes m ↔ Passes m' := by
  obtain ⟨hkey, hvalue⟩ := h
  rw [Passes, Passes, hkey]
  refine exists_congr fun name => and_congr_right fun hname => forall_congr' fun hpart => ?_
  have hother : name ≠ Part.value.name := by
    rintro rfl
    cases hpart
  rw [(hvalue name hname).2 hother]

/-- Two parts in either order, one of which changes. -/
theorem exists_perm_of_changed {parts parts' : List (Part × Document)}
    (h : List.Forall₂ (PartChanged Q) parts parts')
    (hperm : parts.Perm [(.operation, o), (.value, v)]) :
    ∃ v', Q v v' ∧ parts'.Perm [(.operation, o), (.value, v')] := by
  obtain ⟨pair, hpair, hperm'⟩ := List.perm_comp_forall₂ hperm.symm h
  obtain _ | ⟨rfl, _ | ⟨⟨v', rfl, hv⟩, _ | _⟩⟩ := hpair
  exact ⟨v', hv, hperm'.symm⟩

theorem partChanged_flip {part part' : Part × Document} :
    PartChanged (flip Q) part part' ↔ PartChanged Q part' part := by
  obtain ⟨part, d⟩ := part
  obtain ⟨part', d'⟩ := part'
  cases part <;> cases part' <;> simp [PartChanged, flip, eq_comm]

theorem passes_of_foreign {allowed : Numeral → Bool} (h : Foreign fields allowed m) :
    Passes m ∧ part? m = none := by
  obtain ⟨name, hname, hunknown⟩ := h.name
  have hpart := Part.ofName?_eq_none.mpr hunknown
  refine ⟨⟨name, hname, fun _ => Document.skip_of_legible h.legible⟩, ?_⟩
  rw [part?_eq hname, hpart]
  rfl

theorem forall_passes_rearranged
    (h : Json.Rearranged fields allowed (PayloadChanged Q) members members') :
    (∀ m ∈ members, Passes m) ↔ ∀ m ∈ members', Passes m := by
  obtain ⟨changed, foreign, hchanged, hforeign, hperm⟩ := h
  have hmembers : (∀ m ∈ members, Passes m) ↔ ∀ m ∈ changed, Passes m :=
    forall_mem_iff_of_forall₂ (hchanged.imp fun m m' hm => passes_changed hm)
  have hall : (∀ m ∈ members', Passes m) ↔ ∀ m ∈ changed ++ foreign, Passes m :=
    forall_congr' fun m => imp_congr_left hperm.mem_iff
  rw [hmembers, hall, List.forall_mem_append]
  exact ⟨fun h => ⟨h, fun m hm => (passes_of_foreign (hforeign m hm)).1⟩, And.left⟩

/-- Rearranging an object that has the two parts changes no more of them than the payload, and an
object that has them then had them before. -/
theorem made_rearranged (h : Json.Rearranged fields allowed (PayloadChanged Q) members members') :
    (∀ v, Made members o v → ∃ v', Q v v' ∧ Made members' o v') ∧
      ∀ v', Made members' o v' → ∃ v, Q v v' ∧ Made members o v := by
  have hpasses := forall_passes_rearranged h
  obtain ⟨changed, foreign, hchanged, hforeign, hperm⟩ := h
  have hparts : List.Forall₂ (PartChanged Q) (members.filterMap part?) (changed.filterMap part?) :=
    List.rel_filterMap (fun _ _ hm => part?_changed hm) hchanged
  have hnone : foreign.filterMap part? = [] :=
    List.filterMap_eq_nil_iff.mpr fun m hm => (passes_of_foreign (hforeign m hm)).2
  have hsame : (members'.filterMap part?).Perm (changed.filterMap part?) := by
    have hall := hperm.filterMap part?
    rwa [List.filterMap_append, hnone, List.append_nil] at hall
  -- Foreign members are no parts, so the parts are those of the changed members in another order.
  constructor
  · rintro v ⟨hall, hpair⟩
    obtain ⟨v', hv, hpair'⟩ := exists_perm_of_changed hparts hpair
    exact ⟨v', hv, hpasses.mp hall, hsame.trans hpair'⟩
  · rintro v' ⟨hall, hpair⟩
    have hback := List.Forall₂.flip (hparts.imp fun _ _ => partChanged_flip.mpr)
    obtain ⟨v, hv, hpair'⟩ := exists_perm_of_changed hback (hsame.symm.trans hpair)
    exact ⟨v, hv, hpasses.mpr hall, hpair'⟩

end Changed

end SolrClause.Predicate
