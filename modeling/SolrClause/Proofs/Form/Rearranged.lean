import SolrClause.Proofs.Form.Parts
import SolrClause.Proofs.Json.Short

/-! Criteria in any order. The members of criteria, of their predicates and of the ranges in these
come in any order, with members of other names put in anywhere, and the same criteria are read. Only
a range has to take care of what is put in: its payload may be read before it is known to be one. -/

namespace SolrClause

open SolrClause.Json

namespace Predicate

variable {levels : Nat} {allowed : Numeral → Bool} {members members' : List (Quotation × Document)}
  {o v v' : Document} {operation : Operation}

/-- The object is a predicate with a range. -/
def HasRange (members : List (Quotation × Document)) : Prop :=
  ∃ m ∈ members, m.1.text = .ok Part.operation.name ∧
    Operation.ofJson levelLimit m.2 = .ok .between

/-- The range of a predicate is rearranged, if it has one. -/
def RangeRearranged (allowed : Numeral → Bool) (members : List (Quotation × Document))
    (v v' : Document) : Prop :=
  (HasRange members → Range.Rearranged allowed v v') ∧ (¬HasRange members → v' = v)

/-- The members of a predicate come in another order, with members of other names put in, and its
range is rearranged as well. -/
inductive Rearranged (allowed : Numeral → Bool) : Document → Document → Prop
  | same (d : Document) : Rearranged allowed d d
  | object {members members' : List (Quotation × Document)}
      (h : Json.Rearranged fields (fun _ => true)
        (PayloadChanged (RangeRearranged allowed members)) members members') :
      Rearranged allowed (.object members .closed) (.object members' .closed)
  | array {o v v' : Document} {rest : List Document} {close : ArrayEnd}
      (ho : Operation.ofDocument o = .ok .between) (hv : Range.Rearranged allowed v v') :
      Rearranged allowed (.array (o :: v :: rest) close) (.array (o :: v' :: rest) close)

theorem hasRange_iff (hmade : Made members o v) :
    HasRange members ↔ Operation.ofJson levelLimit o = .ok .between := by
  constructor
  · rintro ⟨m, hm, hname, hoperation⟩
    have hpart : (Part.operation, m.2) ∈ members.filterMap part? :=
      List.mem_filterMap.mpr ⟨m, hm, by rw [part?_eq hname]; rfl⟩
    -- Of the two parts only one is an operation, so the member is that one.
    have hsame : m.2 = o := by
      have hmem := hmade.2.mem_iff.mp hpart
      simpa using hmem
    rwa [← hsame]
  · intro hoperation
    have hpart : (Part.operation, o) ∈ members.filterMap part? :=
      hmade.2.mem_iff.mpr List.mem_cons_self
    obtain ⟨m, hm, hpart⟩ := List.mem_filterMap.mp hpart
    obtain ⟨name, hname, -⟩ := hmade.1 m hm
    rw [part?_eq hname, Option.map_eq_some_iff] at hpart
    obtain ⟨found, hfound, heq⟩ := hpart
    cases heq
    rw [Part.ofName?_eq_some.mp hfound] at hname
    exact ⟨m, hm, hname, hoperation⟩

/-- The payload of a range comes to the same after it was rearranged, and any other payload stays as
it was. -/
theorem ofContent_rearranged (hlevels : 2 ≤ levels) (hmade : Made members o v)
    (ho : Operation.ofJson levels o = .ok operation) (hv : RangeRearranged allowed members v v') :
    Agree (ofContent levels v operation) (ofContent levels v' operation) := by
  have hrange : HasRange members ↔ operation = .between := by
    rw [hasRange_iff hmade, Operation.ofJson_levels (show 2 ≤ levelLimit by decide) hlevels, ho,
      Except.ok.injEq]
  cases operation with
  | between => exact (Range.ofJson_rearranged (hv.1 (hrange.mpr rfl)) levels).map Predicate.between
  | compare comparison =>
    rw [hv.2 fun h => nomatch hrange.mp h]
    exact .refl _

theorem ofMembers_rearranged (hlevels : 102 ≤ levels)
    (h : Json.Rearranged fields (fun _ => true)
      (PayloadChanged (RangeRearranged Numeral.held members)) members members') :
    Agree (ofMembers levels members .closed) (ofMembers levels members' .closed) := by
  have htwo : 2 ≤ levels := by omega
  have hlegible {o v v'} (hmade : Made members o v)
      (hv : RangeRearranged Numeral.held members v v')
      (ho : Operation.ofJson levels o = .ok .between) :
      Range.Legible Numeral.held v ∧ Range.Legible Numeral.held v' := by
    rw [Operation.ofJson_levels htwo (show 2 ≤ levelLimit by decide)] at ho
    exact (hv.1 ((hasRange_iff hmade).mpr ho)).legible
  intro p
  -- Either object is read from its two parts, whichever comes first, and the parts correspond.
  rw [ofMembers_eq_ok_of_legible hlevels, ofMembers_eq_ok_of_legible hlevels]
  · constructor
    · rintro ⟨o, v, operation, hmade, ho, hp⟩
      obtain ⟨v', hv, hmade'⟩ := (made_rearranged h).1 v hmade
      exact ⟨o, v', operation, hmade', ho, (ofContent_rearranged htwo hmade ho hv p).mp hp⟩
    · rintro ⟨o, v', operation, hmade', ho, hp⟩
      obtain ⟨v, hv, hmade⟩ := (made_rearranged h).2 v' hmade'
      exact ⟨o, v, operation, hmade, ho, (ofContent_rearranged htwo hmade ho hv p).mpr hp⟩
  · intro o v' hmade' ho
    obtain ⟨v, hv, hmade⟩ := (made_rearranged h).2 v' hmade'
    exact (hlegible hmade hv ho).2
  · intro o v hmade ho
    obtain ⟨v', hv, -⟩ := (made_rearranged h).1 v hmade
    exact (hlegible hmade hv ho).1

/-- A predicate is the same after it was rearranged, or no predicate either way. -/
theorem ofJson_rearranged {d d' : Document} (hlevels : 103 ≤ levels)
    (h : Rearranged Numeral.held d d') : Agree (ofJson levels d) (ofJson levels d') := by
  cases h with
  | same => exact .refl _
  | object h =>
    rw [ofJson, ofJson, descend_eq (by omega), ok_bind, ok_bind]
    exact ofMembers_rearranged (show 102 ≤ levels - 1 by omega) h
  | array ho hv =>
    rw [ofJson, ofJson, descend_eq (by omega), ok_bind, ok_bind, ofElements, ofElements]
    simp only [Elements.require_cons, ho, ok_bind, ofContent]
    have hrange := (Range.ofJson_rearranged hv (levels - 1)).map Predicate.between
    exact (hrange.bind fun p => .refl _).bind fun taken => .refl _

end Predicate

namespace PredicateSet

/-- The predicates of a list are rearranged, each for itself. -/
inductive Rearranged (allowed : Numeral → Bool) : Document → Document → Prop
  | same (d : Document) : Rearranged allowed d d
  | array {items items' : List Document} {close : ArrayEnd}
      (h : List.Forall₂ (Predicate.Rearranged allowed) items items') :
      Rearranged allowed (.array items close) (.array items' close)

theorem ofJson_rearranged {levels : Nat} {d d' : Document} (hlevels : 104 ≤ levels)
    (h : Rearranged Numeral.held d d') : Agree (ofJson levels d) (ofJson levels d') := by
  cases h with
  | same => exact .refl _
  | array h =>
    have hitems := mapM_agree (h.imp fun _ _ hitem =>
      Predicate.ofJson_rearranged (show 103 ≤ levels - 1 by omega) hitem)
    refine Agree.map ?_ ofList
    rw [Document.readList, Document.readList, descend_eq (by omega), ok_bind, ok_bind]
    exact hitems.bind fun predicates => .refl _

end PredicateSet

namespace Criteria

def fields : List String := ["field", "negating", "predicates"]

section TakeUp

variable {levels : Nat} {draft first second next : Draft} {name name' : String} {d d' : Document}

theorem takeUp_eq_ok :
    Draft.takeUp levels draft name d = .ok next ↔
      (name = "field" ∧ draft.field = none ∧
        ∃ s, d.readString = .ok s ∧ { draft with field := some s } = next) ∨
      (name = "negating" ∧ draft.negating = none ∧
        ∃ b, d.readBoolean = .ok b ∧ { draft with negating := some b } = next) ∨
      (name = "predicates" ∧ draft.predicates = none ∧
        ∃ set, PredicateSet.ofJson levels d = .ok set ∧
          { draft with predicates := some set } = next) ∨
      (name ∉ fields ∧ d.skip = .ok () ∧ draft = next) := by
  rw [Draft.takeUp]
  split_ifs with hfield hnegating hpredicates
  · rw [setField_bind_eq_ok]
    simp [hfield, fields]
  · rw [setField_bind_eq_ok]
    simp [hnegating, fields]
  · rw [setField_bind_eq_ok]
    simp [hpredicates, fields]
  · rw [check_bind_eq_ok]
    simp [hfield, hnegating, hpredicates, fields]

/-- Two members that are taken up in turn can be taken up the other way round. -/
theorem takeUp_exchange (h : Draft.takeUp levels draft name d = .ok first)
    (h' : Draft.takeUp levels first name' d' = .ok second) :
    ∃ other, Draft.takeUp levels draft name' d' = .ok other ∧
      Draft.takeUp levels other name d = .ok second := by
  rw [takeUp_eq_ok] at h h'
  simp only [takeUp_eq_ok]
  -- Each of the two is one of the fields or skipped, and a field that is set is not set again.
  rcases h with ⟨rfl, hunset, s, hs, rfl⟩ | ⟨rfl, hunset, b, hb, rfl⟩ |
      ⟨rfl, hunset, set, hset, rfl⟩ | ⟨hunknown, hskip, rfl⟩ <;>
    rcases h' with ⟨rfl, hunset', s', hs', rfl⟩ | ⟨rfl, hunset', b', hb', rfl⟩ |
      ⟨rfl, hunset', set', hset', rfl⟩ | ⟨hunknown', hskip', rfl⟩ <;>
    simp_all [fields]

theorem takeUp_swaps (levels : Nat) : Swaps (Draft.takeUp levels) := by
  intro draft name d name' d'
  exact .of_exchange takeUp_exchange takeUp_exchange

theorem takeUp_unknown (hname : name ∉ fields) (hskip : d.skip = .ok ()) :
    Draft.takeUp levels draft name d = .ok draft :=
  takeUp_eq_ok.mpr (.inr (.inr (.inr ⟨hname, hskip, rfl⟩)))

theorem takeUp_changed (hlevels : 104 ≤ levels)
    (h : FieldChanged "predicates" (PredicateSet.Rearranged Numeral.held) name d d') :
    Agree (Draft.takeUp levels draft name d) (Draft.takeUp levels draft name d') := by
  by_cases hname : name = "predicates"
  · subst hname
    have hset : ∀ set, _ ↔ _ := PredicateSet.ofJson_rearranged hlevels (h.1 rfl)
    intro next
    simp only [takeUp_eq_ok, hset]
    simp [fields]
  · rw [h.2 hname]
    exact .refl _

end TakeUp

/-- The members of criteria come in another order, with members of other names put in, and their
predicates are rearranged as well. -/
inductive Rearranged (allowed : Numeral → Bool) : Document → Document → Prop
  | object {members members' : List (Quotation × Document)}
      (h : Json.Rearranged fields (fun _ => true)
        (FieldChanged "predicates" (PredicateSet.Rearranged allowed)) members members') :
      Rearranged allowed (.object members .closed) (.object members' .closed)

theorem ofJson_rearranged {levels : Nat} {d d' : Document} (hlevels : 105 ≤ levels)
    (h : Rearranged Numeral.held d d') : Agree (ofJson levels d) (ofJson levels d') := by
  cases h with
  | object h =>
    refine readRecord_rearranged h takeUp_swaps ?_ ?_
    · exact fun levels draft name d hname hskip => takeUp_unknown hname hskip
    · exact fun draft name d d' hchange => takeUp_changed (show 104 ≤ levels - 1 by omega) hchange

/-- The order of members makes no difference, and neither do members of other names. From a text and
from one in which the members of the criteria, of their predicates and of the ranges in these come
in another order, with others put in, the same criteria are read, or none from either. -/
theorem parse_rearranged {text text' : List Char} {d d' : Document} (h : Document.Holds text d)
    (h' : Document.Holds text' d') (hrearranged : Rearranged Numeral.held d d') :
    (∃ c, parse ofJson text = .ok c ∧ parse ofJson text' = .ok c) ∨
      ∃ fault fault', parse ofJson text = .error fault ∧ parse ofJson text' = .error fault' := by
  have hagree := ofJson_rearranged (show 105 ≤ levelLimit by decide) hrearranged
  rw [parse_holds ofJson h, parse_holds ofJson h']
  cases hc : ofJson levelLimit d with
  | ok c => exact .inl ⟨c, rfl, (hagree c).mp hc⟩
  | error fault =>
    cases hc' : ofJson levelLimit d' with
    | ok c =>
      rw [(hagree c).mpr hc'] at hc
      cases hc
    | error fault' => exact .inr ⟨fault, fault', rfl, rfl⟩

/-- A range before its operation, and every object the other way round with one member more. -/
theorem parse_rearranged_reversed :
    let text := r#"{"field":"f","predicates":[{"operation":"BETWEEN","#.toList ++
      r#""value":{"lower":1,"include_lower":true,"include_upper":false}}]}"#.toList
    let text' := r#"{"x":[],"predicates":[{"x":0,"value":{"x":{},"#.toList ++
      r#""include_upper":false,"include_lower":true,"lower":1},"#.toList ++
      r#""operation":"BETWEEN"}],"field":"f"}"#.toList
    let c : Criteria := ofParts "f" false [.between ⟨some (.integer 1), none, true, false⟩]
    parse ofJson text = .ok c ∧ parse ofJson text' = .ok c := by
  intro text text' c
  let lower : String × Value := ("lower", .number (.integer 1))
  let includeLower : String × Value := ("include_lower", .boolean true)
  let includeUpper : String × Value := ("include_upper", .boolean false)
  let operation : String × Value := ("operation", .string "BETWEEN")
  let field : String × Value := ("field", .string "f")
  let range : Value := .object [lower, includeLower, includeUpper]
  let range' : Value := .object [("x", .object []), includeUpper, includeLower, lower]
  let predicate : Value := .object [operation, ("value", range)]
  let predicate' : Value :=
    .object [("x", .number (.integer 0)), ("value", range'), operation]
  let value : Value := .object [field, ("predicates", .array [predicate])]
  let value' : Value := .object [("x", .array []), ("predicates", .array [predicate']), field]
  have hforeign {fields allowed} {v : Value} (hname : "x" ∉ fields)
      (hdepth : v.document.depth ≤ 100) (hlegible : v.document.legible allowed = true) :
      ∀ m ∈ memberDocuments [("x", v)], Foreign fields allowed m :=
    List.forall_mem_singleton.mpr (foreign_ofText hname hdepth hlegible)
  have hrange : Range.Rearranged Numeral.held range.document range'.document := by
    refine .object (Range.legible_of_legible rfl (by decide))
      ⟨_, _, ?_, hforeign (by decide) (by decide) rfl,
        List.reverse_perm (memberDocuments [lower, includeLower, includeUpper] ++
          memberDocuments [("x", .object [])])⟩
    exact List.forall₂_same.mpr fun m _ => ⟨rfl, fun _ _ => rfl⟩
  have hpredicate : Predicate.Rearranged Numeral.held predicate.document predicate'.document := by
    refine .object ⟨_, _, ?_, hforeign (by decide) (by decide) rfl,
      List.reverse_perm (memberDocuments [operation, ("value", range')] ++
        memberDocuments [("x", .number (.integer 0))])⟩
    refine .cons (changed_other (by decide) _) (.cons (changed_field ?_) .nil)
    refine ⟨fun _ => hrange, fun hnone => absurd ?_ hnone⟩
    exact ⟨_, List.mem_cons_self, Quotation.text_ofText _, by decide +kernel⟩
  have hvalue : Rearranged Numeral.held value.document value'.document := by
    refine .object ⟨_, _, ?_, hforeign (by decide) (by decide) rfl,
      List.reverse_perm (memberDocuments [field, ("predicates", .array [predicate'])] ++
        memberDocuments [("x", .array [])])⟩
    refine .cons (changed_other (by decide) _) (.cons (changed_field ?_) .nil)
    exact .array (.cons hpredicate .nil)
  have htext : text = value.compactChars := by decide +kernel
  have htext' : text' = value'.compactChars := by decide +kernel
  have hholds : Document.Holds text value.document := htext ▸ value.writes_compactChars.holds
  have hholds' : Document.Holds text' value'.document := htext' ▸ value'.writes_compactChars.holds
  have hread : parse ofJson text = .ok c := by
    rw [parse_holds ofJson hholds]
    decide +kernel
  rcases parse_rearranged hholds hholds' hvalue with ⟨c', hc, hc'⟩ | ⟨fault, _, hfault, _⟩
  · obtain rfl : c = c' := Except.ok.inj (hread.symm.trans hc)
    exact ⟨hread, hc'⟩
  · rw [hread] at hfault
    cases hfault

end Criteria

/-! ### Numbers near the greatest float -/

namespace Json.Numeral

/-- The numeral stands for no more than the greatest float. -/
def inRange (n : Numeral) : Bool := decide (n.toRat ≤ (2 ^ 53 - 1 : Nat) * 2 ^ 971)

/-- A number just below the greatest float that is too large once its digits are rounded. -/
def large : Numeral := ⟨false, "1797693134862315708".toList, [], some ⟨false, "290".toList⟩⟩

theorem wellFormed_large : large.WellFormed where
  whole := ⟨by decide, List.all_eq_true.mp rfl, by decide⟩
  fraction := nofun
  exponent_ne_nil := by
    rintro e ⟨⟩
    decide
  exponent := by
    rintro e ⟨⟩
    exact List.all_eq_true.mp rfl

theorem inRange_large : large.inRange = true := by
  have hrat : large.toRat = (1797693134862315708 : Nat) * 10 ^ 290 := by
    have hsignificand : large.significand = 1797693134862315708 := by decide +kernel
    have hpower : large.power = (290 : Nat) := by decide +kernel
    rw [toRat, hsignificand, hpower, zpow_natCast]
  have hle : 1797693134862315708 * 10 ^ 290 ≤ (2 ^ 53 - 1) * 2 ^ 971 := by decide +kernel
  have hcast := Nat.cast_le (α := ℚ).mpr hle
  rw [Nat.cast_mul, Nat.cast_mul, Nat.cast_pow, Nat.cast_pow, Nat.cast_ofNat, Nat.cast_ofNat]
    at hcast
  rw [inRange, hrat, decide_eq_true_eq]
  exact hcast

end Json.Numeral

namespace Criteria

/-- Of a range that comes before its operation each number is read, also one in a member of another
name, and one that is no larger than the greatest float can be too large for the reader. So the
order of members makes a difference there. -/
theorem exists_parse_rearranged_ne :
    let text := r#"{"field":"f","predicates":[{"operation":"BETWEEN","#.toList ++
      r#""value":{"include_lower":true,"include_upper":true,"#.toList ++
      r#""x":1797693134862315708e+290}}]}"#.toList
    let text' := r#"{"field":"f","predicates":[{"#.toList ++
      r#""value":{"include_lower":true,"include_upper":true,"#.toList ++
      r#""x":1797693134862315708e+290},"operation":"BETWEEN"}]}"#.toList
    (∃ d d', Document.Holds text d ∧ Document.Holds text' d' ∧ d.depth ≤ 100 ∧
      d.legible Numeral.inRange = true ∧ Rearranged Numeral.inRange d d') ∧
    parse ofJson text = .ok (ofParts "f" false [.between ⟨none, none, true, true⟩]) ∧
    parse ofJson text' = .error .numberOutOfRange := by
  intro text text'
  let range : Document := .object [(.ofText "include_lower", .boolean true),
    (.ofText "include_upper", .boolean true), (.ofText "x", .number .large)] .closed
  let operation : Quotation × Document := (.ofText "operation", .string (.ofText "BETWEEN"))
  let criteria (members : List (Quotation × Document)) : Document :=
    .object [(.ofText "field", .string (.ofText "f")),
      (.ofText "predicates", .array [.object members .closed] .closed)] .closed
  have hwrites := Document.Writes.object (.first_tight (.tight "include_lower" (.boolean true)
    (.next_tight (.tight "include_upper" (.boolean true) (.next_tight (.tight "x"
      (.number (Numeral.writes_chars Numeral.wellFormed_large)) (.close Document.blanks_nil)))))))
  have hcriteria {chars members} (h : Document.WritesMembers true chars members) :=
    Document.Writes.object (.first_tight (.tight "field" (.ofText "f") (.next_tight
      (.tight "predicates" (.array (.first_tight (.object h) (.close Document.blanks_nil)))
        (.close Document.blanks_nil)))))
  have hholds {chars whole d} (h : Document.Writes chars d) (heq : whole = chars) :
      Document.Holds whole d := heq ▸ h.holds
  have hlegible : range.legible Numeral.inRange = true := by
    simp only [range, Document.legible, Document.legibleMembers, Numeral.inRange_large]
    decide
  have hrange : Range.Rearranged Numeral.inRange range range :=
    .same (Range.legible_of_legible hlegible (by decide))
  have htext : Document.Holds text (criteria [operation, (.ofText "value", range)]) := by
    refine hholds (hcriteria (.first_tight (.tight "operation" (.ofText "BETWEEN")
      (.next_tight (.tight "value" hwrites (.close Document.blanks_nil)))))) ?_
    decide +kernel
  have htext' : Document.Holds text' (criteria [(.ofText "value", range), operation]) := by
    refine hholds (hcriteria (.first_tight (.tight "value" hwrites
      (.next_tight (.tight "operation" (.ofText "BETWEEN") (.close Document.blanks_nil)))))) ?_
    decide +kernel
  refine ⟨⟨_, _, htext, htext', by decide, ?_, ?_⟩, ?_, ?_⟩
  · simp only [criteria, operation, Document.legible, Document.legibleMembers,
      Document.legibleItems, hlegible]
    decide
  · refine .object ⟨_, [], .cons (changed_other (by decide) _) (.cons (changed_field
      (.array (.cons (.object ⟨[operation, (.ofText "value", range)], [], ?_, nofun, .swap _ _ _⟩)
        .nil))) .nil), nofun, .refl _⟩
    refine .cons (changed_other (by decide) _) (.cons (changed_field ?_) .nil)
    refine ⟨fun _ => hrange, fun hnone => absurd ?_ hnone⟩
    exact ⟨_, List.mem_cons_self, Quotation.text_ofText _, by decide +kernel⟩
  · rw [parse_holds ofJson htext]
    decide +kernel
  · rw [parse_holds ofJson htext']
    decide +kernel

end Criteria

end SolrClause
