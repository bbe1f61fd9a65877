import SolrClause.Proofs.Form.Shape
import SolrClause.Proofs.Json.Members

/-! Ranges in any order. The members of a range may be exchanged, and a range is the same whether it
is read from its document or from a value that was read before: what the one reader skips the other
one reads, so this takes members of other names that can be read. -/

namespace SolrClause.Range

open SolrClause.Json

def fields : List String := ["lower", "upper", "include_lower", "include_upper"]

/-! ### Members in any order -/

section TakeUp

variable {β : Type} {source : Source β} {draft next : Draft} {name : String} {content : β}

theorem takeUp_eq_ok :
    Draft.takeUp source draft name content = .ok next ↔
      (name = "lower" ∧ draft.lower = none ∧
        ∃ v, source.bound content = .ok v ∧ { draft with lower := some v } = next) ∨
      (name = "upper" ∧ draft.upper = none ∧
        ∃ v, source.bound content = .ok v ∧ { draft with upper := some v } = next) ∨
      (name = "include_lower" ∧ draft.includeLower = none ∧
        ∃ b, source.flag content = .ok b ∧ { draft with includeLower := some b } = next) ∨
      (name = "include_upper" ∧ draft.includeUpper = none ∧
        ∃ b, source.flag content = .ok b ∧ { draft with includeUpper := some b } = next) ∨
      (name ∉ fields ∧ source.skip content = .ok () ∧ draft = next) := by
  rw [Draft.takeUp]
  split_ifs with hlower hupper hincludeLower hincludeUpper
  · rw [setField_bind_eq_ok]
    simp [hlower, fields]
  · rw [setField_bind_eq_ok]
    simp [hupper, fields]
  · rw [setField_bind_eq_ok]
    simp [hincludeLower, fields]
  · rw [setField_bind_eq_ok]
    simp [hincludeUpper, fields]
  · rw [check_bind_eq_ok]
    simp [hlower, hupper, hincludeLower, hincludeUpper, fields]

/-- Two members that are taken up in turn can be taken up the other way round. -/
theorem takeUp_exchange {first second : Draft} {name' : String} {content' : β}
    (h : Draft.takeUp source draft name content = .ok first)
    (h' : Draft.takeUp source first name' content' = .ok second) :
    ∃ other, Draft.takeUp source draft name' content' = .ok other ∧
      Draft.takeUp source other name content = .ok second := by
  rw [takeUp_eq_ok] at h h'
  simp only [takeUp_eq_ok]
  -- Each of the two is one of the fields or skipped, and a field that is set is not set again.
  rcases h with ⟨rfl, hunset, v, hv, rfl⟩ | ⟨rfl, hunset, v, hv, rfl⟩ | ⟨rfl, hunset, b, hb, rfl⟩ |
      ⟨rfl, hunset, b, hb, rfl⟩ | ⟨hunknown, hskip, rfl⟩ <;>
    rcases h' with ⟨rfl, hunset', v', hv', rfl⟩ | ⟨rfl, hunset', v', hv', rfl⟩ |
      ⟨rfl, hunset', b', hb', rfl⟩ | ⟨rfl, hunset', b', hb', rfl⟩ | ⟨hunknown', hskip', rfl⟩ <;>
    simp_all [fields]

theorem takeUp_swaps (source : Source β) : Swaps (Draft.takeUp source) := by
  intro draft name content name' content'
  exact .of_exchange takeUp_exchange takeUp_exchange

theorem takeUp_unknown (hname : name ∉ fields) (hskip : source.skip content = .ok ()) :
    Draft.takeUp source draft name content = .ok draft :=
  takeUp_eq_ok.mpr (.inr (.inr (.inr (.inr ⟨hname, hskip, rfl⟩))))

end TakeUp

/-! ### Documents and values -/

variable {levels : Nat} {range : Range} {d d' : Document} {allowed : Numeral → Bool}

theorem bound_value (levels : Nat) (d : Document) :
    Agree ((ofDocument levels).bound d) (d.value levels >>= boundOfValue) := by
  by_cases hd : d = .null
  · subst hd
    exact .refl _
  · -- Null is an open bound and no scalar; any other value is read as a scalar by both.
    have hread : (ofDocument levels).bound d =
        d.value levels >>= fun v => (Scalar.ofValue v).map some := by
      have hbound : (ofDocument levels).bound d = (Scalar.ofJson levels d).map some := by
        cases d with
        | null => exact absurd rfl hd
        | _ => rfl
      rw [hbound, Scalar.ofJson]
      cases d.value levels <;> rfl
    rw [hread]
    intro bound
    rw [bind_eq_ok, bind_eq_ok]
    refine exists_congr fun v => and_congr_right fun hv => ?_
    cases v with
    | null => exact absurd (Document.eq_null_of_value hv) hd
    | _ => rfl

theorem flag_value (levels : Nat) (d : Document) :
    Agree ((ofDocument levels).flag d) (d.value levels >>= flagOfValue) := by
  intro b
  rw [bind_eq_ok]
  constructor
  · intro h
    cases d with
    | boolean b' => exact ⟨.boolean b', rfl, h⟩
    | _ => cases h
  · rintro ⟨v, hv, h⟩
    cases v with
    | boolean b' =>
      rw [Document.eq_boolean_of_value hv]
      exact h
    | _ => cases h

section Items

theorem ofElements_four {lower upper includeLower includeUpper : Document}
    {more : List Document} {close : ArrayEnd} {rest : Elements} :
    ofElements levels ⟨lower :: upper :: includeLower :: includeUpper :: more, close⟩ =
        .ok (range, rest) ↔
      ((ofDocument levels).bound lower = .ok range.lower ∧
        (ofDocument levels).bound upper = .ok range.upper ∧
        (ofDocument levels).flag includeLower = .ok range.includeLower ∧
        (ofDocument levels).flag includeUpper = .ok range.includeUpper) ∧
      rest = ⟨more, close⟩ := by
  rw [ofElements]
  simp only [Elements.take_cons, Elements.require_cons, bind_assoc, ok_bind, bind_eq_ok]
  constructor
  · rintro ⟨lower, hlower, upper, hupper, includeLower, hincludeLower, includeUpper,
      hincludeUpper, h⟩
    cases h
    exact ⟨⟨hlower, hupper, hincludeLower, hincludeUpper⟩, rfl⟩
  · rintro ⟨⟨hlower, hupper, hincludeLower, hincludeUpper⟩, rfl⟩
    exact ⟨_, hlower, _, hupper, _, hincludeLower, _, hincludeUpper, rfl⟩

/-- A range is read from an array of just its four fields. -/
theorem ofJson_array_eq_ok {items : List Document} {close : ArrayEnd} :
    ofJson levels (.array items close) = .ok range ↔ 2 ≤ levels ∧ close = .closed ∧
      ∃ lower upper includeLower includeUpper,
        items = [lower, upper, includeLower, includeUpper] ∧
        (ofDocument (levels - 1)).bound lower = .ok range.lower ∧
        (ofDocument (levels - 1)).bound upper = .ok range.upper ∧
        (ofDocument (levels - 1)).flag includeLower = .ok range.includeLower ∧
        (ofDocument (levels - 1)).flag includeUpper = .ok range.includeUpper := by
  constructor
  · intro h
    have hfour := four_le_of_ofJson_array h
    obtain ⟨inner, hinner, h⟩ := bind_eq_ok.mp h
    obtain ⟨⟨read, rest⟩, hread, h⟩ := bind_eq_ok.mp h
    obtain ⟨⟨⟩, hfinish, h⟩ := bind_eq_ok.mp h
    cases h
    obtain ⟨hlevels, rfl⟩ := descend_eq_ok.mp hinner
    match items, hfour with
    | lower :: upper :: includeLower :: includeUpper :: more, _ =>
      obtain ⟨hfields, rfl⟩ := ofElements_four.mp hread
      cases Elements.finish_eq_ok.mp hfinish
      exact ⟨hlevels, rfl, lower, upper, includeLower, includeUpper, rfl, hfields⟩
  · rintro ⟨hlevels, rfl, lower, upper, includeLower, includeUpper, rfl, hfields⟩
    rw [ofJson, readRecord, descend_eq hlevels, ok_bind, ofElements_four.mpr ⟨hfields, rfl⟩]
    rfl

theorem ofItems_eq_ok {items : List Value} :
    ofItems items = .ok range ↔ ∃ lower upper includeLower includeUpper,
      items = [lower, upper, includeLower, includeUpper] ∧
        boundOfValue lower = .ok range.lower ∧ boundOfValue upper = .ok range.upper ∧
        flagOfValue includeLower = .ok range.includeLower ∧
        flagOfValue includeUpper = .ok range.includeUpper := by
  constructor
  · intro h
    rw [ofItems.eq_def] at h
    split at h
    · rename_i lower upper includeLower includeUpper more
      obtain ⟨_, hlower, h⟩ := bind_eq_ok.mp h
      obtain ⟨_, hupper, h⟩ := bind_eq_ok.mp h
      obtain ⟨_, hincludeLower, h⟩ := bind_eq_ok.mp h
      obtain ⟨_, hincludeUpper, h⟩ := bind_eq_ok.mp h
      cases more with
      | nil =>
        cases h
        exact ⟨lower, upper, includeLower, includeUpper, rfl, hlower, hupper, hincludeLower,
          hincludeUpper⟩
      | cons item more => cases h
    · obtain ⟨_, -, h⟩ := bind_eq_ok.mp h
      obtain ⟨_, -, h⟩ := bind_eq_ok.mp h
      obtain ⟨_, -, h⟩ := bind_eq_ok.mp h
      cases h
    · obtain ⟨_, -, h⟩ := bind_eq_ok.mp h
      cases h
  · rintro ⟨lower, upper, includeLower, includeUpper, rfl, hlower, hupper, hincludeLower,
      hincludeUpper⟩
    rw [ofItems, hlower, hupper, hincludeLower, hincludeUpper]
    rfl

theorem ofJson_array_value (levels : Nat) (items : List Document) (close : ArrayEnd) :
    Agree (ofJson levels (.array items close))
      ((Document.array items close).value levels >>= ofValue) := by
  intro range
  rw [ofJson_array_eq_ok, bind_eq_ok]
  simp only [bound_value _ _ _, flag_value _ _ _, bind_eq_ok, Document.value_array_eq_ok,
    Document.values_eq_ok]
  constructor
  · rintro ⟨hlevels, hclose, lower, upper, includeLower, includeUpper, rfl, ⟨l, hl, hlower⟩,
      ⟨u, hu, hupper⟩, ⟨il, hil, hincludeLower⟩, iu, hiu, hincludeUpper⟩
    refine ⟨_, ⟨hlevels, hclose, [l, u, il, iu], ?_, rfl⟩, ?_⟩
    · exact .cons hl (.cons hu (.cons hil (.cons hiu .nil)))
    · exact ofItems_eq_ok.mpr ⟨l, u, il, iu, rfl, hlower, hupper, hincludeLower, hincludeUpper⟩
  · rintro ⟨_, ⟨hlevels, hclose, vs, hvs, rfl⟩, h⟩
    obtain ⟨l, u, il, iu, rfl, hlower, hupper, hincludeLower, hincludeUpper⟩ := ofItems_eq_ok.mp h
    obtain _ | ⟨hl, _ | ⟨hu, _ | ⟨hil, _ | ⟨hiu, _ | _⟩⟩⟩⟩ := hvs
    exact ⟨hlevels, hclose, _, _, _, _, rfl, ⟨l, hl, hlower⟩, ⟨u, hu, hupper⟩,
      ⟨il, hil, hincludeLower⟩, iu, hiu, hincludeUpper⟩

end Items

/-- The members of other names, if the document has members, may be read in full. -/
def Legible (allowed : Numeral → Bool) : Document → Prop
  | .object members _ => ∀ m ∈ members, ∀ name, m.1.text = .ok name →
      name ∈ fields ∨ Foreign fields allowed m
  | _ => True

/-- All members of a document that is legible may be read in full, unless it nests too deep. -/
theorem legible_of_legible (h : d.legible allowed = true) (hdepth : d.depth ≤ 100) :
    Legible allowed d := by
  cases d with
  | object members close =>
    intro m hm name hname
    by_cases hknown : name ∈ fields
    · exact .inl hknown
    · have hmember := Document.depth_le_membersDepth hm
      rw [Document.depth] at hdepth
      rw [Document.legible, Bool.and_eq_true] at h
      exact .inr ⟨⟨name, hname, hknown⟩, by omega, Document.legible_of_mem h.2 hm⟩
  | _ => trivial

theorem takeUp_value {name : String}
    (h : name ∉ fields → d.skip = .ok () ∧ ∃ v, d.value levels = .ok v) (draft : Draft) :
    Agree (Draft.takeUp (ofDocument levels) draft name d)
      (d.value levels >>= Draft.takeUp ofMembers draft name) := by
  show Agree _ (d.value levels >>= fun v => Draft.takeUp ofMembers draft name v)
  simp only [Draft.takeUp]
  split_ifs with hlower hupper hincludeLower hincludeUpper
  · exact setField_agree (bound_value levels d) _ _ _
  · exact setField_agree (bound_value levels d) _ _ _
  · exact setField_agree (flag_value levels d) _ _ _
  · exact setField_agree (flag_value levels d) _ _ _
  · have hname : name ∉ fields := by simp [fields, hlower, hupper, hincludeLower, hincludeUpper]
    obtain ⟨hskip, v, hv⟩ := h hname
    show Agree (d.skip >>= fun _ => .ok draft) _
    rw [hskip, hv]
    exact .refl _

theorem ofJson_object_value (hlevels : 102 ≤ levels) {members : List (Quotation × Document)}
    {close : ObjectEnd} (h : Legible Numeral.held (.object members close)) :
    Agree (ofJson levels (.object members close))
      ((Document.object members close).value levels >>= ofValue) := by
  have hmembers : ∀ m ∈ members, ∀ name, m.1.text = .ok name → ∀ draft,
      Agree (Draft.takeUp (ofDocument (levels - 1)) draft name m.2)
        (m.2.value (levels - 1) >>= Draft.takeUp ofMembers draft name) := by
    intro m hm name hname
    refine takeUp_value fun hunknown => ?_
    rcases h m hm name hname with hknown | hforeign
    · exact absurd hknown hunknown
    · have hdepth := hforeign.depth
      exact ⟨Document.skip_of_legible hforeign.legible,
        Document.exists_value hforeign.legible (show m.2.depth < levels - 1 by omega)⟩
  rw [ofJson, readRecord, Document.value, descend_eq (by omega), ok_bind, ok_bind]
  cases close.check with
  | error fault =>
    refine .of_faults (fun range hread => ?_) fun range hread => ?_
    · obtain ⟨_, -, hread⟩ := bind_eq_ok.mp hread
      cases hread
    · obtain ⟨v, hv, -⟩ := bind_eq_ok.mp hread
      obtain ⟨_, -, hv⟩ := bind_eq_ok.mp hv
      cases hv
  | ok =>
    -- Reading all values first and taking them up then comes to taking up one after the other.
    refine ((foldlM_memberValues hmembers {}).bind fun draft => .refl draft.finish).trans ?_
    rw [bind_assoc, bind_assoc]
    exact .refl _

/-- A range comes out of a document just as it comes out of the value of the document. -/
theorem ofJson_value (hlevels : 102 ≤ levels) (h : Legible Numeral.held d) :
    Agree (ofJson levels d) (d.value levels >>= ofValue) := by
  cases d with
  | array items close => exact ofJson_array_value levels items close
  | object members close => exact ofJson_object_value hlevels h
  | number n =>
    refine .of_faults (fun range hread => by cases hread) fun range hread => ?_
    obtain ⟨v, hv, hread⟩ := bind_eq_ok.mp hread
    obtain ⟨number, -, rfl⟩ := map_eq_ok.mp hv
    cases hread
  | string q =>
    refine .of_faults (fun range hread => by cases hread) fun range hread => ?_
    obtain ⟨v, hv, hread⟩ := bind_eq_ok.mp hread
    obtain ⟨s, -, rfl⟩ := map_eq_ok.mp hv
    cases hread
  | null | boolean b | broken flaw =>
    exact .of_faults (fun range hread => by cases hread) fun range hread => by cases hread

/-! ### Ranges that are rearranged -/

/-- The members of a range come in another order, with members of other names put in. -/
inductive Rearranged (allowed : Numeral → Bool) : Document → Document → Prop
  | same {d : Document} (h : Legible allowed d) : Rearranged allowed d d
  | object {members members' : List (Quotation × Document)}
      (h : Legible allowed (.object members .closed))
      (hmembers : Json.Rearranged fields allowed (fun _ d d' => d' = d) members members') :
      Rearranged allowed (.object members .closed) (.object members' .closed)

theorem Rearranged.legible (h : Rearranged allowed d d') :
    Legible allowed d ∧ Legible allowed d' := by
  cases h with
  | same h => exact ⟨h, h⟩
  | object h hmembers =>
    refine ⟨h, fun m' hm' name hname => ?_⟩
    rcases hmembers.mem hm' with ⟨m, hm, hkey, hvalue⟩ | hforeign
    · rw [hkey] at hname
      obtain rfl : m' = m := Prod.ext hkey (hvalue name hname)
      exact h m' hm name hname
    · exact .inr hforeign

theorem ofJson_rearranged (h : Rearranged allowed d d') (levels : Nat) :
    Agree (ofJson levels d) (ofJson levels d') := by
  cases h with
  | same h => exact .refl _
  | object h hmembers =>
    refine readRecord_rearranged hmembers (fun _ => takeUp_swaps _) ?_ ?_
    · exact fun levels draft name d hname hskip => takeUp_unknown hname hskip
    · rintro draft name d _ rfl
      exact .refl _

end SolrClause.Range
