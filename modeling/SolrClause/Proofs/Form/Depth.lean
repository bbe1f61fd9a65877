import SolrClause.Form.Criteria
import SolrClause.Proofs.Form.Shape

/-! The depth of criteria. Criteria that nest less deep than two limits allow are read alike under
both, so it makes no difference whether they stand alone or inside an array. -/

namespace SolrClause

open SolrClause.Json

theorem Operation.ofJson_unlimited : Document.Unlimited Operation.ofJson :=
  Document.readChoice_unlimited _ _

theorem Operation.ofJson_levels {levels levels' : Nat} (h : 2 ≤ levels) (h' : 2 ≤ levels')
    (d : Document) : Operation.ofJson levels d = Operation.ofJson levels' d :=
  Document.readChoice_levels _ _ h h' d

namespace Predicate

variable {levels levels' : Nat}

theorem ofContent_unlimited {d : Document} (h : d.depth < levels) (h' : d.depth < levels')
    (operation : Operation) : ofContent levels d operation = ofContent levels' d operation := by
  cases operation with
  | compare comparison =>
    rw [ofContent, ofContent, Scalar.ofJson_unlimited levels levels' d h h']
  | between => rw [ofContent, ofContent, Range.ofJson_unlimited levels levels' d h h']

/-- A member that is skipped: it is neither part of a predicate. -/
def Skipped (member : Quotation × Document) : Prop :=
  ∃ name, member.1.text = .ok name ∧ Part.ofName? name = none ∧ member.2.skip = .ok ()

section FindPart

variable {close : ObjectEnd} {members rest : List (Quotation × Document)} {part : Part}
  {d : Document}

/-- The first member with a part comes after members that are skipped. -/
theorem exists_of_findPart (h : findPart close members = .ok (some (part, d, rest))) :
    ∃ before key, members = before ++ (key, d) :: rest ∧ (∀ m ∈ before, Skipped m) ∧
      ∃ name, key.text = .ok name ∧ Part.ofName? name = some part := by
  induction members with
  | nil =>
    obtain ⟨-, -, h⟩ := bind_eq_ok.mp h
    cases h
  | cons member members ih =>
    obtain ⟨key, document⟩ := member
    obtain ⟨name, hname, h⟩ := bind_eq_ok.mp h
    cases hpart : Part.ofName? name with
    | some found =>
      rw [hpart] at h
      cases h
      exact ⟨[], key, rfl, nofun, name, hname, hpart⟩
    | none =>
      rw [hpart] at h
      obtain ⟨⟨⟩, hskip, h⟩ := bind_eq_ok.mp h
      obtain ⟨before, key', rfl, hbefore, hkey⟩ := ih h
      refine ⟨(key, document) :: before, key', rfl, ?_, hkey⟩
      exact List.forall_mem_cons.mpr ⟨⟨name, hname, hpart, hskip⟩, hbefore⟩

theorem mem_of_findPart (h : findPart close members = .ok (some (part, d, rest))) :
    (∃ key, (key, d) ∈ members) ∧ ∀ m ∈ rest, m ∈ members := by
  obtain ⟨before, key, rfl, -⟩ := exists_of_findPart h
  exact ⟨⟨key, by simp⟩, fun m hm => by simp [hm]⟩

end FindPart

theorem ofMembers_unlimited {members : List (Quotation × Document)}
    (h : ∀ m ∈ members, m.2.depth < levels ∧ m.2.depth < levels') (close : ObjectEnd) :
    ofMembers levels members close = ofMembers levels' members close := by
  rw [ofMembers, ofMembers]
  cases hfirst : findPart close members with
  | error fault => rfl
  | ok found =>
    rw [ok_bind, ok_bind]
    rcases found with _ | ⟨_ | _, d, rest⟩
    case none => rfl
    case some.operation =>
      obtain ⟨⟨key, hd⟩, hrest⟩ := mem_of_findPart hfirst
      dsimp only
      rw [Operation.ofJson_unlimited levels levels' d (h _ hd).1 (h _ hd).2]
      cases Operation.ofJson levels' d with
      | error fault => rfl
      | ok operation =>
        rw [ok_bind, ok_bind]
        cases hsecond : findPart close rest with
        | error fault => rfl
        | ok found =>
          rw [ok_bind, ok_bind]
          rcases found with _ | ⟨_ | _, payload, others⟩
          case none => rfl
          case some.operation => rfl
          case some.value =>
            obtain ⟨⟨key, hpayload⟩, -⟩ := mem_of_findPart hsecond
            have hdepth := h _ (hrest _ hpayload)
            dsimp only
            rw [ofContent_unlimited hdepth.1 hdepth.2]
    case some.value =>
      obtain ⟨⟨key, hd⟩, hrest⟩ := mem_of_findPart hfirst
      dsimp only
      rw [Document.value_unlimited (h _ hd).1 (h _ hd).2]
      cases d.value levels' with
      | error fault => rfl
      | ok value =>
        rw [ok_bind, ok_bind]
        cases hsecond : findPart close rest with
        | error fault => rfl
        | ok found =>
          rw [ok_bind, ok_bind]
          rcases found with _ | ⟨_ | _, name, others⟩
          case none => rfl
          case some.value => rfl
          case some.operation =>
            obtain ⟨⟨key, hname⟩, -⟩ := mem_of_findPart hsecond
            have hdepth := h _ (hrest _ hname)
            dsimp only
            rw [Operation.ofJson_unlimited levels levels' name hdepth.1 hdepth.2]

theorem ofElements_unlimited {items : List Document} {close : ArrayEnd}
    (h : ∀ item ∈ items, item.depth < levels ∧ item.depth < levels') :
    ofElements levels ⟨items, close⟩ = ofElements levels' ⟨items, close⟩ := by
  refine Elements.require_congr (fun _ _ => rfl) fun operation rest hrest => ?_
  apply Elements.require_eq
  intro item hitem
  have hdepth := h item (hrest item hitem)
  exact ofContent_unlimited hdepth.1 hdepth.2 operation

theorem ofJson_unlimited : Document.Unlimited ofJson := by
  intro levels levels' d h h'
  cases d with
  | array items close =>
    rw [Document.depth] at h h'
    have hitems : ∀ item ∈ items, item.depth < levels - 1 ∧ item.depth < levels' - 1 := by
      intro item hitem
      have := Document.depth_le_itemsDepth hitem
      omega
    rw [ofJson, ofJson, descend_eq (by omega), descend_eq (by omega), ok_bind, ok_bind,
      ofElements_unlimited hitems]
  | object members close =>
    rw [Document.depth] at h h'
    have hmembers : ∀ m ∈ members, m.2.depth < levels - 1 ∧ m.2.depth < levels' - 1 := by
      intro m hm
      have := Document.depth_le_membersDepth hm
      omega
    rw [ofJson, ofJson, descend_eq (by omega), descend_eq (by omega), ok_bind, ok_bind,
      ofMembers_unlimited hmembers]
  | _ => rfl

end Predicate

theorem PredicateSet.ofJson_unlimited : Document.Unlimited PredicateSet.ofJson := by
  intro levels levels' d h h'
  rw [ofJson, ofJson, Document.readList_unlimited Predicate.ofJson_unlimited levels levels' d h h']

namespace Criteria

theorem ofElements_unlimited {levels levels' : Nat} {items : List Document} {close : ArrayEnd}
    (h : ∀ item ∈ items, item.depth < levels ∧ item.depth < levels') :
    ofElements levels ⟨items, close⟩ = ofElements levels' ⟨items, close⟩ := by
  refine Elements.require_congr (fun _ _ => rfl) fun field rest hrest => ?_
  refine Elements.take_congr (fun _ _ => rfl) fun negating others hothers => ?_
  refine Elements.take_congr (fun item hitem => ?_) fun _ _ _ => rfl
  have hdepth := h item (hrest item (hothers item hitem))
  exact PredicateSet.ofJson_unlimited levels levels' item hdepth.1 hdepth.2

theorem takeUp_unlimited {levels levels' : Nat} {d : Document} (h : d.depth < levels)
    (h' : d.depth < levels') (draft : Draft) (name : String) :
    Draft.takeUp levels draft name d = Draft.takeUp levels' draft name d := by
  simp only [Draft.takeUp, PredicateSet.ofJson_unlimited levels levels' d h h']

theorem ofJson_unlimited : Document.Unlimited ofJson :=
  readRecord_unlimited (fun _ _ _ _ h => ofElements_unlimited h)
    fun _ _ draft name _ h h' => takeUp_unlimited h h' draft name

end Criteria

end SolrClause
