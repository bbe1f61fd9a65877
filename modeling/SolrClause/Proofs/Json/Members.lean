import Mathlib.Data.List.Perm.Basic
import SolrClause.Proofs.Json.Legible

/-! The members of records in any order. Reading one member after the other comes to the same value,
or to a fault, in whatever order the members stand, as long as two members in turn may be exchanged;
members that a record does not know may stand anywhere among them. -/

namespace SolrClause.Json

/-- Both are the same value, or both are faults. -/
def Agree {ε α : Type} (x y : Except ε α) : Prop := ∀ a, x = .ok a ↔ y = .ok a

namespace Agree

variable {ε α β γ : Type} {x y z : Except ε α}

theorem refl (x : Except ε α) : Agree x x := fun _ => Iff.rfl

theorem symm (h : Agree x y) : Agree y x := fun a => (h a).symm

theorem trans (h : Agree x y) (h' : Agree y z) : Agree x z := fun a => (h a).trans (h' a)

theorem bind (h : Agree x y) {f g : α → Except ε β} (hfg : ∀ a, Agree (f a) (g a)) :
    Agree (x >>= f) (y >>= g) := by
  intro b
  rw [bind_eq_ok, bind_eq_ok]
  exact exists_congr fun a => and_congr (h a) (hfg a b)

theorem map (h : Agree x y) (f : α → β) : Agree (x.map f) (y.map f) :=
  h.bind (f := fun a => .ok (f a)) fun a => refl (.ok (f a))

/-- It does not matter which of two results is looked at first. -/
theorem bind_comm (x : Except ε α) (y : Except ε β) (f : α → β → Except ε γ) :
    Agree (x >>= fun a => y >>= f a) (y >>= fun b => x >>= fun a => f a b) := by
  intro c
  cases x with
  | error e => cases y <;> exact ⟨nofun, nofun⟩
  | ok a => cases y <;> exact Iff.rfl

/-- Two steps may be exchanged if, whichever comes first, the other could have come first too. -/
theorem of_exchange {σ : Type} {x y : Except ε σ} {f g : σ → Except ε σ}
    (h : ∀ {first second}, x = .ok first → g first = .ok second →
      ∃ other, y = .ok other ∧ f other = .ok second)
    (h' : ∀ {first second}, y = .ok first → f first = .ok second →
      ∃ other, x = .ok other ∧ g other = .ok second) :
    Agree (x >>= g) (y >>= f) := by
  intro last
  rw [bind_eq_ok, bind_eq_ok]
  constructor
  · rintro ⟨first, hfirst, hsecond⟩
    exact h hfirst hsecond
  · rintro ⟨first, hfirst, hsecond⟩
    exact h' hfirst hsecond

/-- Nothing comes out of either. -/
theorem of_faults (hx : ∀ a, x ≠ .ok a) (hy : ∀ a, y ≠ .ok a) : Agree x y :=
  fun a => ⟨fun h => absurd h (hx a), fun h => absurd h (hy a)⟩

end Agree

/-! ### Folds -/

section Folds

variable {ε σ α β : Type}

theorem mapM_agree {f : α → Except ε σ} {g : β → Except ε σ} {items : List α} {others : List β}
    (h : List.Forall₂ (fun a b => Agree (f a) (g b)) items others) :
    Agree (items.mapM f) (others.mapM g) := by
  induction h with
  | nil => exact .refl _
  | cons hfirst hrest ih =>
    rw [List.mapM_cons, List.mapM_cons]
    exact hfirst.bind fun _ => ih.bind fun _ => .refl _

theorem foldlM_agree {f : σ → α → Except ε σ} {g : σ → β → Except ε σ} {items : List α}
    {others : List β} (h : List.Forall₂ (fun a b => ∀ s, Agree (f s a) (g s b)) items others)
    (s : σ) : Agree (items.foldlM f s) (others.foldlM g s) := by
  induction h generalizing s with
  | nil => exact .refl _
  | cons hfirst hrest ih =>
    rw [List.foldlM_cons, List.foldlM_cons]
    exact (hfirst s).bind ih

/-- Items that leave every state as it is may be left out. -/
theorem foldlM_skip {f : σ → α → Except ε σ} {items : List α} (h : ∀ a ∈ items, ∀ s, f s a = .ok s)
    (s : σ) : items.foldlM f s = .ok s := by
  induction items with
  | nil => rfl
  | cons a items ih =>
    obtain ⟨hfirst, hrest⟩ := List.forall_mem_cons.mp h
    rw [List.foldlM_cons, hfirst, ok_bind, ih hrest]

/-- A fold whose steps may be exchanged does not depend on the order of the items. -/
theorem foldlM_perm {f : σ → α → Except ε σ}
    (hswap : ∀ s a b, Agree (f s a >>= (f · b)) (f s b >>= (f · a))) {items items' : List α}
    (h : items.Perm items') (s : σ) : Agree (items.foldlM f s) (items'.foldlM f s) := by
  induction h generalizing s with
  | nil => exact .refl _
  | cons a h ih =>
    rw [List.foldlM_cons, List.foldlM_cons]
    exact (Agree.refl _).bind ih
  | swap a b items =>
    have htwo (a b : α) : (b :: a :: items).foldlM f s =
        (f s b >>= (f · a)) >>= fun next => items.foldlM f next := by
      rw [List.foldlM_cons, bind_assoc]
      simp only [List.foldlM_cons]
    rw [htwo a b, htwo b a]
    exact (hswap s b a).bind fun next => .refl _
  | trans h h' ih ih' => exact (ih s).trans (ih' s)

end Folds

/-! ### Records -/

/-- A member that may be put into a record with these fields: it has another name, and its value is
JSON that nests at most 100 deep, with strings that stand for texts and with allowed numbers. -/
structure Foreign (fields : List String) (allowed : Numeral → Bool)
    (member : Quotation × Document) : Prop where
  name : ∃ name, member.1.text = .ok name ∧ name ∉ fields
  depth : member.2.depth ≤ 100
  legible : member.2.legible allowed = true

/-- A member keeps its key, and its value changes as the name allows. -/
def Changed (change : String → Document → Document → Prop) (m m' : Quotation × Document) : Prop :=
  m'.1 = m.1 ∧ ∀ name, m.1.text = .ok name → change name m.2 m'.2

/-- The value of one field changes, and no other value. -/
def FieldChanged (field : String) (Q : Document → Document → Prop) (name : String)
    (d d' : Document) : Prop :=
  (name = field → Q d d') ∧ (name ≠ field → d' = d)

/-- The members of a record are rearranged: the value of each may change as its name allows, then
foreign members are put in, and all of them come in any order. -/
def Rearranged (fields : List String) (allowed : Numeral → Bool)
    (change : String → Document → Document → Prop)
    (members members' : List (Quotation × Document)) : Prop :=
  ∃ changed foreign,
    List.Forall₂ (Changed change) members changed ∧ (∀ m ∈ foreign, Foreign fields allowed m) ∧
      members'.Perm (changed ++ foreign)

variable {α σ : Type} {fields : List String} {allowed : Numeral → Bool}
  {change : String → Document → Document → Prop} {members members' : List (Quotation × Document)}

theorem Rearranged.mem (h : Rearranged fields allowed change members members')
    {m' : Quotation × Document} (hm' : m' ∈ members') :
    (∃ m ∈ members, Changed change m m') ∨ Foreign fields allowed m' := by
  obtain ⟨changed, foreign, hchanged, hforeign, hperm⟩ := h
  rcases List.mem_append.mp (hperm.mem_iff.mp hm') with hm' | hm'
  · exact .inl (exists_mem_of_forall₂ hchanged hm')
  · exact .inr (hforeign m' hm')

section Written

variable {field name : String} {Q : Document → Document → Prop} {d d' : Document}

theorem changed_field (h : Q d d') :
    Changed (FieldChanged field Q) (.ofText field, d) (.ofText field, d') := by
  refine ⟨rfl, fun name hname => ?_⟩
  obtain rfl : field = name := Except.ok.inj ((Quotation.text_ofText field).symm.trans hname)
  exact ⟨fun _ => h, fun hne => absurd rfl hne⟩

theorem changed_other (h : name ≠ field) (d : Document) :
    Changed (FieldChanged field Q) (.ofText name, d) (.ofText name, d) := by
  refine ⟨rfl, fun name' hname => ?_⟩
  obtain rfl : name = name' := Except.ok.inj ((Quotation.text_ofText name).symm.trans hname)
  exact ⟨fun heq => absurd heq h, fun _ => rfl⟩

theorem foreign_ofText (hname : name ∉ fields) (hdepth : d.depth ≤ 100)
    (hlegible : d.legible allowed = true) : Foreign fields allowed (.ofText name, d) :=
  ⟨⟨name, Quotation.text_ofText name, hname⟩, hdepth, hlegible⟩

end Written

/-- It makes no difference which of two members is taken up first. -/
def Swaps {β : Type} (takeUp : σ → String → β → Except Fault σ) : Prop :=
  ∀ state name d name' d', Agree (takeUp state name d >>= (takeUp · name' d'))
    (takeUp state name' d' >>= (takeUp · name d))

/-- What a record makes of a member, whose key is read first. -/
def takeMember (takeUp : σ → String → Document → Except Fault σ) (state : σ)
    (member : Quotation × Document) : Except Fault σ := do
  takeUp state (← member.1.text) member.2

theorem takeMember_swap {takeUp : σ → String → Document → Except Fault σ} (hswap : Swaps takeUp)
    (state : σ) (m m' : Quotation × Document) :
    Agree (takeMember takeUp state m >>= (takeMember takeUp · m'))
      (takeMember takeUp state m' >>= (takeMember takeUp · m)) := by
  have htwo (m m' : Quotation × Document) :
      (takeMember takeUp state m >>= (takeMember takeUp · m')) =
        m.1.text >>= fun name => takeUp state name m.2 >>= fun next =>
          m'.1.text >>= fun name' => takeUp next name' m'.2 := by
    simp only [takeMember, bind_assoc]
  have hkeys (m m' : Quotation × Document) :
      Agree (takeMember takeUp state m >>= (takeMember takeUp · m'))
        (m.1.text >>= fun name => m'.1.text >>= fun name' =>
          takeUp state name m.2 >>= (takeUp · name' m'.2)) := by
    rw [htwo]
    exact (Agree.refl _).bind fun name => .bind_comm _ _ _
  refine ((hkeys m m').trans ?_).trans (hkeys m' m).symm
  refine .trans (.bind_comm _ _ _) ?_
  refine (Agree.refl _).bind fun name' => (Agree.refl _).bind fun name => ?_
  exact hswap state name m.2 name' m'.2

/-- It makes no difference whether a field is set from a value that was read in full first. -/
theorem setField_agree {β : Type} {x : Except Fault α} {y : Except Fault β}
    {f : β → Except Fault α} (h : Agree x (y >>= f)) (field : String) (old : Option α)
    (set : Option α → Except Fault σ) :
    Agree (setField field old x >>= set) (y >>= fun b => setField field old (f b) >>= set) := by
  cases old with
  | none =>
    have hassoc : (y >>= fun b => (f b).map some >>= set) = (y >>= f).map some >>= set := by
      cases y <;> rfl
    exact hassoc ▸ (h.map some).bind fun new => .refl (set new)
  | some a =>
    refine .of_faults nofun fun next hnext => ?_
    obtain ⟨_, -, hnext⟩ := bind_eq_ok.mp hnext
    cases hnext

/-- It makes no difference whether members are read in full before they are taken up. -/
theorem foldlM_memberValues {levels : Nat} {takeUp : σ → String → Document → Except Fault σ}
    {takeValue : σ → String → Value → Except Fault σ}
    (h : ∀ m ∈ members, ∀ name, m.1.text = .ok name → ∀ state,
      Agree (takeUp state name m.2) (m.2.value levels >>= takeValue state name))
    (state : σ) :
    Agree (members.foldlM (takeMember takeUp) state)
      (Document.memberValues levels members >>= fun values =>
        values.foldlM (fun state member => takeValue state member.1 member.2) state) := by
  induction members generalizing state with
  | nil => exact .refl _
  | cons m members ih =>
    obtain ⟨key, d⟩ := m
    obtain ⟨hfirst, hrest⟩ := List.forall_mem_cons.mp h
    rw [List.foldlM_cons, takeMember, Document.memberValues]
    simp only [bind_assoc, ok_bind, List.foldlM_cons]
    cases hname : key.text with
    | error fault => exact .refl _
    | ok name =>
      rw [ok_bind, ok_bind]
      refine ((hfirst name hname state).bind fun next => ih hrest next).trans ?_
      rw [bind_assoc]
      exact (Agree.refl _).bind fun v => .bind_comm _ _ _

/-- A record whose members may be exchanged two at a time, which skips what it does not know, and
which makes the same of changed values, is read from rearranged members as before. -/
theorem foldlM_rearranged {takeUp : σ → String → Document → Except Fault σ}
    (h : Rearranged fields allowed change members members') (hswap : Swaps takeUp)
    (hforeign : ∀ state name d, name ∉ fields → d.skip = .ok () → takeUp state name d = .ok state)
    (hchange : ∀ state name d d', change name d d' →
      Agree (takeUp state name d) (takeUp state name d'))
    (state : σ) :
    Agree (members.foldlM (takeMember takeUp) state)
      (members'.foldlM (takeMember takeUp) state) := by
  obtain ⟨changed, foreign, hchanged, hmembers, hperm⟩ := h
  have hskip (state : σ) : foreign.foldlM (takeMember takeUp) state = .ok state := by
    apply foldlM_skip
    intro m hm state
    obtain ⟨⟨name, hname, hunknown⟩, -, hlegible⟩ := hmembers m hm
    rw [takeMember, hname, ok_bind,
      hforeign state name m.2 hunknown (Document.skip_of_legible hlegible)]
  have hall : (changed ++ foreign).foldlM (takeMember takeUp) state =
      changed.foldlM (takeMember takeUp) state := by
    rw [List.foldlM_append]
    cases changed.foldlM (takeMember takeUp) state with
    | error fault => rfl
    | ok next => exact hskip next
  -- Put the members back in order, leave out the foreign ones, and compare one by one.
  refine .trans ?_ (foldlM_perm (takeMember_swap hswap) hperm state).symm
  rw [hall]
  refine foldlM_agree (hchanged.imp fun m m' hm state => ?_) state
  rw [takeMember, takeMember, hm.1]
  intro next
  rw [bind_eq_ok, bind_eq_ok]
  refine exists_congr fun name => and_congr_right fun hname => ?_
  exact hchange state name m.2 m'.2 (hm.2 name hname) next

/-- A record is read alike from rearranged members. -/
theorem readRecord_rearranged {expected : String}
    {ofElements : Nat → Elements → Except Fault (α × Elements)} {start : σ}
    {takeUp : Nat → σ → String → Document → Except Fault σ} {ofMembers : σ → Except Fault α}
    {levels : Nat} (h : Rearranged fields allowed change members members')
    (hswap : ∀ levels, Swaps (takeUp levels))
    (hforeign : ∀ levels state name d, name ∉ fields → d.skip = .ok () →
      takeUp levels state name d = .ok state)
    (hchange : ∀ state name d d', change name d d' →
      Agree (takeUp (levels - 1) state name d) (takeUp (levels - 1) state name d')) :
    Agree (readRecord expected ofElements start takeUp ofMembers levels (.object members .closed))
      (readRecord expected ofElements start takeUp ofMembers levels
        (.object members' .closed)) := by
  rw [readRecord, readRecord, descend]
  split
  · exact .refl _
  · exact (foldlM_rearranged h (hswap _) (hforeign _) hchange start).bind fun state => .refl _

end SolrClause.Json
