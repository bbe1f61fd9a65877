import SolrClause.Proofs.Json.Reading

/-! The depth of documents. A document that nests less deep than two limits allow is read alike
under both, by every reader that goes no deeper than the document does. -/

namespace SolrClause.Json

namespace Document

mutual

/-- How many arrays and objects stand around the innermost value of a document. -/
def depth : Document → Nat
  | .array items _ => itemsDepth items + 1
  | .object members _ => membersDepth members + 1
  | _ => 0

def itemsDepth : List Document → Nat
  | [] => 0
  | item :: rest => max item.depth (itemsDepth rest)

def membersDepth : List (Quotation × Document) → Nat
  | [] => 0
  | (_, document) :: rest => max document.depth (membersDepth rest)

end

theorem depth_le_itemsDepth {d : Document} {items : List Document} (h : d ∈ items) :
    d.depth ≤ itemsDepth items := by
  induction items with
  | nil => exact absurd h List.not_mem_nil
  | cons item rest ih =>
    rw [itemsDepth]
    rcases List.mem_cons.mp h with rfl | h
    · omega
    · have := ih h
      omega

theorem depth_le_membersDepth {key : Quotation} {d : Document}
    {members : List (Quotation × Document)} (h : (key, d) ∈ members) :
    d.depth ≤ membersDepth members := by
  induction members with
  | nil => exact absurd h List.not_mem_nil
  | cons member rest ih =>
    obtain ⟨key', d'⟩ := member
    rw [membersDepth]
    rcases List.mem_cons.mp h with heq | h
    · cases heq
      omega
    · have := ih h
      omega

/-! ### Readers under two limits -/

/-- The reader does not tell two limits apart on documents that nest less deep than either. -/
def Unlimited {α : Type} (reading : Reading α) : Prop :=
  ∀ levels levels' d, d.depth < levels → d.depth < levels' → reading levels d = reading levels' d

mutual

theorem value_unlimited {levels levels' : Nat} {d : Document} (h : d.depth < levels)
    (h' : d.depth < levels') : d.value levels = d.value levels' := by
  cases d with
  | array items close =>
    rw [depth] at h h'
    rw [value, value, descend_eq (by omega), descend_eq (by omega), ok_bind, ok_bind,
      values_unlimited (show itemsDepth items < levels - 1 by omega)
        (show itemsDepth items < levels' - 1 by omega)]
  | object members close =>
    rw [depth] at h h'
    rw [value, value, descend_eq (by omega), descend_eq (by omega), ok_bind, ok_bind,
      memberValues_unlimited (show membersDepth members < levels - 1 by omega)
        (show membersDepth members < levels' - 1 by omega)]
  | null => rfl
  | boolean b => rfl
  | number n => rfl
  | string q => rfl
  | broken flaw => rfl

theorem values_unlimited {levels levels' : Nat} {items : List Document}
    (h : itemsDepth items < levels) (h' : itemsDepth items < levels') :
    values levels items = values levels' items := by
  cases items with
  | nil => rfl
  | cons item rest =>
    rw [itemsDepth] at h h'
    obtain ⟨hitem, hrest⟩ := Nat.max_lt.mp h
    obtain ⟨hitem', hrest'⟩ := Nat.max_lt.mp h'
    rw [values, values, value_unlimited hitem hitem', values_unlimited hrest hrest']

theorem memberValues_unlimited {levels levels' : Nat} {members : List (Quotation × Document)}
    (h : membersDepth members < levels) (h' : membersDepth members < levels') :
    memberValues levels members = memberValues levels' members := by
  cases members with
  | nil => rfl
  | cons member rest =>
    obtain ⟨key, d⟩ := member
    rw [membersDepth] at h h'
    obtain ⟨hvalue, hrest⟩ := Nat.max_lt.mp h
    obtain ⟨hvalue', hrest'⟩ := Nat.max_lt.mp h'
    rw [memberValues, memberValues, value_unlimited hvalue hvalue',
      memberValues_unlimited hrest hrest']

end

theorem readOptional_unlimited {α : Type} {reading : Reading α} (hreading : Unlimited reading) :
    Unlimited (readOptional reading) := by
  intro levels levels' d h h'
  cases d with
  | null => rfl
  | _ => exact congrArg (Except.map some) (hreading levels levels' _ h h')

end Document

/-- A fold over members depends on what each step makes of the members only. -/
theorem foldlM_congr {ε σ α : Type} {f g : σ → α → Except ε σ} {items : List α}
    (h : ∀ item ∈ items, ∀ state, f state item = g state item) (state : σ) :
    items.foldlM f state = items.foldlM g state := by
  induction items generalizing state with
  | nil => rfl
  | cons item rest ih =>
    rw [List.foldlM_cons, List.foldlM_cons, h item List.mem_cons_self]
    exact congrArg _ (funext fun next => ih (fun item hitem => h item (.tail _ hitem)) next)

/-- Taking an item depends on what the reader makes of the items that are left. -/
theorem Elements.take_congr {α β : Type} {elements : Elements} {f g : Document → Except Fault α}
    {next next' : Option α × Elements → Except Fault β}
    (hread : ∀ item ∈ elements.items, f item = g item)
    (hnext : ∀ value rest, (∀ item ∈ rest.items, item ∈ elements.items) →
      next (value, rest) = next' (value, rest)) :
    (elements.take f >>= next) = (elements.take g >>= next') := by
  obtain ⟨items, close⟩ := elements
  cases items with
  | nil =>
    rw [take_nil, take_nil]
    cases close.check with
    | error fault => rfl
    | ok => exact hnext none _ fun _ h => h
  | cons item rest =>
    rw [take_cons, take_cons, hread item List.mem_cons_self]
    cases g item with
    | error fault => rfl
    | ok value => exact hnext (some value) _ fun _ h => List.mem_cons_of_mem item h

theorem Elements.require_eq {α : Type} {elements : Elements} {f g : Document → Except Fault α}
    (hread : ∀ item ∈ elements.items, f item = g item) (length : Nat) (expected : String) :
    elements.require length expected f = elements.require length expected g :=
  take_congr hread fun _ _ _ => rfl

theorem Elements.require_congr {α β : Type} {elements : Elements} {f g : Document → Except Fault α}
    {next next' : α × Elements → Except Fault β} {length : Nat} {expected : String}
    (hread : ∀ item ∈ elements.items, f item = g item)
    (hnext : ∀ value rest, (∀ item ∈ rest.items, item ∈ elements.items) →
      next (value, rest) = next' (value, rest)) :
    (elements.require length expected f >>= next) =
      (elements.require length expected g >>= next') := by
  rw [require, require, bind_assoc, bind_assoc]
  refine take_congr hread fun value rest hrest => ?_
  cases value with
  | none => rfl
  | some value => exact hnext value rest hrest

namespace Document

/-- A choice is read alike wherever an object may stand. -/
theorem readChoice_levels {α : Type} (choose : String → Option α) (names : List String)
    {levels levels' : Nat} (h : 2 ≤ levels) (h' : 2 ≤ levels') (d : Document) :
    readChoice choose names levels d = readChoice choose names levels' d := by
  cases d with
  | object members close =>
    simp only [readChoice, descend_eq h, descend_eq h', ok_bind]
  | broken flaw => cases flaw <;> rfl
  | _ => rfl

theorem readChoice_unlimited {α : Type} (choose : String → Option α) (names : List String) :
    Unlimited (readChoice choose names) := by
  intro levels levels' d h h'
  cases d with
  | object members close =>
    rw [depth] at h h'
    apply readChoice_levels
    · omega
    · omega
  | broken flaw => cases flaw <;> rfl
  | _ => rfl

theorem readList_unlimited {α : Type} {reading : Reading α} (hreading : Unlimited reading) :
    Unlimited (readList reading) := by
  intro levels levels' d h h'
  cases d with
  | array items close =>
    rw [depth] at h h'
    have hitems : items.mapM (reading (levels - 1)) = items.mapM (reading (levels' - 1)) := by
      apply mapM_eq_of_forall₂
      rw [List.forall₂_same]
      intro item hitem
      have := depth_le_itemsDepth hitem
      apply hreading
      · omega
      · omega
    rw [readList, readList, descend_eq (by omega), descend_eq (by omega), ok_bind, ok_bind, hitems]
  | _ => rfl

end Document

/-- A record is read alike under two limits if its fields are. -/
theorem readRecord_unlimited {α σ : Type} {name : String}
    {ofElements : Nat → Elements → Except Fault (α × Elements)} {start : σ}
    {takeUp : Nat → σ → String → Document → Except Fault σ} {ofMembers : σ → Except Fault α}
    (helements : ∀ levels levels' items close,
      (∀ item ∈ items, item.depth < levels ∧ item.depth < levels') →
      ofElements levels ⟨items, close⟩ = ofElements levels' ⟨items, close⟩)
    (htakeUp : ∀ levels levels' state key (d : Document), d.depth < levels → d.depth < levels' →
      takeUp levels state key d = takeUp levels' state key d) :
    Document.Unlimited (readRecord name ofElements start takeUp ofMembers) := by
  intro levels levels' d h h'
  cases d with
  | array items close =>
    rw [Document.depth] at h h'
    have hitems : ∀ item ∈ items, item.depth < levels - 1 ∧ item.depth < levels' - 1 := by
      intro item hitem
      have := Document.depth_le_itemsDepth hitem
      omega
    rw [readRecord, readRecord, descend_eq (by omega), descend_eq (by omega), ok_bind, ok_bind,
      helements _ _ items close hitems]
  | object members close =>
    rw [Document.depth] at h h'
    rw [readRecord, readRecord, descend_eq (by omega), descend_eq (by omega), ok_bind, ok_bind]
    congr 1
    refine foldlM_congr (fun member hmember state => ?_) start
    have := Document.depth_le_membersDepth hmember
    exact congrArg _ (funext fun key => htakeUp _ _ state key _ (by omega) (by omega))
  | null => rfl
  | boolean b => rfl
  | number n => rfl
  | string q => rfl
  | broken flaw => rfl

end SolrClause.Json
