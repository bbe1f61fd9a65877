import SolrClause.Compiler.Clause

/-! The order of the fragments in a clause. The canonical order compares operations and then bytes;
it is a linear order of entries, so a clause in canonical order has one list of fragments for all
orders of its predicates. -/

namespace SolrClause

namespace Text

theorem bytesLe_total (a b : String) : bytesLe a b ∨ bytesLe b a := by
  simpa [bytesLe] using List.le_total (utf8 a) (utf8 b)

theorem bytesLe_trans {a b c : String} (h : bytesLe a b) (h' : bytesLe b c) : bytesLe a c := by
  simp only [bytesLe, decide_eq_true_eq] at *
  exact List.le_trans h h'

theorem utf8_injective {a b : String} (h : utf8 a = utf8 b) : a = b := by
  rw [← String.toByteArray_inj]
  exact ByteArray.ext (Array.toList_inj.mp h)

theorem bytesLe_antisymm {a b : String} (h : bytesLe a b) (h' : bytesLe b a) : a = b := by
  simp only [bytesLe, decide_eq_true_eq] at h h'
  exact utf8_injective (List.le_antisymm h h')

end Text

namespace Operation

/-- The rank of an operation is its place in the declaration order. -/
theorem all_getElem?_rank (operation : Operation) : all[operation.rank]? = some operation := by
  rcases operation with comparison | _
  · cases comparison <;> rfl
  · rfl

theorem rank_injective {a b : Operation} (h : a.rank = b.rank) : a = b := by
  have ha := all_getElem?_rank a
  rw [h, all_getElem?_rank b] at ha
  exact (Option.some.inj ha).symm

end Operation

namespace Compiler

namespace Entry

theorem le_iff {a b : Entry} :
    a.le b ↔ a.operation.rank < b.operation.rank ∨
      a.operation.rank = b.operation.rank ∧ Text.bytesLe a.fragment b.fragment := by
  simp [le]

theorem le_total (a b : Entry) : a.le b ∨ b.le a := by
  rw [le_iff, le_iff]
  have := Text.bytesLe_total a.fragment b.fragment
  by_cases h : a.operation.rank = b.operation.rank
  · rcases this with hab | hba
    · exact .inl (.inr ⟨h, hab⟩)
    · exact .inr (.inr ⟨h.symm, hba⟩)
  · rcases Nat.lt_or_gt_of_ne h with hab | hba
    · exact .inl (.inl hab)
    · exact .inr (.inl hba)

theorem le_trans {a b c : Entry} (h : a.le b) (h' : b.le c) : a.le c := by
  rw [le_iff] at *
  rcases h with h | ⟨hr, h⟩
  · exact .inl (by omega)
  · rcases h' with h' | ⟨hr', h'⟩
    · exact .inl (by omega)
    · exact .inr ⟨hr.trans hr', Text.bytesLe_trans h h'⟩

theorem le_antisymm {a b : Entry} (h : a.le b) (h' : b.le a) : a = b := by
  rw [le_iff] at h h'
  obtain ⟨operation, fragment⟩ := a
  obtain ⟨hr, hab⟩ : operation.rank = b.operation.rank ∧ Text.bytesLe fragment b.fragment := by
    rcases h with h | h
    · rcases h' with h' | ⟨h', -⟩
      · exact absurd h (Nat.lt_asymm h')
      · exact absurd h (by omega)
    · exact h
  obtain ⟨-, hba⟩ : _ ∧ Text.bytesLe b.fragment fragment := h'.resolve_left (by omega)
  rw [Operation.rank_injective hr, Text.bytesLe_antisymm hab hba]

end Entry

/-- The predicates in the order in which a clause holds their fragments. -/
def arrange (config : Config) (predicates : List Predicate) : List Predicate :=
  if config.canonicalOrder then
    predicates.mergeSort fun a b => (Entry.ofPredicate a).le (.ofPredicate b)
  else predicates

theorem fragments_eq (config : Config) (predicates : List Predicate) :
    fragments config predicates = (arrange config predicates).map Fragment.ofPredicate := by
  rw [fragments, arrange]
  split
  · rw [← List.map_mergeSort (r := fun a b => (Entry.ofPredicate a).le (.ofPredicate b))
      fun _ _ _ _ => rfl, List.map_map]
    rfl
  · rw [List.map_map]
    rfl

theorem arrange_perm (config : Config) (predicates : List Predicate) :
    (arrange config predicates).Perm predicates := by
  rw [arrange]
  split
  · exact List.mergeSort_perm predicates _
  · exact List.Perm.refl predicates

theorem arrange_free {config : Config} (h : config.canonicalOrder = false)
    (predicates : List Predicate) : arrange config predicates = predicates := by
  rw [arrange, h, if_neg (by decide)]

theorem mergeSort_pairwise (entries : List Entry) :
    (entries.mergeSort Entry.le).Pairwise fun a b => a.le b := by
  have htotal (a b : Entry) : (a.le b || b.le a) = true := by simpa using Entry.le_total a b
  exact @List.pairwise_mergeSort _ Entry.le (fun _ _ _ => Entry.le_trans) htotal entries

/-- Entries in canonical order do not depend on the order that they had before. -/
theorem mergeSort_eq_of_perm {a b : List Entry} (h : a.Perm b) :
    a.mergeSort Entry.le = b.mergeSort Entry.le := by
  refine List.Perm.eq_of_pairwise (fun _ _ _ _ => Entry.le_antisymm) (mergeSort_pairwise a)
    (mergeSort_pairwise b) ?_
  exact (List.mergeSort_perm a _).trans (h.trans (List.mergeSort_perm b _).symm)

/-- In canonical order operations come in declaration order, and the fragments of one operation
come in the order of their bytes. -/
theorem arrange_pairwise {config : Config} (h : config.canonicalOrder = true)
    (predicates : List Predicate) :
    (arrange config predicates).Pairwise fun a b =>
      (Entry.ofPredicate a).le (Entry.ofPredicate b) := by
  rw [← List.pairwise_map (f := Entry.ofPredicate) (R := fun a b => a.le b = true), arrange,
    if_pos h, List.map_mergeSort (s := Entry.le) fun _ _ _ _ => rfl]
  exact mergeSort_pairwise _

/-- What is in canonical order stays as it is. -/
theorem arrange_of_pairwise {predicates : List Predicate}
    (h : predicates.Pairwise fun a b => (Entry.ofPredicate a).le (Entry.ofPredicate b))
    (config : Config) : arrange config predicates = predicates := by
  rw [arrange]
  split
  · exact List.mergeSort_of_pairwise h
  · rfl

theorem clause_of_pairwise {c : Criteria} (h : c.predicates.toList.Pairwise fun a b =>
    (Entry.ofPredicate a).le (Entry.ofPredicate b)) (config : Config) :
    clause config c = (if c.negating then "-" else "") ++ c.field ++ ":" ++
      body (c.predicates.toList.map Fragment.ofPredicate) := by
  rw [clause, clauseOf, fragments_eq, arrange_of_pairwise h]

/-- `ordered` holds `predicates` in the order that a configuration asks for: theirs, or the
canonical one. -/
structure Arranged (config : Config) (predicates ordered : List Predicate) : Prop where
  perm : ordered.Perm predicates
  free : config.canonicalOrder = false → ordered = predicates
  canonical : config.canonicalOrder = true →
    ordered.Pairwise fun a b => (Entry.ofPredicate a).le (Entry.ofPredicate b)

theorem arranged (config : Config) (predicates : List Predicate) :
    Arranged config predicates (arrange config predicates) :=
  ⟨arrange_perm config predicates, fun h => arrange_free h predicates,
    fun h => arrange_pairwise h predicates⟩

/-- The canonical clause does not depend on the order of the predicates. -/
theorem fragments_eq_of_perm {config : Config} (h : config.canonicalOrder = true)
    {a b : List Predicate} (hab : a.Perm b) : fragments config a = fragments config b := by
  rw [fragments, fragments, if_pos h, if_pos h, mergeSort_eq_of_perm (hab.map Entry.ofPredicate)]

end Compiler

end SolrClause
