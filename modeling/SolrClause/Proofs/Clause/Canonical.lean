import Mathlib.Data.Finset.Card
import Mathlib.Data.Finset.Dedup
import SolrClause.Proofs.Clause.Order

/-! Criteria as values. How a criteria is put together, in which order its predicates come and how
often they are repeated make no difference to it, and none to its clause in canonical order. -/

namespace SolrClause

namespace PredicateSet

theorem sameMembers_iff {s t : PredicateSet} : s.SameMembers t ↔ ∀ p, p ∈ s ↔ p ∈ t :=
  List.perm_ext_iff_of_nodup s.nodup t.nodup

/-- A set holds as many predicates as the list that it is made from has distinct ones. -/
theorem size_eq_card {set : PredicateSet} {predicates : List Predicate}
    (h : ∀ p, p ∈ set ↔ p ∈ predicates) : set.size = predicates.toFinset.card := by
  have hmembers : set.toList.toFinset = predicates.toFinset := by
    ext p
    rw [List.mem_toFinset, List.mem_toFinset]
    exact h p
  rw [size, ← List.toFinset_card_of_nodup set.nodup, hmembers]

end PredicateSet

namespace Criteria

/-- Adding predicates one after the other changes nothing but the set. -/
theorem foldl_withPredicate (c : Criteria) (predicates : List Predicate) :
    predicates.foldl withPredicate c =
      { c with predicates := c.predicates.insertAll predicates } := by
  induction predicates generalizing c with
  | nil => rfl
  | cons p predicates ih => rw [List.foldl_cons, ih]; rfl

/-- The ways to put together a criteria on a field from predicates with given members: all at once,
or one after the other. -/
inductive Assembled (field : String) (negating : Bool) (members : List Predicate) : Criteria → Prop
  | ofParts {predicates : List Predicate} (h : ∀ p, p ∈ predicates ↔ p ∈ members) :
    Assembled field negating members (.ofParts field negating predicates)
  | chain {predicates : List Predicate} (h : ∀ p, p ∈ predicates ↔ p ∈ members) :
    Assembled field negating members
      (predicates.foldl withPredicate (Criteria.withNegating { field } negating))

namespace Assembled

variable {field : String} {negating : Bool} {members : List Predicate} {c d : Criteria}

theorem field_eq (h : Assembled field negating members c) : c.field = field := by
  cases h with
  | ofParts => rfl
  | chain => rw [foldl_withPredicate]; rfl

theorem negating_eq (h : Assembled field negating members c) : c.negating = negating := by
  cases h with
  | ofParts => rfl
  | chain => rw [foldl_withPredicate]; rfl

theorem mem_iff (h : Assembled field negating members c) (p : Predicate) :
    p ∈ c.predicates ↔ p ∈ members := by
  cases h with
  | ofParts h => exact PredicateSet.mem_ofList.trans (h p)
  | chain h =>
    rw [foldl_withPredicate]
    exact PredicateSet.mem_ofList.trans (h p)

theorem same (hc : Assembled field negating members c) (hd : Assembled field negating members d) :
    c.Same d :=
  ⟨hc.field_eq.trans hd.field_eq.symm, hc.negating_eq.trans hd.negating_eq.symm,
    PredicateSet.sameMembers_iff.mpr fun p => (hc.mem_iff p).trans (hd.mem_iff p).symm⟩

end Assembled

end Criteria

namespace Compiler

/-- Criteria that are the same filter have the same canonical clause, in whatever order each holds
its predicates. -/
theorem clauseOf_eq_of_same {c d : Criteria} (h : c.Same d) {config : Config}
    (hconfig : config.canonicalOrder = true) {order order' : List Predicate}
    (horder : order.Perm c.predicates.toList) (horder' : order'.Perm d.predicates.toList) :
    clauseOf config c.field c.negating order = clauseOf config d.field d.negating order' := by
  obtain ⟨hfield, hnegating, hmembers⟩ := h
  have hperm : order.Perm order' := horder.trans (hmembers.trans horder'.symm)
  rw [clauseOf, clauseOf, hfield, hnegating, fragments_eq_of_perm hconfig hperm]

/-- Criteria put together from predicates with the same members are the same filter, hold each
distinct predicate once, and have one canonical clause for all orders of their sets. -/
theorem canonical_clause_unique {field : String} {negating : Bool} {members : List Predicate}
    {c d : Criteria} (hc : c.Assembled field negating members)
    (hd : d.Assembled field negating members) :
    c.Same d ∧ c.predicates.size = members.toFinset.card ∧
      ∀ config : Config, config.canonicalOrder = true → ∀ order order' : List Predicate,
        order.Perm c.predicates.toList → order'.Perm d.predicates.toList →
        clauseOf config c.field c.negating order = clauseOf config d.field d.negating order' :=
  ⟨hc.same hd, PredicateSet.size_eq_card hc.mem_iff,
    fun _ hconfig _ _ => clauseOf_eq_of_same (hc.same hd) hconfig⟩

/-- A negative zero and a number that is none, put together at once, and one after the other in the
opposite order with a repetition. -/
theorem canonical_clause_unique_floats :
    clause { canonicalOrder := true }
        (.ofParts "size" true [.compare .equals (.float ⟨0x8000000000000000⟩),
          .compare .equals (.float ⟨0x7FF8000000000000⟩)]) =
      clause { canonicalOrder := true }
        ([.compare .equals (.float ⟨0x7FF8000000000000⟩),
          .compare .equals (.float ⟨0x8000000000000000⟩),
          .compare .equals (.float ⟨0x7FF8000000000000⟩)].foldl
          Criteria.withPredicate (Criteria.withNegating { field := "size" } true)) := by
  have hd : Criteria.Assembled "size" true
      [.compare .equals (.float ⟨0x8000000000000000⟩),
        .compare .equals (.float ⟨0x7FF8000000000000⟩)]
      ([.compare .equals (.float ⟨0x7FF8000000000000⟩),
        .compare .equals (.float ⟨0x8000000000000000⟩),
        .compare .equals (.float ⟨0x7FF8000000000000⟩)].foldl
        Criteria.withPredicate (Criteria.withNegating { field := "size" } true)) :=
    .chain fun p => by simp; tauto
  obtain ⟨-, -, hclause⟩ := canonical_clause_unique (.ofParts fun p => Iff.rfl) hd
  exact hclause { canonicalOrder := true } rfl _ _ (List.Perm.refl _) (List.Perm.refl _)

end Compiler

end SolrClause
