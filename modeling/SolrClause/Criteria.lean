import SolrClause.Predicate

/-! Criteria: one filter on one field, that is a field name, a negation flag and a set of
predicates. A set is a list without repetitions, in the order of insertion. -/

namespace SolrClause

/-- Predicates without repetitions. -/
structure PredicateSet where
  toList : List Predicate
  nodup : toList.Nodup
  deriving DecidableEq

namespace PredicateSet

def empty : PredicateSet := ⟨[], List.nodup_nil⟩

instance : Inhabited PredicateSet := ⟨empty⟩

instance : Membership Predicate PredicateSet := ⟨fun set p => p ∈ set.toList⟩

instance (p : Predicate) (set : PredicateSet) : Decidable (p ∈ set) :=
  inferInstanceAs (Decidable (p ∈ set.toList))

instance (set : PredicateSet) (test : Predicate → Prop) [DecidablePred test] :
    Decidable (∀ p ∈ set, test p) :=
  inferInstanceAs (Decidable (∀ p ∈ set.toList, test p))

/-- The set with a predicate added at the end, unless it is in the set already. -/
def insert (set : PredicateSet) (p : Predicate) : PredicateSet :=
  if h : p ∈ set.toList then set
  else
    ⟨set.toList ++ [p], List.nodup_append.2 ⟨set.nodup, by simp, by
      intro a ha b hb hab
      rw [List.mem_singleton] at hb
      exact h (hb ▸ hab ▸ ha)⟩⟩

theorem toList_insert_of_mem {set : PredicateSet} {p : Predicate} (h : p ∈ set) :
    (set.insert p).toList = set.toList := by
  have h : p ∈ set.toList := h
  simp [insert, h]

theorem toList_insert_of_not_mem {set : PredicateSet} {p : Predicate} (h : p ∉ set) :
    (set.insert p).toList = set.toList ++ [p] := by
  have h : p ∉ set.toList := h
  simp [insert, h]

theorem mem_insert {set : PredicateSet} {p q : Predicate} : q ∈ set.insert p ↔ q = p ∨ q ∈ set := by
  show q ∈ (set.insert p).toList ↔ q = p ∨ q ∈ set.toList
  by_cases h : p ∈ set
  · rw [toList_insert_of_mem h]
    exact ⟨.inr, fun m => m.elim (fun e => e ▸ h) id⟩
  · rw [toList_insert_of_not_mem h, List.mem_append, List.mem_singleton, or_comm]

def insertAll (set : PredicateSet) (predicates : List Predicate) : PredicateSet :=
  predicates.foldl insert set

def ofList (predicates : List Predicate) : PredicateSet := empty.insertAll predicates

theorem mem_insertAll {predicates : List Predicate} {set : PredicateSet} {q : Predicate} :
    q ∈ set.insertAll predicates ↔ q ∈ predicates ∨ q ∈ set := by
  induction predicates generalizing set with
  | nil => simp [insertAll]
  | cons p rest ih =>
    have step : set.insertAll (p :: rest) = (set.insert p).insertAll rest := rfl
    rw [step, ih, mem_insert, List.mem_cons, or_left_comm, or_assoc]

theorem mem_ofList {predicates : List Predicate} {q : Predicate} :
    q ∈ ofList predicates ↔ q ∈ predicates := by
  have none : ¬ q ∈ empty := List.not_mem_nil
  simp [ofList, mem_insertAll, none]

def size (set : PredicateSet) : Nat := set.toList.length

def isEmpty (set : PredicateSet) : Bool := set.toList.isEmpty

def SameMembers (s t : PredicateSet) : Prop := s.toList.Perm t.toList

instance (s t : PredicateSet) : Decidable (s.SameMembers t) :=
  inferInstanceAs (Decidable (s.toList.Perm t.toList))

end PredicateSet

/-- A filter on one field. The predicates are alternatives; without any, every value passes. -/
structure Criteria where
  field : String
  negating : Bool := false
  predicates : PredicateSet := .empty
  deriving DecidableEq

namespace Criteria

def ofParts (field : String) (negating : Bool) (predicates : List Predicate) : Criteria :=
  ⟨field, negating, .ofList predicates⟩

def withNegating (c : Criteria) (negating : Bool) : Criteria := { c with negating }

def negate (c : Criteria) : Criteria := c.withNegating true

def withPredicate (c : Criteria) (p : Predicate) : Criteria :=
  { c with predicates := c.predicates.insert p }

def compare (c : Criteria) (comparison : Comparison) (value : Scalar) : Criteria :=
  c.withPredicate (.compare comparison value)

def between (c : Criteria) (range : Range) : Criteria := c.withPredicate (.between range)

def hasPredicates (c : Criteria) : Bool := !c.predicates.isEmpty

/-- Criteria are the same filter if they agree on the field, the flag and the set of predicates. -/
def Same (c d : Criteria) : Prop :=
  c.field = d.field ∧ c.negating = d.negating ∧ c.predicates.SameMembers d.predicates

instance (c d : Criteria) : Decidable (c.Same d) := by unfold Same; infer_instance

end Criteria

end SolrClause
