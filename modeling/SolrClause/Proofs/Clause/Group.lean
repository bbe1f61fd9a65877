import SolrClause.Proofs.Clause.Order
import SolrClause.Proofs.Fragment

/-! The group of a clause with several predicates. A reader of the text between its parentheses
meets nothing that has no place there, and the free spaces in it fall between the fragments: no
value closes a quotation, a range or the group, or brings in a separator of its own. -/

namespace SolrClause.Compiler

open Query

theorem body_of_two_le {parts : List String} (h : 2 ≤ parts.length) :
    body parts = "(" ++ " ".intercalate parts ++ ")" := by
  match parts, h with
  | _ :: _ :: _, _ => rfl

/-- Fragments joined by spaces come apart at the free spaces. -/
theorem split_fragments {predicates : List Predicate} (hne : predicates ≠ [])
    (hraw : ∀ p ∈ predicates, p.operation ≠ .compare .expression) :
    split ' ' .free (" ".intercalate (predicates.map Fragment.ofPredicate)).toList =
      some (predicates.map fun p => (Fragment.ofPredicate p).toList) := by
  rw [String.toList_intercalate, List.map_map]
  refine split_intercalate (by simpa using hne) fun part hpart => ?_
  obtain ⟨p, hp, rfl⟩ := List.mem_map.mp hpart
  exact Fragment.pass_ofPredicate (hraw p hp)

/-- The clause of several predicates is the field, marked if it is negated, and a group. The group
comes apart at its free spaces into the fragments of the predicates, one for each, in the order of
the set or in canonical order. -/
theorem clause_group_split (config : Config) (c : Criteria) {order : List Predicate}
    (horder : order.Perm c.predicates.toList) (hsize : 2 ≤ c.predicates.size)
    (hraw : ∀ p ∈ c.predicates, p.operation ≠ .compare .expression) :
    ∃ (inner : String) (ordered : List Predicate),
      clauseOf config c.field c.negating order =
        (if c.negating then "-" else "") ++ c.field ++ ":" ++ "(" ++ inner ++ ")" ∧
      Arranged config order ordered ∧
      split ' ' .free inner.toList =
        some (ordered.map fun p => (Fragment.ofPredicate p).toList) := by
  have harranged := arranged config order
  have hperm : (arrange config order).Perm c.predicates.toList := harranged.perm.trans horder
  have hlength : 2 ≤ (arrange config order).length := by rw [hperm.length_eq]; exact hsize
  refine ⟨" ".intercalate ((arrange config order).map Fragment.ofPredicate), _, ?_, harranged,
    split_fragments (by rintro h; simp [h] at hlength) fun p hp => hraw p (hperm.mem_iff.mp hp)⟩
  rw [clauseOf, fragments_eq, body_of_two_le (by simpa using hlength)]
  simp only [String.append_assoc]

/-- A group of a phrase between asterisks, an empty value and a range, whose values hold a
parenthesis, a quote and a bracket. -/
theorem clause_group_split_phrases :
    ∃ (inner : String) (ordered : List Predicate),
      clauseOf {} "tag" true
          [.compare .contains (.text "a) \"b"), .compare .equals (.text ""),
            .between (.atLeast (.text "x ]"))] =
        "-" ++ "tag" ++ ":" ++ "(" ++ inner ++ ")" ∧
      Arranged {} [.compare .contains (.text "a) \"b"), .compare .equals (.text ""),
        .between (.atLeast (.text "x ]"))] ordered ∧
      split ' ' .free inner.toList =
        some (ordered.map fun p => (Fragment.ofPredicate p).toList) :=
  clause_group_split {}
    (.ofParts "tag" true [.compare .contains (.text "a) \"b"), .compare .equals (.text ""),
      .between (.atLeast (.text "x ]"))])
    (List.Perm.refl _) (by decide) (by decide)

end SolrClause.Compiler
