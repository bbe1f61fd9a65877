import SolrClause.Proofs.Clause.Canonical
import SolrClause.Proofs.Clause.Group

/-! Adding a predicate to a criteria. The canonical clause takes the fragment of a new predicate in
at its place in the order and keeps the others as they stand, and a predicate that is there already
changes nothing. How fragments are put together depends only on how many there are. -/

namespace SolrClause

/-- An operation is ranked by its place in the declaration. -/
theorem Operation.idxOf_all (operation : Operation) : all.idxOf operation = operation.rank := by
  rcases operation with comparison | _
  · cases comparison <;> rfl
  · rfl

/-- The operation of the one is declared before that of the other, or they have one operation and
the UTF-8 bytes of the one's fragment come first. Predicates with the same fragment precede each
other. -/
def Predicate.Precedes (p q : Predicate) : Prop :=
  Operation.all.idxOf p.operation < Operation.all.idxOf q.operation ∨
    p.operation = q.operation ∧
      Text.bytesLe (Fragment.ofPredicate p) (Fragment.ofPredicate q)

namespace Compiler

theorem Entry.le_ofPredicate {p q : Predicate} :
    (Entry.ofPredicate p).le (.ofPredicate q) ↔ p.Precedes q := by
  have hrank : p.operation.rank = q.operation.rank ↔ p.operation = q.operation :=
    ⟨Operation.rank_injective, congrArg Operation.rank⟩
  rw [Entry.le_iff, Predicate.Precedes, Operation.idxOf_all, Operation.idxOf_all]
  simp only [Entry.ofPredicate, hrank]

/-! ### Wrapping -/

/-- What the fragments of a clause are put into. -/
inductive Wrapping where
  | matchAny
  | bare
  | group
  deriving DecidableEq

namespace Wrapping

/-- Without predicates any value matches, one fragment stands bare, and more form a group. -/
def ofSize : Nat → Wrapping
  | 0 => .matchAny
  | 1 => .bare
  | _ => .group

def wrap : Wrapping → List String → String
  | .matchAny, _ => "[* TO *]"
  | .bare, parts => " ".intercalate parts
  | .group, parts => "(" ++ " ".intercalate parts ++ ")"

end Wrapping

theorem body_eq_wrap (parts : List String) :
    body parts = (Wrapping.ofSize parts.length).wrap parts := by
  match parts with
  | [] => rfl
  | [part] => rfl
  | _ :: _ :: _ => exact body_of_two_le (by simp)

theorem clauseOf_eq_wrap (config : Config) (field : String) (negating : Bool)
    (predicates : List Predicate) :
    clauseOf config field negating predicates = (if negating then "-" else "") ++ field ++ ":" ++
      (Wrapping.ofSize predicates.length).wrap (fragments config predicates) := by
  have hlength : (fragments config predicates).length = predicates.length := by
    rw [fragments_eq, List.length_map, (arrange_perm config predicates).length_eq]
  rw [clauseOf, body_eq_wrap, hlength]

/-! ### Insertion -/

section Insertion

variable {config : Config} {c : Criteria} {p : Predicate} {order order' : List Predicate}

/-- One more predicate goes in between the others. -/
theorem exists_arrange_cons (h : config.canonicalOrder = true) (p : Predicate)
    (predicates : List Predicate) :
    ∃ before after, arrange config predicates = before ++ after ∧
      arrange config (p :: predicates) = before ++ p :: after := by
  have htotal (a b : Predicate) : ((Entry.ofPredicate a).le (.ofPredicate b) ||
      (Entry.ofPredicate b).le (.ofPredicate a)) = true := by
    simpa using Entry.le_total (.ofPredicate a) (.ofPredicate b)
  obtain ⟨before, after, hcons, hrest, -⟩ := @List.mergeSort_cons _
    (fun a b => (Entry.ofPredicate a).le (.ofPredicate b)) (fun _ _ _ => Entry.le_trans) htotal p
    predicates
  rw [arrange, arrange, if_pos h, if_pos h]
  exact ⟨before, after, hrest, hcons⟩

theorem arrange_precedes (h : config.canonicalOrder = true) (predicates : List Predicate) :
    (arrange config predicates).Pairwise Predicate.Precedes :=
  (arrange_pairwise h predicates).imp Entry.le_ofPredicate.mp

theorem perm_cons_of_withPredicate (hp : p ∉ c.predicates)
    (horder : order.Perm c.predicates.toList)
    (horder' : order'.Perm (c.withPredicate p).predicates.toList) : order'.Perm (p :: order) := by
  rw [Criteria.withPredicate, PredicateSet.toList_insert_of_not_mem hp] at horder'
  exact horder'.trans ((List.perm_append_singleton p _).trans (horder.symm.cons p))

theorem withPredicate_same (hp : p ∈ c.predicates) : (c.withPredicate p).Same c :=
  ⟨rfl, rfl, by
    rw [PredicateSet.SameMembers, Criteria.withPredicate, PredicateSet.toList_insert_of_mem hp]⟩

theorem size_withPredicate (hp : p ∉ c.predicates) :
    (c.withPredicate p).predicates.size = c.predicates.size + 1 := by
  rw [PredicateSet.size, Criteria.withPredicate, PredicateSet.toList_insert_of_not_mem hp,
    List.length_append, List.length_singleton, PredicateSet.size]

/-- The canonical clause holds the fragments of the default clause, by the declaration order of the
operations and then by bytes. With a predicate that is new it holds the same fragments in the same
order and the new one at its place among them, wrapped as their number asks for; with a predicate
that is there already it stays as it is. -/
theorem canonical_clause_insert {free : Config} (hconfig : config.canonicalOrder = true)
    (hfree : free.canonicalOrder = false) (horder : order.Perm c.predicates.toList)
    (horder' : order'.Perm (c.withPredicate p).predicates.toList) :
    (fragments config order).Perm (fragments free order) ∧
    (∃ sorted : List Predicate, sorted.Perm order ∧ sorted.Pairwise Predicate.Precedes ∧
      fragments config order = sorted.map Fragment.ofPredicate ∧
      fragments free order = order.map Fragment.ofPredicate) ∧
    (p ∉ c.predicates → ∃ before after : List Predicate,
      fragments config order = (before ++ after).map Fragment.ofPredicate ∧
      fragments config order' = (before ++ p :: after).map Fragment.ofPredicate ∧
      (before ++ p :: after).Perm order' ∧
      (before ++ p :: after).Pairwise Predicate.Precedes ∧
      (c.withPredicate p).predicates.size = c.predicates.size + 1 ∧
      clauseOf config c.field c.negating order =
        (if c.negating then "-" else "") ++ c.field ++ ":" ++
          (Wrapping.ofSize c.predicates.size).wrap (fragments config order) ∧
      clauseOf config (c.withPredicate p).field (c.withPredicate p).negating order' =
        (if c.negating then "-" else "") ++ c.field ++ ":" ++
          (Wrapping.ofSize (c.withPredicate p).predicates.size).wrap (fragments config order')) ∧
    (p ∈ c.predicates →
      clauseOf config (c.withPredicate p).field (c.withPredicate p).negating order' =
        clauseOf config c.field c.negating order) := by
  have hsorted := fragments_eq config order
  have hkept : fragments free order = order.map Fragment.ofPredicate := by
    rw [fragments_eq, arrange_free hfree]
  have hperm := arrange_perm config order
  refine ⟨?_, ⟨_, hperm, arrange_precedes hconfig order, hsorted, hkept⟩, fun hp => ?_,
    fun hp => clauseOf_eq_of_same (withPredicate_same hp) hconfig horder' horder⟩
  · rw [hsorted, hkept]
    exact hperm.map Fragment.ofPredicate
  · have hcons := perm_cons_of_withPredicate hp horder horder'
    obtain ⟨before, after, hrest, hinserted⟩ := exists_arrange_cons hconfig p order
    refine ⟨before, after, ?_, ?_, ?_, ?_, size_withPredicate hp, ?_, ?_⟩
    · rw [hsorted, hrest]
    · rw [fragments_eq_of_perm hconfig hcons, fragments_eq, hinserted]
    · rw [← hinserted]
      exact (arrange_perm config _).trans hcons.symm
    · rw [← hinserted]
      exact arrange_precedes hconfig _
    · rw [clauseOf_eq_wrap, horder.length_eq]
      rfl
    · rw [clauseOf_eq_wrap, horder'.length_eq]
      rfl

/-- An integer joins a text with the same fragment: the bare fragment becomes a group of two. -/
theorem canonical_clause_insert_tie :
    let config : Config := { canonicalOrder := true }
    let c : Criteria := .ofParts "n" true [.compare .equals (.text "1")]
    let p : Predicate := .compare .equals (.integer 1)
    (∃ before after : List Predicate,
      fragments config c.predicates.toList = (before ++ after).map Fragment.ofPredicate ∧
      fragments config [p, .compare .equals (.text "1")] =
        (before ++ p :: after).map Fragment.ofPredicate) ∧
    clauseOf config "n" true c.predicates.toList =
      "-" ++ "n" ++ ":" ++ " ".intercalate (fragments config c.predicates.toList) ∧
    clauseOf config "n" true [p, .compare .equals (.text "1")] =
      "-" ++ "n" ++ ":" ++
        ("(" ++ " ".intercalate (fragments config [p, .compare .equals (.text "1")]) ++ ")") := by
  intro config c p
  have horder' : List.Perm [p, .compare .equals (.text "1")]
      (c.withPredicate p).predicates.toList := by decide
  obtain ⟨-, -, hnew, -⟩ := canonical_clause_insert (c := c) (p := p)
    (show config.canonicalOrder = true from rfl)
    (show ({} : Config).canonicalOrder = false from rfl) (List.Perm.refl _) horder'
  obtain ⟨before, after, hrest, hinserted, -, -, -, hbare, hgroup⟩ := hnew (by decide)
  exact ⟨⟨before, after, hrest, hinserted⟩, hbare, hgroup⟩

end Insertion

end Compiler

end SolrClause
