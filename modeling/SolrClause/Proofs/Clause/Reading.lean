import SolrClause.Proofs.Clause.Group
import SolrClause.Proofs.Fragment.Reading

/-! Reading clauses: the field, the flag and the predicates that a clause comes from. Every clause
of readable criteria is read back, so two criteria with one clause are the same filter. Only a
clause without predicates is also that of a single range, the one with two open inclusive bounds. -/

namespace SolrClause

open Query

/-- Criteria that their clause identifies: the field is marked off by its colon and not taken for a
negation, and each predicate is identified by its fragment. -/
structure Criteria.Readable (c : Criteria) : Prop where
  no_colon : ':' ∉ c.field.toList
  no_dash : c.field.toList.head? ≠ some '-'
  predicates : ∀ p ∈ c.predicates, p.Readable

instance (c : Criteria) : Decidable c.Readable :=
  decidable_of_iff
    (':' ∉ c.field.toList ∧ c.field.toList.head? ≠ some '-' ∧
      ∀ p ∈ c.predicates, p.Readable)
    ⟨fun ⟨h₁, h₂, h₃⟩ => ⟨h₁, h₂, h₃⟩, fun ⟨h₁, h₂, h₃⟩ => ⟨h₁, h₂, h₃⟩⟩

/-- The range that every value is in, written like a clause without predicates. -/
def Predicate.everything : Predicate := .between (.inclusive none none)

namespace Compiler

def readBody : List Char → Option (List Predicate)
  | '(' :: rest => (split ' ' .free rest.dropLast).bind fun parts => parts.mapM Fragment.read
  | text => (Fragment.read text).map ([·])

/-- Whether a text starts with the mark of negation, and what follows the mark. -/
def takeMark : List Char → Bool × List Char
  | '-' :: rest => (true, rest)
  | text => (false, text)

/-- The field, the flag and the predicates of a clause. -/
def readClause (text : List Char) : Option (List Char × Bool × List Predicate) :=
  let (negating, unmarked) := takeMark text
  (readBody (unmarked.dropWhile (· ≠ ':')).tail).map fun predicates =>
    (unmarked.takeWhile (· ≠ ':'), negating, predicates)

/-- The predicates that a clause shows: those that it is made from, if there are any. -/
def shown : List Predicate → List Predicate
  | [] => [.everything]
  | predicates => predicates

theorem mapM_read {predicates : List Predicate} (h : ∀ p ∈ predicates, p.Readable) :
    (predicates.map fun p => (Fragment.ofPredicate p).toList).mapM Fragment.read =
      some predicates := by
  induction predicates with
  | nil => rfl
  | cons p predicates ih =>
    rw [List.map_cons, List.mapM_cons, Fragment.read_ofPredicate (h p (by simp)),
      ih fun q hq => h q (List.mem_cons_of_mem _ hq)]
    rfl

/-- A fragment that is no raw expression opens no group. -/
theorem fragment_ne_group {p : Predicate} (h : p.operation ≠ .compare .expression)
    (rest : List Char) : (Fragment.ofPredicate p).toList ≠ '(' :: rest := by
  intro hp
  have hpass := Fragment.pass_ofPredicate h
  rw [hp] at hpass
  obtain ⟨-, next, hstep, -⟩ := pass_cons_eq_some hpass
  have hnone : Place.free.step '(' = none := rfl
  rw [hnone] at hstep
  cases hstep

theorem readBody_fragment {p : Predicate} (h : p.Readable) :
    readBody (Fragment.ofPredicate p).toList = some [p] := by
  rw [readBody, Fragment.read_ofPredicate h, Option.map_some]
  exact fragment_ne_group h.not_raw

theorem readBody_group (inner : String) :
    readBody ("(" ++ inner ++ ")").toList =
      (split ' ' .free inner.toList).bind fun parts => parts.mapM Fragment.read := by
  have hchars : ("(" ++ inner ++ ")").toList = '(' :: (inner.toList ++ [')']) := by simp
  rw [hchars, readBody, List.dropLast_concat]

theorem readBody_body {predicates : List Predicate} (h : ∀ p ∈ predicates, p.Readable) :
    readBody (body (predicates.map Fragment.ofPredicate)).toList = some (shown predicates) := by
  match predicates, h with
  | [], _ => rfl
  | [p], h => exact readBody_fragment (h p (by simp))
  | p :: q :: rest, h =>
    have hsplit := split_fragments (List.cons_ne_nil p (q :: rest)) fun r hr => (h r hr).not_raw
    rw [body_of_two_le (by simp), readBody_group, hsplit, Option.bind_some, mapM_read h]
    rfl

theorem takeMark_of_head {text : List Char} (h : text.head? ≠ some '-') :
    takeMark text = (false, text) := by
  rw [takeMark]
  rintro rest rfl
  exact h rfl

/-- The mark of negation is told apart from the field. -/
theorem takeMark_append {negating : Bool} {text : List Char} (h : text.head? ≠ some '-') :
    takeMark ((if negating then "-" else "").toList ++ text) = (negating, text) := by
  cases negating with
  | false => exact takeMark_of_head h
  | true => rfl

/-- The clause of readable criteria says what it is made from. -/
theorem readClause_clauseOf {c : Criteria} (hc : c.Readable) (config : Config)
    {order : List Predicate} (horder : order.Perm c.predicates.toList) :
    readClause (clauseOf config c.field c.negating order).toList =
      some (c.field.toList, c.negating, shown (arrange config order)) := by
  have hreadable : ∀ p ∈ arrange config order, p.Readable := fun p hp =>
    hc.predicates p (((arrange_perm config order).trans horder).mem_iff.mp hp)
  have hbody := readBody_body hreadable
  generalize hrest : (body ((arrange config order).map Fragment.ofPredicate)).toList = rest at hbody
  have hchars : (clauseOf config c.field c.negating order).toList =
      (if c.negating then "-" else "").toList ++ (c.field.toList ++ ':' :: rest) := by
    rw [clauseOf, fragments_eq]
    simp only [String.toList_append, List.append_assoc, hrest]
    rfl
  have hhead : (c.field.toList ++ ':' :: rest).head? ≠ some '-' := by
    cases hfield : c.field.toList with
    | nil => simp
    | cons d field => simpa [hfield] using hc.no_dash
  have hfield : ∀ d ∈ c.field.toList, decide (d ≠ ':') = true := by
    intro d hd
    have hne : d ≠ ':' := fun h => hc.no_colon (h ▸ hd)
    simpa using hne
  rw [hchars, readClause, takeMark_append hhead]
  simp only [List.takeWhile_append_of_pos hfield, List.dropWhile_append_of_pos hfield]
  simp [hbody]

/-- Lists of predicates that a clause shows alike are the same, unless one is empty and the other
has just the range that every value is in. -/
theorem eq_of_shown_eq {a b : List Predicate} (h : shown a = shown b) :
    a = b ∨ (a = [] ∧ b = [.everything]) ∨ (a = [.everything] ∧ b = []) := by
  match a, b with
  | [], [] => exact .inl rfl
  | [], p :: rest => exact .inr (.inl ⟨rfl, h.symm⟩)
  | p :: rest, [] => exact .inr (.inr ⟨h, rfl⟩)
  | _ :: _, _ :: _ => exact .inl h

/-- A clause without predicates is also that of the range that every value is in. -/
theorem clauseOf_everything (config config' : Config) (field : String) (negating : Bool) :
    clauseOf config field negating [.everything] = clauseOf config' field negating [] := by
  have hsingle : arrange config [.everything] = [.everything] :=
    List.perm_singleton.mp (arrange_perm config _)
  have hnone : arrange config' [] = [] := List.perm_nil.mp (arrange_perm config' [])
  rw [clauseOf, clauseOf, fragments_eq, fragments_eq, hsingle, hnone]
  rfl

/-- Two readable criteria with the same clause, each with its predicates in some order, have the
same field, flag and predicates, unless one has no predicates and the other has just the range that
every value is in. -/
theorem clauseOf_injective {c d : Criteria} (hc : c.Readable) (hd : d.Readable)
    (config config' : Config) {order order' : List Predicate}
    (horder : order.Perm c.predicates.toList) (horder' : order'.Perm d.predicates.toList)
    (h : clauseOf config c.field c.negating order = clauseOf config' d.field d.negating order') :
    c.field = d.field ∧ c.negating = d.negating ∧
      (c.predicates.SameMembers d.predicates ∨
        (c.predicates.toList = [] ∧ d.predicates.toList = [.everything]) ∨
        (c.predicates.toList = [.everything] ∧ d.predicates.toList = [])) := by
  have hread := readClause_clauseOf hc config horder
  rw [h, readClause_clauseOf hd config' horder'] at hread
  simp only [Option.some.injEq, Prod.mk.injEq] at hread
  obtain ⟨hfield, hnegating, hshown⟩ := hread
  have hcperm := ((arrange_perm config order).trans horder).symm
  have hdperm := ((arrange_perm config' order').trans horder').symm
  refine ⟨String.toList_inj.mp hfield.symm, hnegating.symm, ?_⟩
  rcases eq_of_shown_eq hshown with heq | ⟨hdnil, hcany⟩ | ⟨hdany, hcnil⟩
  · exact .inl (hcperm.trans (heq ▸ hdperm.symm))
  · rw [hdnil] at hdperm
    rw [hcany] at hcperm
    exact .inr (.inr ⟨List.perm_singleton.mp hcperm, List.perm_nil.mp hdperm⟩)
  · rw [hdany] at hdperm
    rw [hcnil] at hcperm
    exact .inr (.inl ⟨List.perm_nil.mp hcperm, List.perm_singleton.mp hdperm⟩)

/-- A clause whose values look like a range and an operator, made from its predicates in two
orders. -/
theorem clauseOf_injective_swapped :
    Criteria.Same
      (.ofParts "tag" true [.compare .contains (.text "[* TO \"*"), .compare .equals (.text "OR")])
      (.ofParts "tag" true
        [.compare .equals (.text "OR"), .compare .contains (.text "[* TO \"*")]) := by
  have hperm : List.Perm
      [.compare .contains (.text "[* TO \"*"), .compare .equals (.text "OR")]
      [.compare .equals (.text "OR"), Predicate.compare .contains (.text "[* TO \"*")] := by
    decide
  obtain ⟨hfield, hnegating, hsame | ⟨h, -⟩ | ⟨h, -⟩⟩ := clauseOf_injective
    (c := .ofParts "tag" true
      [.compare .contains (.text "[* TO \"*"), .compare .equals (.text "OR")])
    (d := .ofParts "tag" true
      [.compare .equals (.text "OR"), .compare .contains (.text "[* TO \"*")])
    (by decide) (by decide) { canonicalOrder := true } { canonicalOrder := true }
    (List.Perm.refl _) (List.Perm.refl _)
    (congrArg (fun parts => "-" ++ "tag" ++ ":" ++ body parts) (fragments_eq_of_perm rfl hperm))
  · exact ⟨hfield, hnegating, hsame⟩
  · exact absurd h (by decide)
  · exact absurd h (by decide)

end Compiler

end SolrClause
