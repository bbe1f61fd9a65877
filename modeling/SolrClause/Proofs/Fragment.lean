import SolrClause.Proofs.Literal

/-! Fragments in query text. A reader passes the fragment of every predicate but a raw expression as
one word, whatever its scalars are; and the fragment of a predicate over texts says which predicate
it is. -/

namespace SolrClause.Fragment

open Query

variable {p : Place} {separator : Char}

theorem toList_literal (value : Scalar) :
    (literal value).toList = Literal.sanitizeChars value.display.toList :=
  Literal.toList_sanitize value.display

theorem toList_contains (value : Scalar) :
    (ofComparison value .contains).toList = '*' :: ((literal value).toList ++ ['*']) := by
  simp [ofComparison, wildcard]

theorem toList_startsWith (value : Scalar) :
    (ofComparison value .startsWith).toList = (literal value).toList ++ ['*'] := by
  simp [ofComparison, wildcard]

theorem toList_endsWith (value : Scalar) :
    (ofComparison value .endsWith).toList = '*' :: (literal value).toList := by
  simp [ofComparison, wildcard]

theorem pass_literal (hp : p.escaped = false) (hq : p.quoted = false)
    (hs : separator = ' ' ∨ separator = '*') (value : Scalar) :
    pass separator p (literal value).toList = some p := by
  rw [toList_literal]
  exact Literal.pass_sanitizeChars hp hq hs

theorem pass_wildcard (hp : p.escaped = false) (rest : List Char) :
    pass ' ' p ('*' :: rest) = pass ' ' p rest :=
  pass_cons (fun _ => by decide) (Place.step_of_not_mark hp (by decide))

theorem pass_ofBound (hp : p.escaped = false) (hq : p.quoted = false) (bound : Option Scalar) :
    pass ' ' p (ofBound bound).toList = some p := by
  cases bound with
  | none => exact pass_wildcard hp []
  | some value => exact pass_literal hp hq (.inl rfl) value

/-- The characters of a range between its brackets. -/
def innerChars (range : Range) : List Char :=
  (ofBound range.lower).toList ++ ' ' :: 'T' :: 'O' :: ' ' :: (ofBound range.upper).toList

theorem toList_ofRange (range : Range) :
    (ofRange range).toList = (if range.includeLower then '[' else '{') :: innerChars range ++
      [if range.includeUpper then ']' else '}'] := by
  rw [ofRange]
  split <;> split <;> simp [rangeSeparator, innerChars]

/-- Between the brackets of a range no space is free. -/
theorem pass_innerChars (hp : p.escaped = false) (hq : p.quoted = false) (hr : p ≠ .free)
    (range : Range) : pass ' ' p (innerChars range) = some p := by
  have plain (c : Char) (rest : List Char) (hc : c ∉ Place.marks) :
      pass ' ' p (c :: rest) = pass ' ' p rest :=
    pass_cons (fun h => absurd h hr) (Place.step_of_not_mark hp hc)
  rw [innerChars, pass_append, pass_ofBound hp hq, Option.bind_some, plain ' ' _ (by decide),
    plain 'T' _ (by decide), plain 'O' _ (by decide), plain ' ' _ (by decide),
    pass_ofBound hp hq]

theorem pass_ofRange (range : Range) : pass ' ' .free (ofRange range).toList = some .free := by
  have hinside : (⟨false, false, true⟩ : Place) ≠ .free := by decide
  have hopen : Place.free.step (if range.includeLower then '[' else '{') =
      some ⟨false, false, true⟩ := by
    split <;> rfl
  have hclose : Place.step ⟨false, false, true⟩ (if range.includeUpper then ']' else '}') =
      some .free := by
    split <;> rfl
  rw [toList_ofRange, List.cons_append, pass_cons (fun _ => by split <;> decide) hopen,
    pass_append, pass_innerChars rfl rfl hinside, Option.bind_some,
    pass_cons (fun h => absurd h hinside) hclose, pass_nil]

theorem pass_ofComparison {comparison : Comparison} (h : comparison ≠ .expression)
    (value : Scalar) : pass ' ' .free (ofComparison value comparison).toList = some .free := by
  have hvalue : pass ' ' .free (literal value).toList = some .free :=
    pass_literal rfl rfl (.inl rfl) value
  cases comparison with
  | equals => exact hvalue
  | contains =>
    rw [toList_contains, pass_wildcard rfl, pass_append, hvalue]
    exact pass_wildcard rfl []
  | startsWith =>
    rw [toList_startsWith, pass_append, hvalue]
    exact pass_wildcard rfl []
  | endsWith => rw [toList_endsWith, pass_wildcard rfl, hvalue]
  | expression => exact absurd rfl h

/-- A reader passes every fragment but a raw expression as one word: it meets no free space, and
after the fragment it is outside quotes and ranges. -/
theorem pass_ofPredicate {p : Predicate} (h : p.operation ≠ .compare .expression) :
    pass ' ' .free (ofPredicate p).toList = some .free := by
  cases p with
  | compare comparison value =>
    exact pass_ofComparison (fun hc => h (by rw [hc]; rfl)) value
  | between range => exact pass_ofRange range

end SolrClause.Fragment
