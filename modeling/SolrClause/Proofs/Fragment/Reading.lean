import SolrClause.Proofs.Fragment

/-! Reading fragments: the predicate over texts that a fragment comes from. Free asterisks tell the
comparisons apart, brackets mark a range, and free spaces separate its bounds. -/

namespace SolrClause

/-- A predicate over texts that its fragment identifies: it is no raw expression, and no prefix or
suffix that is empty, since both of these are written as a single asterisk. -/
structure Predicate.Readable (p : Predicate) : Prop where
  not_raw : p.operation ≠ .compare .expression
  texts : ∀ value ∈ p.scalars, value.asText?.isSome
  not_empty_prefix : p ≠ .compare .startsWith (.text "")
  not_empty_suffix : p ≠ .compare .endsWith (.text "")

instance (p : Predicate) : Decidable p.Readable :=
  decidable_of_iff
    (p.operation ≠ .compare .expression ∧ (∀ value ∈ p.scalars, value.asText?.isSome) ∧
      p ≠ .compare .startsWith (.text "") ∧ p ≠ .compare .endsWith (.text ""))
    ⟨fun ⟨h₁, h₂, h₃, h₄⟩ => ⟨h₁, h₂, h₃, h₄⟩, fun ⟨h₁, h₂, h₃, h₄⟩ => ⟨h₁, h₂, h₃, h₄⟩⟩

theorem Scalar.eq_text_of_asText? {value : Scalar} (h : value.asText?.isSome) :
    ∃ text, value = .text text := by
  cases value with
  | text text => exact ⟨text, rfl⟩
  | boolean | integer | float | timestamp => cases h

namespace Fragment

open Query

def readText (token : List Char) : Scalar := .text (String.ofList (Literal.read token))

def readBound (token : List Char) : Option Scalar :=
  if token = ['*'] then none else some (readText token)

/-- The range whose opening bracket has been read. -/
def readRange (includeLower : Bool) (text : List Char) : Option Range :=
  match split ' ' .free text.dropLast, text.getLast? with
  | some [lower, ['T', 'O'], upper], some ']' =>
    some ⟨readBound lower, readBound upper, includeLower, true⟩
  | some [lower, ['T', 'O'], upper], some '}' =>
    some ⟨readBound lower, readBound upper, includeLower, false⟩
  | _, _ => none

/-- The comparison that is written with parts between free asterisks. -/
def readComparison : List (List Char) → Option Predicate
  | [token] => some (.compare .equals (readText token))
  | [[], token] => some (.compare .endsWith (readText token))
  | [token, []] => some (.compare .startsWith (readText token))
  | [[], token, []] => some (.compare .contains (readText token))
  | _ => none

def read : List Char → Option Predicate
  | '[' :: rest => (readRange true rest).map .between
  | '{' :: rest => (readRange false rest).map .between
  | text => (split '*' .free text).bind readComparison

theorem readText_literal (text : String) :
    readText (literal (.text text)).toList = .text text := by
  rw [readText, toList_literal, Literal.read_sanitizeChars]
  exact congrArg Scalar.text String.ofList_toList

theorem literal_ne_wildcard (value : Scalar) : (literal value).toList ≠ ['*'] := by
  intro h
  rw [toList_literal] at h
  exact absurd (Literal.head_sanitizeChars h) (by decide)

theorem readBound_ofBound {bound : Option Scalar}
    (h : ∀ value ∈ bound, value.asText?.isSome) :
    readBound (ofBound bound).toList = bound := by
  cases bound with
  | none => rfl
  | some value =>
    obtain ⟨text, rfl⟩ := Scalar.eq_text_of_asText? (h value rfl)
    rw [ofBound, readBound, if_neg (literal_ne_wildcard _), readText_literal]

/-- The free spaces of a range separate its bounds from the word between them. -/
theorem split_innerChars (range : Range) :
    split ' ' .free (innerChars range) =
      some [(ofBound range.lower).toList, ['T', 'O'], (ofBound range.upper).toList] := by
  have hpass : pass ' ' .free ['T', 'O'] = some .free := rfl
  have hword : split ' ' .free ('T' :: 'O' :: ' ' :: (ofBound range.upper).toList) =
      (split ' ' .free (ofBound range.upper).toList).map (['T', 'O'] :: ·) :=
    split_append hpass
  rw [innerChars, split_append (pass_ofBound rfl rfl range.lower), hword,
    split_whole (pass_ofBound rfl rfl range.upper)]
  rfl

theorem readRange_innerChars {range : Range}
    (h : ∀ value ∈ (Predicate.between range).scalars, value.asText?.isSome) :
    readRange range.includeLower
      (innerChars range ++ [if range.includeUpper then ']' else '}']) = some range := by
  obtain ⟨lower, upper, includeLower, includeUpper⟩ := range
  have hlower : readBound (ofBound lower).toList = lower :=
    readBound_ofBound fun value hv => h value (Predicate.mem_scalars_between.mpr (.inl hv))
  have hupper : readBound (ofBound upper).toList = upper :=
    readBound_ofBound fun value hv => h value (Predicate.mem_scalars_between.mpr (.inr hv))
  rw [readRange, List.dropLast_concat, List.getLast?_concat, split_innerChars]
  cases includeUpper <;> simp [hlower, hupper]

theorem read_ofRange {range : Range}
    (h : ∀ value ∈ (Predicate.between range).scalars, value.asText?.isSome) :
    read (ofRange range).toList = some (.between range) := by
  have hrange := readRange_innerChars h
  rw [toList_ofRange]
  cases hlower : range.includeLower <;> rw [hlower] at hrange <;>
    simp only [Bool.false_eq_true, if_true, if_false, List.cons_append, read, hrange,
      Option.map_some]

/-- The first character of a literal token opens no range, also with an asterisk after it. -/
theorem read_of_split {token tail : List Char} {value : Scalar} {parts : List (List Char)}
    (htoken : token = (literal value).toList ++ tail) (htail : tail = [] ∨ tail = ['*'])
    (hsplit : split '*' .free token = some parts) : read token = readComparison parts := by
  have hhead {c : Char} {rest : List Char} (h : token = c :: rest) :
      c = '*' ∨ c = '\"' ∨ c = '\\' ∨ Literal.isReserved c = false := by
    rw [h, toList_literal] at htoken
    cases hchars : Literal.sanitizeChars value.display.toList with
    | nil =>
      rw [hchars] at htoken
      rcases htail with rfl | rfl
      · cases htoken
      · exact .inl (List.cons_eq_cons.mp htoken).1
    | cons d chars =>
      rw [hchars] at htoken
      rw [(List.cons_eq_cons.mp htoken).1]
      exact .inr (Literal.head_sanitizeChars hchars)
  rw [read, hsplit, Option.bind_some]
  · exact fun rest h => absurd (hhead h) (by decide)
  · exact fun rest h => absurd (hhead h) (by decide)

theorem split_literal (value : Scalar) :
    split '*' .free (literal value).toList = some [(literal value).toList] :=
  split_whole (pass_literal rfl rfl (.inr rfl) value)

theorem split_literal_append (value : Scalar) :
    split '*' .free ((literal value).toList ++ ['*']) = some [(literal value).toList, []] := by
  rw [split_append (pass_literal rfl rfl (.inr rfl) value)]
  rfl

/-- A fragment that starts with an asterisk. -/
theorem read_wildcard {rest : List Char} {parts : List (List Char)}
    (h : split '*' .free rest = some parts) :
    read ('*' :: rest) = readComparison ([] :: parts) := by
  have hsplit : split '*' .free ('*' :: rest) = (split '*' .free rest).map ([] :: ·) := rfl
  rw [read, hsplit, h, Option.map_some, Option.bind_some]
  · exact fun _ hc => absurd (List.cons_eq_cons.mp hc).1 (by decide)
  · exact fun _ hc => absurd (List.cons_eq_cons.mp hc).1 (by decide)

theorem readComparison_startsWith {token : List Char} (h : token ≠ []) :
    readComparison [token, []] = some (.compare .startsWith (readText token)) := by
  cases token with
  | nil => exact absurd rfl h
  | cons c token => rfl

theorem literal_ne_nil {text : String} (h : text ≠ "") : (literal (.text text)).toList ≠ [] := by
  intro hnil
  rw [toList_literal] at hnil
  exact h (String.toList_eq_nil_iff.mp (Literal.sanitizeChars_eq_nil hnil))

theorem read_ofComparison {comparison : Comparison} {text : String}
    (h : (Predicate.compare comparison (.text text)).Readable) :
    read (ofComparison (.text text) comparison).toList =
      some (.compare comparison (.text text)) := by
  cases comparison with
  | equals =>
    rw [ofComparison, read_of_split (List.append_nil _).symm (.inl rfl) (split_literal _),
      readComparison, readText_literal]
  | contains =>
    rw [toList_contains, read_wildcard (split_literal_append _), readComparison, readText_literal]
  | startsWith =>
    have hne : text ≠ "" := fun ht => h.not_empty_prefix (by rw [ht])
    rw [toList_startsWith, read_of_split rfl (.inr rfl) (split_literal_append _),
      readComparison_startsWith (literal_ne_nil hne), readText_literal]
  | endsWith =>
    rw [toList_endsWith, read_wildcard (split_literal _), readComparison, readText_literal]
  | expression => exact absurd rfl h.not_raw

theorem read_ofPredicate {p : Predicate} (h : p.Readable) :
    read (ofPredicate p).toList = some p := by
  cases p with
  | compare comparison value =>
    obtain ⟨text, rfl⟩ := Scalar.eq_text_of_asText? (h.texts value (List.mem_singleton.mpr rfl))
    exact read_ofComparison h
  | between range => exact read_ofRange h.texts

end Fragment

end SolrClause
