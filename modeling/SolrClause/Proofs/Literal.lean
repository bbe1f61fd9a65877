import SolrClause.Fragment
import SolrClause.Proofs.Literal.Table
import SolrClause.Proofs.Query.Split

/-! Literal tokens in query text. A reader passes an escaped value without a change of place, and a
sanitized value as one token: it meets no free space and no free asterisk. Dropping the backslashes,
and the quotes if there are any, gives the value back. -/

namespace SolrClause.Literal

open Query

/-- Drops each backslash and keeps the character after it. -/
def unescape : List Char → List Char
  | [] => []
  | ['\\'] => []
  | '\\' :: c :: rest => c :: unescape rest
  | c :: rest => c :: unescape rest

/-- The text of a literal token: without the quotes around it, if there are any, and unescaped. -/
def read : List Char → List Char
  | '\"' :: rest => unescape rest.dropLast
  | text => unescape text

/-- The characters of a text as one literal token. -/
def sanitizeChars (text : List Char) : List Char :=
  if needsQuoting (String.ofList (escapeChars text)) then '\"' :: escapeChars text ++ ['\"']
  else escapeChars text

theorem toList_sanitize (text : String) : (sanitize text).toList = sanitizeChars text.toList := by
  rw [sanitize, quote, sanitizeChars, ← escape]
  split <;> simp

theorem unescape_backslash (c : Char) (rest : List Char) :
    unescape ('\\' :: c :: rest) = c :: unescape rest := by
  rw [unescape]

theorem unescape_cons {c : Char} (h : c ≠ '\\') (rest : List Char) :
    unescape (c :: rest) = c :: unescape rest := by
  rw [unescape]
  · exact fun hc => absurd hc h
  · exact fun _ _ hc => absurd hc h

theorem ne_of_reserved {c d : Char} (hc : isReserved c) (hd : isReserved d = false) : c ≠ d := by
  rintro rfl
  simp [hd] at hc

theorem ne_backslash_of_not_reserved {c : Char} (h : isReserved c = false) : c ≠ '\\' :=
  (ne_of_reserved rfl h).symm

theorem unescape_escapeChars (text : List Char) : unescape (escapeChars text) = text := by
  induction text using scan_induction with
  | nil => rfl
  | pair c rest hc ih => rw [escapeChars_pair hc, unescape_backslash, unescape_backslash, ih]
  | reserved c rest hc ih => rw [escapeChars_reserved hc, unescape_backslash, ih]
  | plain c rest hc hpair ih =>
    rw [escapeChars_plain hc hpair, unescape_cons (ne_backslash_of_not_reserved hc), ih]

/-- Escaping only inserts characters. -/
theorem sublist_escapeChars (text : List Char) : text.Sublist (escapeChars text) := by
  induction text using scan_induction with
  | nil => exact List.Sublist.slnil
  | pair c rest hc ih =>
    rw [escapeChars_pair hc]
    exact ((ih.cons_cons c).cons '\\' |>.cons_cons c).cons '\\'
  | reserved c rest hc ih =>
    rw [escapeChars_reserved hc]
    exact (ih.cons_cons c).cons '\\'
  | plain c rest hc hpair ih =>
    rw [escapeChars_plain hc hpair]
    exact ih.cons_cons c

/-- An escaped text starts with no reserved character but a backslash. -/
theorem head_escapeChars {c : Char} {text rest : List Char} (h : escapeChars text = c :: rest) :
    c = '\\' ∨ isReserved c = false := by
  fun_cases escapeChars text <;> grind [escapeChars]

/-! ### Passing literal tokens -/

variable {separator : Char} {p : Place} {text : List Char}

/-- Every mark is reserved. -/
theorem not_mark_of_not_reserved {c : Char} (h : isReserved c = false) : c ∉ Place.marks := by
  intro hm
  simp only [Place.marks, List.mem_cons, List.not_mem_nil, or_false] at hm
  rcases hm with rfl | rfl | rfl | rfl | rfl | rfl | rfl | rfl <;> exact absurd h (by decide)

theorem pass_backslash (hp : p.escaped = false) (hs : separator ≠ '\\') (c : Char)
    (rest : List Char) : pass separator p ('\\' :: c :: rest) = pass separator p rest := by
  have hback : ({ p with escaped := false } : Place) = p := by rw [← hp]
  rw [pass_cons (fun _ h => hs h.symm) (Place.step_backslash hp),
    pass_cons (fun h => absurd h (Place.ne_free_of_escaped rfl)) (Place.step_escaped p c), hback]

/-- Escaped text leaves a reader where it stands. A separator that is reserved stands escaped in it,
and another one must not be in the text unless the reader is in quotes or in a range. -/
theorem pass_escapeChars (hp : p.escaped = false) (hs : separator ≠ '\\')
    (htext : p = .free → isReserved separator = false → separator ∉ text) :
    pass separator p (escapeChars text) = some p := by
  induction text using scan_induction with
  | nil => rfl
  | pair c rest hc ih =>
    rw [escapeChars_pair hc, pass_backslash hp hs, pass_backslash hp hs]
    exact ih fun hf hr hm => htext hf hr (by simp [hm])
  | reserved c rest hc ih =>
    rw [escapeChars_reserved hc, pass_backslash hp hs]
    exact ih fun hf hr hm => htext hf hr (by simp [hm])
  | plain c rest hc hpair ih =>
    have hne : p = .free → c ≠ separator := by
      rintro hf rfl
      exact htext hf hc (by simp)
    have hmark : c ∉ Place.marks := not_mark_of_not_reserved hc
    rw [escapeChars_plain hc hpair, pass_cons hne (Place.step_of_not_mark hp hmark)]
    exact ih fun hf hr hm => htext hf hr (by simp [hm])

/-- Quoted text leaves a reader where it stands. -/
theorem pass_quoted (hp : p.escaped = false) (hq : p.quoted = false) (hs : separator ≠ '\\')
    (hs' : separator ≠ '\"') :
    pass separator p ('\"' :: escapeChars text ++ ['\"']) = some p := by
  have hinside : ({ p with quoted := true } : Place) ≠ .free := Place.ne_free_of_quoted rfl
  have hback : ({ p with quoted := false } : Place) = p := by rw [← hq]
  rw [List.cons_append, pass_cons (fun _ h => hs' h.symm) (Place.step_quote hp), hq, Bool.not_false,
    pass_append, pass_escapeChars (p := { p with quoted := true }) hp hs
      (fun h => absurd h hinside), Option.bind_some, pass_cons (fun h => absurd h hinside)
      (Place.step_quote (p := { p with quoted := true }) hp), Bool.not_true, pass_nil, hback]

/-- A text whose escaped form needs no quotes holds no space. -/
theorem space_not_mem (h : needsQuoting (String.ofList (escapeChars text)) = false) :
    ' ' ∉ text := by
  intro hm
  have hm := (sublist_escapeChars text).subset hm
  simp [needsQuoting, hm] at h

/-- A literal token leaves a reader outside quotes where it stands, with no free separator met. -/
theorem pass_sanitizeChars (hp : p.escaped = false) (hq : p.quoted = false)
    (hs : separator = ' ' ∨ separator = '*') :
    pass separator p (sanitizeChars text) = some p := by
  have hback : separator ≠ '\\' := by rcases hs with rfl | rfl <;> decide
  have hquote : separator ≠ '\"' := by rcases hs with rfl | rfl <;> decide
  rw [sanitizeChars]
  split
  · exact pass_quoted hp hq hback hquote
  · rename_i hneeds
    refine pass_escapeChars hp hback fun _ hr => ?_
    rcases hs with rfl | rfl
    · exact space_not_mem (by simpa using hneeds)
    · exact absurd hr (by decide)

/-! ### Reading literal tokens -/

/-- A literal token starts with a quote, a backslash or a character that is not reserved. -/
theorem head_sanitizeChars {c : Char} {rest : List Char} (h : sanitizeChars text = c :: rest) :
    c = '\"' ∨ c = '\\' ∨ isReserved c = false := by
  rw [sanitizeChars] at h
  split at h
  · exact .inl (List.cons_eq_cons.mp h).1.symm
  · exact .inr (head_escapeChars h)

/-- The value of a literal token is the text that it was made from. -/
theorem read_sanitizeChars (text : List Char) : read (sanitizeChars text) = text := by
  rw [sanitizeChars]
  split
  · rw [List.cons_append, read, List.dropLast_concat, unescape_escapeChars]
  · rw [read, unescape_escapeChars]
    intro rest h
    exact absurd (head_escapeChars h) (by decide)

/-- Only the empty text has an empty literal token. -/
theorem sanitizeChars_eq_nil (h : sanitizeChars text = []) : text = [] := by
  rw [← read_sanitizeChars text, h]
  rfl

end SolrClause.Literal
