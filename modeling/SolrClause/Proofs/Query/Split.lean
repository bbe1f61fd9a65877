/-! Query text as a reader of it sees it: from each character to the next a place that says whether
the text is in quotes, in a range or right after a backslash, and the parts of a text between the
free occurrences of a separator. -/

namespace SolrClause.Query

structure Place where
  /-- The character before is a backslash that takes the next one literally. -/
  escaped : Bool
  quoted : Bool
  inRange : Bool
  deriving DecidableEq, Repr

namespace Place

/-- Outside quotes and ranges, and after no backslash. -/
def free : Place := ⟨false, false, false⟩

/-- The place after one more character. There is none after a parenthesis outside quotes, nor after
a bracket outside quotes that opens a range inside another or closes none. -/
def step (p : Place) (c : Char) : Option Place :=
  if p.escaped then some { p with escaped := false }
  else if c = '\\' then some { p with escaped := true }
  else if c = '\"' then some { p with quoted := !p.quoted }
  else if p.quoted then some p
  else if c = '(' ∨ c = ')' then none
  else if c = '[' ∨ c = '{' then if p.inRange then none else some { p with inRange := true }
  else if c = ']' ∨ c = '}' then if p.inRange then some { p with inRange := false } else none
  else some p

theorem step_backslash {p : Place} (h : p.escaped = false) :
    p.step '\\' = some { p with escaped := true } := by
  simp [step, h]

theorem step_escaped (p : Place) (c : Char) :
    ({ p with escaped := true } : Place).step c = some { p with escaped := false } := by
  simp [step]

theorem step_quote {p : Place} (h : p.escaped = false) :
    p.step '\"' = some { p with quoted := !p.quoted } := by
  simp [step, h]

/-- The characters that can change a place. -/
def marks : List Char := ['\\', '\"', '(', ')', '[', ']', '{', '}']

theorem step_of_not_mark {p : Place} {c : Char} (h : p.escaped = false) (hc : c ∉ marks) :
    p.step c = some p := by
  simp [marks] at hc
  simp [step, h, hc]

theorem ne_free_of_escaped {p : Place} (h : p.escaped = true) : p ≠ .free := by
  rintro rfl
  exact absurd h (by decide)

theorem ne_free_of_quoted {p : Place} (h : p.quoted = true) : p ≠ .free := by
  rintro rfl
  exact absurd h (by decide)

end Place

/-- A list of parts with characters put before the first of them. -/
def extend (front : List Char) : List (List Char) → List (List Char)
  | [] => [front]
  | part :: parts => (front ++ part) :: parts

/-- The parts of a text between the free occurrences of a separator, for a reader that starts at a
place. There are none if the reader meets a parenthesis or bracket that has no place there, or if
the text ends in quotes, in a range or after a backslash that takes no character. -/
def split (separator : Char) : Place → List Char → Option (List (List Char))
  | p, [] => if p = .free then some [[]] else none
  | p, c :: rest =>
    if p = .free ∧ c = separator then (split separator .free rest).map ([] :: ·)
    else (p.step c).bind fun next => (split separator next rest).map (extend [c])

/-- The place after a text without free occurrences of a separator. -/
def pass (separator : Char) : Place → List Char → Option Place
  | p, [] => some p
  | p, c :: rest =>
    if p = .free ∧ c = separator then none
    else (p.step c).bind fun next => pass separator next rest

variable {separator : Char} {p q : Place} {text rest : List Char}

@[simp] theorem pass_nil : pass separator p [] = some p := rfl

theorem pass_cons {c : Char} {next : Place} (hfree : p = .free → c ≠ separator)
    (hstep : p.step c = some next) :
    pass separator p (c :: rest) = pass separator next rest := by
  rw [pass, if_neg (fun h => hfree h.1 h.2), hstep, Option.bind_some]

theorem pass_append (separator : Char) (p : Place) (text rest : List Char) :
    pass separator p (text ++ rest) =
      (pass separator p text).bind fun next => pass separator next rest := by
  induction text generalizing p with
  | nil => rfl
  | cons c text ih =>
    simp only [List.cons_append, pass]
    split
    · rfl
    · cases p.step c with
      | none => rfl
      | some next => exact ih next

/-- The first step of a reader that passes a text. -/
theorem pass_cons_eq_some {c : Char} (h : pass separator p (c :: text) = some q) :
    ¬(p = .free ∧ c = separator) ∧
      ∃ next, p.step c = some next ∧ pass separator next text = some q := by
  rw [pass] at h
  split at h
  · cases h
  · rename_i hc
    exact ⟨hc, Option.bind_eq_some_iff.mp h⟩

/-- A text that a reader passes and ends free is a single part. -/
theorem split_whole (h : pass separator p text = some .free) :
    split separator p text = some [text] := by
  induction text generalizing p with
  | nil =>
    obtain rfl : p = .free := by simpa using h
    rfl
  | cons c text ih =>
    obtain ⟨hc, next, hstep, hnext⟩ := pass_cons_eq_some h
    rw [split, if_neg hc, hstep, Option.bind_some, ih hnext]
    rfl

/-- A text that a reader passes and ends free is the first part, if a separator comes next. -/
theorem split_append (h : pass separator p text = some .free) :
    split separator p (text ++ separator :: rest) =
      (split separator .free rest).map (text :: ·) := by
  induction text generalizing p with
  | nil =>
    obtain rfl : p = .free := by simpa using h
    rw [List.nil_append, split, if_pos ⟨rfl, rfl⟩]
  | cons c text ih =>
    obtain ⟨hc, next, hstep, hnext⟩ := pass_cons_eq_some h
    rw [List.cons_append, split, if_neg hc, hstep, Option.bind_some, ih hnext, Option.map_map]
    rfl

/-- Texts joined by a separator come apart into the same texts, if a reader passes each of them and
ends free. -/
theorem split_intercalate {parts : List (List Char)} (hne : parts ≠ [])
    (h : ∀ part ∈ parts, pass separator .free part = some .free) :
    split separator .free ([separator].intercalate parts) = some parts := by
  induction parts with
  | nil => exact absurd rfl hne
  | cons part parts ih =>
    cases parts with
    | nil => simpa using split_whole (h part (by simp))
    | cons next parts =>
      have hrest := ih (by simp) fun part hp => h part (List.mem_cons_of_mem _ hp)
      rw [List.intercalate_cons_cons, List.append_assoc, List.singleton_append,
        split_append (h part (by simp)), hrest, Option.map_some]

end SolrClause.Query
