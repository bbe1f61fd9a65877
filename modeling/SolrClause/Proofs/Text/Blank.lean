import Mathlib.Data.List.TakeWhile
import SolrClause.Text.Blank
import SolrClause.Text.Digits

/-! Lines and trimming: a line is given back without its break, and a text that neither starts nor
ends with a blank is left as it is. -/

namespace SolrClause.Text

/-! ### Lines -/

section Lines

variable {chars rest : List Char}

theorem linesFrom_cons {c : Char} (hc : c ≠ '\n') (line : List Char) :
    linesFrom line (c :: rest) = linesFrom (c :: line) rest := by
  rw [linesFrom.eq_def]
  exact if_neg hc

theorem linesFrom_newline {line : List Char} (hreturn : line.head? ≠ some '\r') :
    linesFrom line ('\n' :: rest) = line.reverse :: lines rest := by
  rw [linesFrom.eq_def]
  refine (if_pos rfl).trans (congrArg (· :: lines rest) ?_)
  split
  · exact absurd rfl hreturn
  · rfl

theorem linesFrom_return_newline (line : List Char) :
    linesFrom ('\r' :: line) ('\n' :: rest) = line.reverse :: lines rest := rfl

/-- Characters without a line break go on with the current line. -/
theorem linesFrom_append (h : '\n' ∉ chars) (line : List Char) :
    linesFrom line (chars ++ rest) = linesFrom (chars.reverse ++ line) rest := by
  induction chars generalizing line with
  | nil => rfl
  | cons c chars ih =>
    have hc : c ≠ '\n' := fun hc => h (hc ▸ List.mem_cons_self)
    have hchars : '\n' ∉ chars := fun hmem => h (List.mem_cons_of_mem c hmem)
    rw [List.cons_append, linesFrom_cons hc, ih hchars, List.reverse_cons, List.append_assoc,
      List.singleton_append]

theorem lines_newline (h : '\n' ∉ chars) (hreturn : chars.getLast? ≠ some '\r') :
    lines (chars ++ '\n' :: rest) = chars :: lines rest := by
  have hhead : chars.reverse.head? ≠ some '\r' := by rwa [List.head?_reverse]
  rw [lines, linesFrom_append h, List.append_nil, linesFrom_newline hhead, List.reverse_reverse]

/-- A line break takes a carriage return along. -/
theorem lines_return_newline (h : '\n' ∉ chars) :
    lines (chars ++ '\r' :: '\n' :: rest) = chars :: lines rest := by
  rw [lines, linesFrom_append h, List.append_nil, linesFrom_cons (by decide),
    linesFrom_return_newline, List.reverse_reverse]

/-- A last line needs no break. -/
theorem lines_of_no_newline (h : '\n' ∉ chars) (hne : chars ≠ []) : lines chars = [chars] := by
  have happend := @linesFrom_append chars [] h []
  rw [List.append_nil, List.append_nil] at happend
  have hline : chars.reverse.isEmpty = false := by simpa using hne
  rw [lines, happend, linesFrom.eq_def]
  simp only [hline, List.reverse_reverse]
  rfl

end Lines

/-! ### Digits -/

theorem isBlank_of_isDigit {c : Char} (h : isDigit c = true) : isBlank c = false := by
  have hrange : 48 ≤ c.toNat ∧ c.toNat ≤ 57 := by
    rw [isDigit, Bool.and_eq_true, decide_eq_true_eq, decide_eq_true_eq] at h
    exact h
  simp only [isBlank, isIn, blankRuns, List.any_cons, List.any_nil, Bool.or_eq_false_iff,
    Bool.and_eq_false_iff, decide_eq_false_iff_not, and_true]
  omega

theorem isDigit_of_isBlank {c : Char} (h : isBlank c = true) : isDigit c = false := by
  rw [Bool.eq_false_iff]
  intro hdigit
  rw [isBlank_of_isDigit hdigit] at h
  cases h

/-! ### Trimming -/

section Trimming

variable {gap text : List Char} {first last : Char}

theorem trimStart_append (h : ∀ c ∈ gap, isBlank c = true) :
    trimStart (gap ++ text) = trimStart text :=
  List.dropWhile_append_of_pos h

theorem trimStart_cons (h : isBlank first = false) : trimStart (first :: text) = first :: text :=
  List.dropWhile_cons_of_neg (by simp [h])

/-- A text is not trimmed where no blank stands. -/
theorem trim_bracketed (hfirst : isBlank first = false) (hlast : isBlank last = false) :
    trim (first :: (text ++ [last])) = first :: (text ++ [last]) := by
  have hreverse : (first :: (text ++ [last])).reverse = last :: (text.reverse ++ [first]) := by
    simp
  rw [trim, trimStart_cons hfirst, hreverse, List.dropWhile_cons_of_neg (by simp [hlast]),
    ← hreverse, List.reverse_reverse]

/-- Blanks at the end of a text do not show once it is trimmed. -/
theorem trim_append (h : ∀ c ∈ gap, isBlank c = true) : trim (text ++ gap) = trim text := by
  have hgap : trimStart gap = [] := List.dropWhile_eq_nil_iff.mpr h
  have hstart : trimStart (text ++ gap) =
      if (trimStart text).isEmpty then trimStart gap else trimStart text ++ gap :=
    List.dropWhile_append
  rw [trim, trim, hstart]
  split
  · rename_i hempty
    rw [hgap, List.isEmpty_iff.mp hempty]
  · rw [List.reverse_append,
      List.dropWhile_append_of_pos fun c hc => h c (List.mem_reverse.mp hc)]

theorem trim_gap_append (h : ∀ c ∈ gap, isBlank c = true) : trim (gap ++ text) = trim text := by
  rw [trim, trim, trimStart_append h]

theorem trim_of_blank (h : ∀ c ∈ gap, isBlank c = true) : trim gap = [] := by
  rw [← List.append_nil gap, trim_gap_append h]
  rfl

/-- Whatever a line break takes along does not show once the line is trimmed. -/
theorem exists_linesFrom_newline (line rest : List Char) :
    ∃ first, linesFrom line ('\n' :: rest) = first :: lines rest ∧
      trim first = trim line.reverse := by
  cases line with
  | nil => exact ⟨[], rfl, rfl⟩
  | cons c before =>
    by_cases hc : c = '\r'
    · refine ⟨before.reverse, ?_, ?_⟩
      · rw [hc, linesFrom_return_newline]
      · rw [hc, List.reverse_cons, trim_append]
        simp [show isBlank '\r' = true by decide]
    · exact ⟨(c :: before).reverse, linesFrom_newline (by simpa using hc), rfl⟩

/-- A line is given back with either kind of break, up to the blanks around it. -/
theorem exists_lines_ending {ending : List Char} (h : '\n' ∉ text)
    (hending : ending = ['\n'] ∨ ending = ['\r', '\n']) (rest : List Char) :
    ∃ first, lines (text ++ (ending ++ rest)) = first :: lines rest ∧ trim first = trim text := by
  rcases hending with rfl | rfl
  · obtain ⟨first, hfirst, htrim⟩ := exists_linesFrom_newline (text.reverse ++ []) rest
    refine ⟨first, ?_, ?_⟩
    · rw [lines, linesFrom_append h]
      exact hfirst
    · rw [htrim, List.append_nil, List.reverse_reverse]
  · exact ⟨text, lines_return_newline h, rfl⟩

end Trimming

end SolrClause.Text
