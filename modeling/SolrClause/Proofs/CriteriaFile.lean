import SolrClause.CriteriaFile
import SolrClause.Proofs.Form.Criteria
import SolrClause.Proofs.Json.Printable
import SolrClause.Proofs.Text.Blank

/-! Criteria files are read as they are written, as one array or with one criteria to a line. The
text of a criteria is a single line between braces, so no line is taken apart, none is trimmed, and
no such file is taken for an array. -/

namespace SolrClause.CriteriaFile

open SolrClause.Json SolrClause.Text

/-- The text holds the criteria, one to a line. The last line may do without a break. -/
inductive WritesLines : List Criteria → List Char → Prop
  | nil : WritesLines [] []
  | last (c : Criteria) : WritesLines [c] c.toJson.compactChars
  | next (c : Criteria) {criteria : List Criteria} {ending text : List Char}
      (hending : ending = ['\n'] ∨ ending = ['\r', '\n']) (hrest : WritesLines criteria text) :
      WritesLines (c :: criteria) (c.toJson.compactChars ++ (ending ++ text))

/-- The text holds the criteria in either form. -/
inductive Writes : List Criteria → List Char → Prop
  | array {criteria : List Criteria} {gap text gap' : List Char} (hgap : Document.Blanks gap)
      (htext : Document.Writes text (Value.array (criteria.map Criteria.toJson)).document)
      (hgap' : Document.Blanks gap') : Writes criteria (gap ++ (text ++ gap'))
  | lines {criteria : List Criteria} {text : List Char} (h : WritesLines criteria text) :
      Writes criteria text

/-! ### The line of a criteria -/

section Line

variable (c : Criteria)

/-- The text of a criteria stands between braces. -/
theorem exists_braces : ∃ inner, c.toJson.compactChars = '{' :: (inner ++ ['}']) :=
  ⟨_, rfl⟩

theorem trim_compactChars : trim c.toJson.compactChars = c.toJson.compactChars := by
  obtain ⟨inner, hinner⟩ := exists_braces c
  rw [hinner, trim_bracketed (by decide) (by decide)]

theorem lines_compactChars {ending : List Char} (hending : ending = ['\n'] ∨ ending = ['\r', '\n'])
    (rest : List Char) :
    lines (c.toJson.compactChars ++ (ending ++ rest)) = c.toJson.compactChars :: lines rest := by
  have hnewline := c.toJson.printable_compactChars.newline_notMem
  rcases hending with rfl | rfl
  · obtain ⟨inner, hinner⟩ := exists_braces c
    refine lines_newline hnewline ?_
    rw [hinner, ← List.cons_append, List.getLast?_concat]
    decide
  · exact lines_return_newline hnewline

variable {c}

theorem readLine_compactChars (h : ∀ p ∈ c.predicates, ∀ value ∈ p.scalars, value.Kept)
    (number : Nat) : readLine number c.toJson.compactChars = .ok c := by
  rw [readLine, parse_writes_tight _ c.toJson.writes_compactChars,
    Criteria.ofJson_toJson_of_kept (by decide) h]

/-- One line is read after the other. -/
theorem readLines_cons (h : ∀ p ∈ c.predicates, ∀ value ∈ p.scalars, value.Kept) {number : Nat}
    {rest : List (List Char)} {criteria : List Criteria}
    (hrest : readLines (number + 1) rest = .ok criteria) :
    readLines number (c.toJson.compactChars :: rest) = .ok (c :: criteria) := by
  have hline : (trim c.toJson.compactChars).isEmpty = false := by
    obtain ⟨inner, hinner⟩ := exists_braces c
    rw [trim_compactChars, hinner]
    rfl
  rw [readLines, hline, if_neg (by decide), trim_compactChars, readLine_compactChars h, hrest]
  rfl

end Line

/-! ### Files -/

section Files

variable {criteria : List Criteria} {text : List Char}

theorem readLines_writes (h : WritesLines criteria text)
    (hkept : ∀ c ∈ criteria, ∀ p ∈ c.predicates, ∀ value ∈ p.scalars, value.Kept) (number : Nat) :
    readLines number (lines text) = .ok criteria := by
  induction h generalizing number with
  | nil => rfl
  | last c =>
    have hnewline := c.toJson.printable_compactChars.newline_notMem
    obtain ⟨inner, hinner⟩ := exists_braces c
    have hne : c.toJson.compactChars ≠ [] := hinner ▸ List.cons_ne_nil _ _
    rw [lines_of_no_newline hnewline hne]
    exact readLines_cons (hkept c List.mem_cons_self) rfl
  | next c hending hrest ih =>
    rw [lines_compactChars c hending]
    have hothers := ih (fun d hd => hkept d (List.mem_cons_of_mem c hd)) (number + 1)
    exact readLines_cons (hkept c List.mem_cons_self) hothers

/-- A file of lines does not start like an array. -/
theorem isArray_eq_false (h : WritesLines criteria text) : isArray text = false := by
  have hbrace (c : Criteria) (rest : List Char) :
      isArray (c.toJson.compactChars ++ rest) = false := by
    obtain ⟨inner, hinner⟩ := exists_braces c
    rw [hinner, List.cons_append, isArray, trimStart_cons (by decide)]
    rfl
  cases h with
  | nil => rfl
  | last c => exact List.append_nil c.toJson.compactChars ▸ hbrace c []
  | next c => exact hbrace c _

theorem isBlank_of_isSpace {c : Char} (h : isSpace c = true) : isBlank c = true := by
  simp only [isSpace, Bool.or_eq_true, decide_eq_true_eq] at h
  rcases h with ((rfl | rfl) | rfl) | rfl <;> decide

theorem isArray_eq_true {gap rest : List Char} (hgap : Document.Blanks gap) {items : List Document}
    {close : ArrayEnd} (h : Document.Writes text (.array items close)) :
    isArray (gap ++ (text ++ rest)) = true := by
  cases h with
  | array h =>
    rw [isArray, trimStart_append fun c hc => isBlank_of_isSpace (hgap c hc), List.cons_append,
      trimStart_cons (by decide)]
    rfl

/-- A criteria file is read as the criteria that it holds, in their order. -/
theorem readChars_writes (h : Writes criteria text)
    (hkept : ∀ c ∈ criteria, ∀ p ∈ c.predicates, ∀ value ∈ p.scalars, value.Kept) :
    readChars text = .ok criteria := by
  cases h with
  | array hgap htext hgap' =>
    have hlist := Document.readList_document (show 2 ≤ levelLimit by decide) fun c hc =>
      Criteria.ofJson_toJson_of_kept (show 6 ≤ levelLimit - 1 by decide) (hkept c hc)
    rw [readChars, if_pos (isArray_eq_true hgap htext), readArray, parse_writes _ hgap htext hgap',
      hlist]
  | lines h =>
    rw [readChars, isArray_eq_false h, if_neg (by decide), readLines_writes h hkept]

end Files

end SolrClause.CriteriaFile
