import Mathlib.Data.List.Forall2
import SolrClause.Proofs.Run

/-! Criteria files with one criteria to a line are read as a whole or not at all: what is on the
lines decides which criteria come out, and otherwise the first line that is at fault is named by its
position. The kind of line break does not matter. -/

namespace SolrClause.CriteriaFile

open SolrClause.Json SolrClause.Text

/-- The lines that are not blank. -/
def contents (ls : List (List Char)) : List (List Char) := ls.filter fun line => trim line ≠ []

/-- The line holds the criteria. -/
def Reads (line : List Char) (c : Criteria) : Prop := parse Criteria.ofJson (trim line) = .ok c

/-- The first line that is neither blank nor a criteria stands at a position, counted from one with
every line, and has a fault. -/
inductive FirstFault : List (List Char) → Nat → Fault → Prop
  | here {line : List Char} {rest : List (List Char)} {fault : Fault} (hline : trim line ≠ [])
      (hfault : parse Criteria.ofJson (trim line) = .error fault) :
      FirstFault (line :: rest) 1 fault
  | later {line : List Char} {rest : List (List Char)} {position : Nat} {fault : Fault}
      (hline : trim line ≠ [] → ∃ c, Reads line c) (hrest : FirstFault rest position fault) :
      FirstFault (line :: rest) (position + 1) fault

/-- What a line at fault is reported as. -/
def lineError (position : Nat) (fault : Fault) : Error :=
  .invalidArgument ("line " ++ toString position ++ ": " ++ fault.message)

/-! ### Line by line -/

section Step

variable {line : List Char} {rest : List (List Char)} {number : Nat}

theorem contents_blank (h : trim line = []) : contents (line :: rest) = contents rest :=
  List.filter_cons_of_neg (by simpa using h)

theorem contents_cons (h : trim line ≠ []) : contents (line :: rest) = line :: contents rest :=
  List.filter_cons_of_pos (by simpa using h)

theorem readLines_blank (h : trim line = []) :
    readLines number (line :: rest) = readLines (number + 1) rest := by
  rw [readLines, if_pos (by simp [h])]

theorem readLines_reads {c : Criteria} (h : trim line ≠ []) (hc : Reads line c) :
    readLines number (line :: rest) = (readLines (number + 1) rest).map (c :: ·) := by
  have hline : readLine number (trim line) = .ok c := by
    rw [readLine, hc]
  rw [readLines, if_neg (by simpa using h), hline, ok_bind]
  cases readLines (number + 1) rest <;> rfl

theorem readLines_fault {fault : Fault} (h : trim line ≠ [])
    (hfault : parse Criteria.ofJson (trim line) = .error fault) :
    readLines number (line :: rest) = .error (lineError number fault) := by
  have hline : readLine number (trim line) = .error (lineError number fault) := by
    rw [readLine, hfault, lineError]
  rw [readLines, if_neg (by simpa using h), hline]
  rfl

end Step

/-! ### All lines -/

section All

variable {ls ls' : List (List Char)} {criteria : List Criteria}

theorem readLines_eq_ok_iff {number : Nat} :
    readLines number ls = .ok criteria ↔ List.Forall₂ Reads (contents ls) criteria := by
  induction ls generalizing number criteria with
  | nil =>
    constructor
    · rintro ⟨⟩
      exact .nil
    · rintro ⟨⟩
      rfl
  | cons line rest ih =>
    by_cases hline : trim line = []
    · rw [readLines_blank hline, contents_blank hline, ih]
    · rw [contents_cons hline]
      cases hparse : parse Criteria.ofJson (trim line) with
      | error fault =>
        rw [readLines_fault hline hparse]
        constructor
        · exact nofun
        · rintro (_ | ⟨hread, -⟩)
          rw [Reads, hparse] at hread
          cases hread
      | ok c =>
        rw [readLines_reads hline hparse]
        constructor
        · intro h
          cases hrest : readLines (number + 1) rest with
          | error error =>
            rw [hrest] at h
            cases h
          | ok others =>
            rw [hrest] at h
            cases h
            exact .cons hparse (ih.mp hrest)
        · rintro (_ | ⟨hread, hrest⟩)
          obtain rfl : c = _ := Except.ok.inj (hparse.symm.trans hread)
          rw [ih.mpr hrest, map_ok]

theorem readLines_of_firstFault {position : Nat} {fault : Fault} (h : FirstFault ls position fault)
    (number : Nat) : readLines (number + 1) ls = .error (lineError (number + position) fault) := by
  induction h generalizing number with
  | here hline hfault => exact readLines_fault hline hfault
  | @later line rest position fault hline hrest ih =>
    have hcount : number + 1 + position = number + (position + 1) := by omega
    by_cases hblank : trim line = []
    · rw [readLines_blank hblank, ih, hcount]
    · obtain ⟨c, hc⟩ := hline hblank
      rw [readLines_reads hblank hc, ih, hcount]
      rfl

/-- Either there is a criteria on every line that is not blank, or one of them is the first at
fault. -/
theorem reads_or_firstFault (ls : List (List Char)) :
    (∃ criteria, List.Forall₂ Reads (contents ls) criteria) ∨
      ∃ position fault, FirstFault ls position fault := by
  induction ls with
  | nil => exact .inl ⟨[], .nil⟩
  | cons line rest ih =>
    cases hparse : parse Criteria.ofJson (trim line) with
    | error fault =>
      by_cases hline : trim line = []
      · rw [contents_blank hline]
        refine ih.imp_right ?_
        rintro ⟨position, fault, h⟩
        exact ⟨position + 1, fault, .later (fun hne => absurd hline hne) h⟩
      · exact .inr ⟨1, fault, .here hline hparse⟩
    | ok c =>
      rcases ih with ⟨criteria, h⟩ | ⟨position, fault, h⟩
      · by_cases hline : trim line = []
        · exact .inl ⟨criteria, by rwa [contents_blank hline]⟩
        · exact .inl ⟨c :: criteria, by rw [contents_cons hline]; exact .cons hparse h⟩
      · exact .inr ⟨position + 1, fault, .later (fun _ => ⟨c, hparse⟩) h⟩

theorem forall_reads_of_forall₂ {ls : List (List Char)} (h : List.Forall₂ Reads ls criteria) :
    ∀ line ∈ ls, ∃ c, Reads line c := by
  intro line hline
  obtain ⟨c, -, hc⟩ := exists_mem_of_forall₂ h.flip hline
  exact ⟨c, hc⟩

theorem not_forall_reads_of_firstFault {position : Nat} {fault : Fault}
    (h : FirstFault ls position fault) : ¬∀ line ∈ contents ls, ∃ c, Reads line c := by
  induction h with
  | here hline hfault =>
    rw [contents_cons hline]
    intro h
    obtain ⟨c, hc⟩ := h _ List.mem_cons_self
    rw [Reads, hfault] at hc
    cases hc
  | @later line rest position fault hline hrest ih =>
    refine fun h => ih fun next hnext => h next ?_
    by_cases hblank : trim line = []
    · rwa [contents_blank hblank]
    · rw [contents_cons hblank]
      exact List.mem_cons_of_mem line hnext

/-- Only what is left of the lines after trimming matters. -/
theorem readLines_congr (h : ls.map trim = ls'.map trim) (number : Nat) :
    readLines number ls = readLines number ls' := by
  induction ls generalizing ls' number with
  | nil =>
    obtain rfl : ls' = [] := by simpa using h.symm
    rfl
  | cons line rest ih =>
    cases ls' with
    | nil => cases h
    | cons line' rest' =>
      rw [List.map_cons, List.map_cons, List.cons.injEq] at h
      rw [readLines, readLines, h.1, ih h.2]

end All

/-! ### Line breaks -/

/-- The content with a carriage return put before each line feed. -/
def withReturns (content : List Char) : List Char :=
  content.flatMap fun c => if c = '\n' then ['\r', '\n'] else [c]

section Returns

variable {c : Char} (content : List Char)

theorem withReturns_newline :
    withReturns ('\n' :: content) = '\r' :: '\n' :: withReturns content := rfl

theorem withReturns_cons (hc : c ≠ '\n') :
    withReturns (c :: content) = c :: withReturns content := by
  rw [withReturns, List.flatMap_cons, if_neg hc]
  rfl

theorem map_trim_withReturns (line : List Char) :
    (linesFrom line (withReturns content)).map trim = (linesFrom line content).map trim := by
  induction content generalizing line with
  | nil => rfl
  | cons c rest ih =>
    by_cases hc : c = '\n'
    · obtain ⟨first, hfirst, htrim⟩ := exists_linesFrom_newline line rest
      rw [hc, hfirst, withReturns_newline, linesFrom_cons (by decide), linesFrom_return_newline,
        List.map_cons, List.map_cons, htrim, lines, lines, ih []]
    · rw [withReturns_cons rest hc, linesFrom_cons hc, linesFrom_cons hc, ih (c :: line)]

theorem isArray_withReturns : isArray (withReturns content) = isArray content := by
  induction content with
  | nil => rfl
  | cons c rest ih =>
    by_cases hc : c = '\n'
    · rw [hc, withReturns_newline]
      exact ih
    · rw [withReturns_cons rest hc]
      by_cases hblank : isBlank c = true
      · have hskip (text : List Char) : trimStart (c :: text) = trimStart text :=
          List.dropWhile_cons_of_pos hblank
        rw [isArray, hskip, ← isArray, ih, isArray, isArray, hskip]
      · rw [isArray, isArray, trimStart_cons (by simpa using hblank),
          trimStart_cons (by simpa using hblank), List.head?_cons, List.head?_cons]

theorem readChars_withReturns (h : isArray content = false) :
    readChars (withReturns content) = readChars content := by
  rw [readChars, readChars, isArray_withReturns, h, if_neg (by decide), if_neg (by decide)]
  exact readLines_congr (map_trim_withReturns content []) 1

end Returns

/-! ### Contents -/

open SolrClause.Run SolrClause.CommandLine

/-- Content that is no array is read exactly when each line with something on it is a criteria, as
these criteria in their order. Otherwise the first line at fault is named, and the command on such a
file fails and prints nothing. The content is read alike with either kind of line break. -/
theorem readChars_all_or_nothing {content : List Char} (h : isArray content = false) :
    (∀ criteria, readChars content = .ok criteria ↔
      List.Forall₂ Reads (contents (lines content)) criteria) ∧
    ((∃ criteria, readChars content = .ok criteria) ↔
      ∀ line ∈ contents (lines content), ∃ c, Reads line c) ∧
    ((¬∃ criteria, readChars content = .ok criteria) →
      ∃ position fault error, FirstFault (lines content) position fault ∧
        error = .invalidArgument ("line " ++ toString position ++ ": " ++ fault.message) ∧
        readChars content = .error error ∧
        ∀ files options path, files path = .ok (String.ofList content) →
          (∀ config, (buildConfig files options).result = .ok config →
            (report files ⟨options, .file path⟩).result = .error error) ∧
          ∀ directives, (program files directives ⟨options, .file path⟩).exitCode = 1 ∧
            (program files directives ⟨options, .file path⟩).stdout = "") ∧
    readChars (withReturns content) = readChars content := by
  have hlines : readChars content = readLines 1 (lines content) := by
    rw [readChars, h, if_neg (by decide)]
  have hok (criteria : List Criteria) : readChars content = .ok criteria ↔
      List.Forall₂ Reads (contents (lines content)) criteria := by
    rw [hlines, readLines_eq_ok_iff]
  refine ⟨hok, ⟨?_, fun hall => ?_⟩, fun hnone => ?_, readChars_withReturns content h⟩
  · rintro ⟨criteria, hread⟩
    exact forall_reads_of_forall₂ ((hok criteria).mp hread)
  · rcases reads_or_firstFault (lines content) with ⟨criteria, hread⟩ | ⟨position, fault, hfault⟩
    · exact ⟨criteria, (hok criteria).mpr hread⟩
    · exact absurd hall (not_forall_reads_of_firstFault hfault)
  · rcases reads_or_firstFault (lines content) with ⟨criteria, hread⟩ | ⟨position, fault, hfault⟩
    · exact absurd ⟨criteria, (hok criteria).mpr hread⟩ hnone
    · have hread : readChars content = .error (lineError position fault) := by
        have herror := readLines_of_firstFault hfault 0
        rwa [hlines, ← Nat.zero_add position]
      refine ⟨position, fault, _, hfault, rfl, hread, fun files options path hfile => ?_⟩
      have htext : read (String.ofList content) = .error (lineError position fault) := by
        rw [read, String.toList_ofList, hread]
      obtain ⟨cause, hcause, hconfig⟩ := report_file_of_error options hfile htext
      refine ⟨fun config hbuild => ?_, program_of_error hcause⟩
      rw [hcause, hconfig config hbuild, lineError]

/-- A fault on the fourth line, after a blank line, one with a wide space and a criteria. -/
theorem readChars_all_or_nothing_fourth_line :
    let content := ("\n \u3000\r\n" ++ r#"{"field":"a"}"# ++ "\r\n" ++
      r#"{"field":1}"# ++ "\n").toList
    isArray content = false ∧
      readChars (withReturns content) =
        .error (.invalidArgument "line 4: invalid type: integer `1`, expected a string") ∧
      ∀ directives,
        (program (fun _ => .ok (String.ofList content)) directives
          ⟨{}, .file (.ofString "criteria")⟩).exitCode = 1 ∧
        (program (fun _ => .ok (String.ofList content)) directives
          ⟨{}, .file (.ofString "criteria")⟩).stdout = "" := by
  intro content
  have harray : isArray content = false := by decide +kernel
  have hread : readChars content =
      .error (.invalidArgument "line 4: invalid type: integer `1`, expected a string") := by
    decide +kernel
  obtain ⟨-, -, hfault, hreturns⟩ := readChars_all_or_nothing harray
  refine ⟨harray, hreturns.trans hread, ?_⟩
  obtain ⟨position, fault, error, -, -, -, hcommand⟩ := hfault (by simp [hread])
  exact (hcommand _ {} (.ofString "criteria") rfl).2

end SolrClause.CriteriaFile
