import SolrClause.Proofs.CriteriaFile.Forms
import SolrClause.Proofs.Form.Strict

/-! Blanks around criteria files. Lines are trimmed, so no blank around them matters. An array is
told from lines with the blanks before it left out, but read with them in place, and then only the
blanks of JSON may stand around it. -/

namespace SolrClause.CriteriaFile

open SolrClause.Json SolrClause.Text

/-! ### Lines -/

section Lines

/-- What stands on the lines that are not blank. -/
def written (ls : List (List Char)) : List (List Char) := (ls.map trim).filter (· ≠ [])

variable {line line' gap : List Char} {ls ls' : List (List Char)} {criteria : List Criteria}

theorem readLines_eq_ok_iff_written {number : Nat} :
    readLines number ls = .ok criteria ↔
      List.Forall₂ (fun text c => parse Criteria.ofJson text = .ok c) (written ls) criteria := by
  rw [readLines_eq_ok_iff, written, List.filter_map, List.forall₂_map_left_iff]
  rfl

theorem written_blank (h : trim line = []) : written (line :: ls) = written ls := by
  rw [written, List.map_cons, h]
  rfl

theorem written_cons_congr (h : trim line = trim line') (hrest : written ls = written ls') :
    written (line :: ls) = written (line' :: ls') := by
  rw [written, written] at hrest
  rw [written, written, List.map_cons, List.map_cons, h, List.filter_cons, List.filter_cons, hrest]

/-- The current line counts at the end of a text, even if nothing is on it. -/
theorem written_linesFrom_nil (line : List Char) :
    written (linesFrom line []) = written [line.reverse] := by
  cases line <;> rfl

/-- A line break ends the current line, and the carriage return that it takes along does not show.
-/
theorem written_linesFrom_newline (line text : List Char) :
    written (linesFrom line ('\n' :: text)) = written (line.reverse :: lines text) := by
  obtain ⟨first, hfirst, htrim⟩ := exists_linesFrom_newline line text
  rw [hfirst]
  exact written_cons_congr htrim rfl

/-- Blanks that a line starts with do not show. -/
theorem written_linesFrom_append (hgap : ∀ c ∈ gap, isBlank c = true) (line text : List Char) :
    written (linesFrom (line ++ gap) text) = written (linesFrom line text) := by
  have htrim (line : List Char) : trim (line ++ gap).reverse = trim line.reverse := by
    rw [List.reverse_append, trim_gap_append fun c hc => hgap c (List.mem_reverse.mp hc)]
  induction text generalizing line with
  | nil =>
    rw [written_linesFrom_nil, written_linesFrom_nil]
    exact written_cons_congr (htrim line) rfl
  | cons c text ih =>
    by_cases hc : c = '\n'
    · rw [hc, written_linesFrom_newline, written_linesFrom_newline]
      exact written_cons_congr (htrim line) rfl
    · rw [linesFrom_cons hc, linesFrom_cons hc]
      exact ih (c :: line)

/-- Blanks before a text, line breaks among them, add nothing to its lines. -/
theorem written_gap_lines (hgap : ∀ c ∈ gap, isBlank c = true) (text : List Char) :
    written (lines (gap ++ text)) = written (lines text) := by
  -- The current line holds the blanks since the last line break.
  suffices h : ∀ line, (∀ c ∈ line, isBlank c = true) →
      written (linesFrom line (gap ++ text)) = written (lines text) from h [] nofun
  induction gap with
  | nil => exact fun line hline => written_linesFrom_append hline [] text
  | cons c gap ih =>
    intro line hline
    obtain ⟨hc, hgap⟩ := List.forall_mem_cons.mp hgap
    rw [List.cons_append]
    by_cases hnewline : c = '\n'
    · have hblank : trim line.reverse = [] :=
        trim_of_blank fun c hc => hline c (List.mem_reverse.mp hc)
      rw [hnewline, written_linesFrom_newline, written_blank hblank]
      exact ih hgap [] nofun
    · rw [linesFrom_cons hnewline]
      exact ih hgap (c :: line) (List.forall_mem_cons.mpr ⟨hc, hline⟩)

theorem written_linesFrom_gap (hgap : ∀ c ∈ gap, isBlank c = true) (line : List Char) :
    written (linesFrom line gap) = written [line.reverse] := by
  induction gap generalizing line with
  | nil => exact written_linesFrom_nil line
  | cons c gap ih =>
    obtain ⟨hc, hgap⟩ := List.forall_mem_cons.mp hgap
    by_cases hnewline : c = '\n'
    · rw [hnewline, written_linesFrom_newline]
      exact written_cons_congr rfl (ih hgap [])
    · rw [linesFrom_cons hnewline, ih hgap, List.reverse_cons]
      exact written_cons_congr (trim_append (List.forall_mem_singleton.mpr hc)) rfl

/-- Blanks after a text, line breaks among them, add nothing to its lines. -/
theorem written_lines_gap (hgap : ∀ c ∈ gap, isBlank c = true) (text : List Char) :
    written (lines (text ++ gap)) = written (lines text) := by
  suffices h : ∀ line, written (linesFrom line (text ++ gap)) = written (linesFrom line text) from
    h []
  induction text with
  | nil =>
    intro line
    rw [List.nil_append, written_linesFrom_gap hgap, written_linesFrom_nil]
  | cons c text ih =>
    intro line
    rw [List.cons_append]
    by_cases hnewline : c = '\n'
    · rw [hnewline, written_linesFrom_newline, written_linesFrom_newline]
      exact written_cons_congr rfl (ih [])
    · rw [linesFrom_cons hnewline, linesFrom_cons hnewline]
      exact ih (c :: line)

theorem readLines_blanks {before after content : List Char}
    (hbefore : ∀ c ∈ before, isBlank c = true) (hafter : ∀ c ∈ after, isBlank c = true)
    (h : readLines 1 (lines content) = .ok criteria) :
    readLines 1 (lines (before ++ (content ++ after))) = .ok criteria := by
  rw [readLines_eq_ok_iff_written] at h ⊢
  rwa [written_gap_lines hbefore, written_lines_gap hafter]

end Lines

/-! ### Arrays -/

section Arrays

variable {before after rest : List Char} {c : Char}

/-- No numeral goes on in a blank. -/
theorem ends_of_isBlank (h : ∀ c ∈ after, isBlank c = true) : Numeral.Ends after := by
  intro c hc
  have hblank := h c (List.mem_of_mem_head? hc)
  refine ⟨isDigit_of_isBlank hblank, ?_, ?_, ?_⟩ <;>
  · rintro rfl
    exact absurd hblank (by decide)

/-- A blank that is not one of JSON starts no value. -/
theorem readValue_of_isBlank {fuel : Nat} {text : List Char} (hblank : isBlank c = true)
    (htext : skipSpaces text = c :: rest) :
    Document.readValue (fuel + 1) text = (.broken .noValue, []) := by
  have hne (d : Char) (hd : isBlank d = false) : c ≠ d := by
    rintro rfl
    rw [hblank] at hd
    cases hd
  have hnumeral : ¬(decide (c = '-') || isDigit c) = true := by
    simp [hne '-' (by decide), isDigit_of_isBlank hblank]
  simp only [Document.readValue, htext, if_neg (hne '\"' (by decide)),
    if_neg (hne '[' (by decide)), if_neg (hne '{' (by decide)), if_neg hnumeral,
    if_neg (hne 'n' (by decide)), if_neg (hne 't' (by decide)), if_neg (hne 'f' (by decide))]

/-- Something else than blanks of JSON is left of a text that starts with it. -/
theorem exists_skipSpaces_append (h : ¬Document.Blanks before) :
    ∃ c ∈ before, ∃ more, ∀ rest, skipSpaces (before ++ rest) = c :: (more ++ rest) := by
  obtain ⟨gap, hgap, hbefore⟩ := Document.exists_blanks before
  cases hmore : skipSpaces before with
  | nil =>
    rw [hmore, List.append_nil] at hbefore
    exact absurd (hbefore ▸ hgap) h
  | cons c more =>
    rw [hmore] at hbefore
    have hc : isSpace c = false := by
      have hhead := List.head?_dropWhile_not isSpace before
      rw [← skipSpaces, hmore] at hhead
      simpa using hhead
    refine ⟨c, by simp [hbefore], more, fun rest => ?_⟩
    rw [hbefore, List.append_assoc, List.cons_append, Document.skipSpaces_gap hgap hc]

/-- A list is not found behind a blank that is not one of JSON. -/
theorem parse_readList_before {α : Type} (reading : Reading α)
    (hbefore : ∀ c ∈ before, isBlank c = true) (h : ¬Document.Blanks before) (rest : List Char) :
    parse (Document.readList reading) (before ++ rest) = .error .noValue := by
  obtain ⟨c, hc, more, hskip⟩ := exists_skipSpaces_append h
  have hread : Document.read (before ++ rest) = (.broken .noValue, []) :=
    readValue_of_isBlank (hbefore c hc) (hskip rest)
  rw [parse, hread]
  rfl

section Holds

variable {text : List Char} {d : Document}

theorem holds_blanks (h : Document.Holds text d) (hbefore : Document.Blanks before)
    (hafter : Document.Blanks after) : Document.Holds (before ++ (text ++ after)) d := by
  obtain ⟨hgap, hwrites, hgap'⟩ := h
  have hmk := Document.Holds.mk (hbefore.append hgap) hwrites (hgap'.append hafter)
  simpa only [List.append_assoc] using hmk

/-- What is read from a text is not read from it if something else than blanks of JSON follows. -/
theorem parse_after {α : Type} {reading : Reading α} {a : α} (h : Document.Holds text d)
    (hread : reading levelLimit d = .ok a) (hbefore : Document.Blanks before)
    (hblank : ∀ c ∈ after, isBlank c = true) (hafter : ¬Document.Blanks after) :
    parse reading (before ++ (text ++ after)) = .error .trailingCharacters := by
  obtain @⟨gap, core, gap', _, hgap, hwrites, hgap'⟩ := h
  obtain ⟨c, -, more, hskip⟩ := exists_skipSpaces_append hafter
  have hends : Numeral.Ends (gap' ++ after) :=
    ends_of_isBlank (List.forall_mem_append.mpr
      ⟨fun c hc => isBlank_of_isSpace (hgap' c hc), hblank⟩)
  have hdocument := Document.read_writes (hbefore.append hgap) hwrites hends
  have hrest : skipSpaces (gap' ++ after) = c :: more := by
    have hempty := hskip []
    rw [List.append_nil, List.append_nil] at hempty
    rw [Document.skipSpaces_append hgap', hempty]
  simp only [List.append_assoc] at hdocument ⊢
  rw [parse, hdocument]
  simp only [hread, hrest]
  rfl

end Holds

end Arrays

/-! ### Contents -/

section Contents

variable {before after content : List Char} {criteria : List Criteria}

theorem isArray_append_gap (hafter : ∀ c ∈ after, isBlank c = true) (content : List Char) :
    isArray (content ++ after) = isArray content := by
  have hgap : trimStart after = [] := List.dropWhile_eq_nil_iff.mpr hafter
  have hstart : trimStart (content ++ after) =
      if (trimStart content).isEmpty then trimStart after else trimStart content ++ after :=
    List.dropWhile_append
  rw [isArray, isArray, hstart, hgap]
  cases trimStart content <;> rfl

theorem readArray_eq_ok :
    readArray content = .ok criteria ↔
      parse (Document.readList Criteria.ofJson) content = .ok criteria := by
  rw [readArray]
  cases parse (Document.readList Criteria.ofJson) content <;> simp

theorem readArray_eq_error {fault : Fault}
    (h : parse (Document.readList Criteria.ofJson) content = .error fault) :
    readArray content = .error (.json fault) := by
  rw [readArray, h]

/-- Blanks around a content on which reading succeeds do not change what it means if it is made of
lines, and if it is an array as long as they are blanks of JSON. Any other blank makes an array
unreadable: before it no value is found, and after it something is left over. -/
theorem readChars_blanks (h : readChars content = .ok criteria)
    (hbefore : ∀ c ∈ before, isBlank c = true) (hafter : ∀ c ∈ after, isBlank c = true) :
    (readChars (before ++ content ++ after) = .ok criteria ↔
      isArray content = false ∨ Document.Blanks before ∧ Document.Blanks after) ∧
    (isArray content = true → ¬Document.Blanks before →
      readChars (before ++ content ++ after) = .error (.json .noValue)) ∧
    (isArray content = true → Document.Blanks before → ¬Document.Blanks after →
      readChars (before ++ content ++ after) = .error (.json .trailingCharacters)) := by
  rw [List.append_assoc]
  have harray : isArray (before ++ (content ++ after)) = isArray content := by
    rw [isArray_gap hbefore, isArray_append_gap hafter]
  rw [readChars] at h
  rw [readChars, harray]
  cases hform : isArray content with
  | false =>
    rw [hform, if_neg Bool.false_ne_true] at h
    refine ⟨iff_of_true ?_ (.inl rfl), fun htrue => ?_, fun htrue => ?_⟩
    · exact readLines_blanks hbefore hafter h
    · exact absurd htrue Bool.false_ne_true
    · exact absurd htrue Bool.false_ne_true
  | true =>
    rw [hform, if_pos rfl, readArray_eq_ok] at h
    rw [if_pos rfl]
    obtain ⟨d, hholds, hread⟩ :=
      exists_holds_of_parse (Document.strict_readList Criteria.strict_ofJson) h
    have hfront (hspaces : ¬Document.Blanks before) :
        readArray (before ++ (content ++ after)) = .error (.json .noValue) :=
      readArray_eq_error (parse_readList_before _ hbefore hspaces _)
    have hback (hspaces : Document.Blanks before) (hspaces' : ¬Document.Blanks after) :
        readArray (before ++ (content ++ after)) = .error (.json .trailingCharacters) :=
      readArray_eq_error (parse_after hholds hread hspaces hafter hspaces')
    refine ⟨⟨fun hok => .inr ?_, fun hspaces => ?_⟩, fun _ => hfront, fun _ => hback⟩
    · have hspaces : Document.Blanks before := by
        by_contra hspaces
        rw [hfront hspaces] at hok
        cases hok
      refine ⟨hspaces, ?_⟩
      by_contra hspaces'
      rw [hback hspaces hspaces'] at hok
      cases hok
    · obtain ⟨hspaces, hspaces'⟩ := hspaces.resolve_left Bool.noConfusion
      rw [readArray_eq_ok, parse_holds _ (holds_blanks hholds hspaces hspaces'), hread]

/-- An empty line more before a line, and a wide space after it. -/
theorem readChars_blanks_lines :
    readChars ("\u00a0\r\n".toList ++ r#"{"field":"a"}"#.toList ++ "\u3000".toList) =
      .ok [⟨"a", false, .empty⟩] := by
  have hread : readChars r#"{"field":"a"}"#.toList = .ok [⟨"a", false, .empty⟩] := by
    decide +kernel
  have hbefore : ∀ c ∈ "\u00a0\r\n".toList, isBlank c = true := List.all_eq_true.mp rfl
  have hafter : ∀ c ∈ "\u3000".toList, isBlank c = true := List.all_eq_true.mp rfl
  exact (readChars_blanks hread hbefore hafter).1.mpr (.inl (by decide +kernel))

/-- An array with a space around it that is none of JSON's, on one side or on the other. -/
theorem exists_readChars_blanks_ne :
    (∃ before content criteria, (∀ c ∈ before, isBlank c = true) ∧
      readChars content = .ok criteria ∧ readChars (before ++ content) ≠ .ok criteria) ∧
    ∃ content after criteria, (∀ c ∈ after, isBlank c = true) ∧
      readChars content = .ok criteria ∧ readChars (content ++ after) ≠ .ok criteria := by
  refine ⟨⟨['\u00a0'], r#"[{"field":"a"}]"#.toList, [⟨"a", false, .empty⟩], ?_, ?_, ?_⟩,
    r#"[{"field":"a"}]"#.toList, ['\u3000'], [⟨"a", false, .empty⟩], ?_, ?_, ?_⟩
  · exact List.all_eq_true.mp rfl
  · decide +kernel
  · decide +kernel
  · exact List.all_eq_true.mp rfl
  · decide +kernel
  · decide +kernel

end Contents

end SolrClause.CriteriaFile
