import SolrClause.Proofs.CriteriaFile.Lines
import SolrClause.Proofs.Form.Depth

/-! The two forms of criteria files mean the same: objects between brackets, joined by commas, are
read just as the same objects are on lines of their own. -/

namespace SolrClause.CriteriaFile

open SolrClause.Json SolrClause.Text

/-- The text is a JSON object, nested at most 100 deep, on a line of its own. -/
structure ObjectLine (text : List Char) (d : Document) : Prop where
  holds : Document.Holds text d
  object : ∃ members, d = .object members .closed
  depth : d.depth ≤ 100
  line : '\n' ∉ text

/-- The content holds the texts, one to a line, with any number of blank lines between them. The
last line may do without a break. -/
inductive Joined : List (List Char) → List Char → Prop
  | nil : Joined [] []
  | last (text : List Char) : Joined [text] text
  | next {text ending rest : List Char} {texts : List (List Char)}
      (hending : ending = ['\n'] ∨ ending = ['\r', '\n']) (hrest : Joined texts rest) :
      Joined (text :: texts) (text ++ (ending ++ rest))
  | blank {gap ending rest : List Char} {texts : List (List Char)}
      (hgap : ∀ c ∈ gap, isBlank c = true) (hline : '\n' ∉ gap)
      (hending : ending = ['\n'] ∨ ending = ['\r', '\n']) (hrest : Joined texts rest) :
      Joined texts (gap ++ (ending ++ rest))

/-! ### Objects between blanks -/

section Object

variable {text : List Char} {d : Document}

theorem ObjectLine.exists_trim (h : ObjectLine text d) :
    ∃ inner, trim text = '{' :: (inner ++ ['}']) ∧ Document.Writes (trim text) d := by
  obtain ⟨⟨hgap, hwrites, hgap'⟩, ⟨members, rfl⟩, -, -⟩ := h
  obtain ⟨inner, rfl⟩ := hwrites.exists_braces
  have htrim : ∀ gap gap' : List Char, Document.Blanks gap → Document.Blanks gap' →
      trim (gap ++ ('{' :: (inner ++ ['}']) ++ gap')) = '{' :: (inner ++ ['}']) := by
    intro gap gap' hgap hgap'
    rw [trim_gap_append fun c hc => isBlank_of_isSpace (hgap c hc),
      trim_append fun c hc => isBlank_of_isSpace (hgap' c hc),
      trim_bracketed (by decide) (by decide)]
  rw [htrim _ _ hgap hgap']
  exact ⟨inner, rfl, hwrites⟩

theorem ObjectLine.trim_ne_nil (h : ObjectLine text d) : trim text ≠ [] := by
  obtain ⟨inner, htrim, -⟩ := h.exists_trim
  rw [htrim]
  exact List.cons_ne_nil _ _

/-- An object is read alike on a line and inside an array. -/
theorem ObjectLine.parse_trim (h : ObjectLine text d) :
    parse Criteria.ofJson (trim text) = Criteria.ofJson (levelLimit - 1) d := by
  obtain ⟨inner, -, hwrites⟩ := h.exists_trim
  have hdepth := h.depth
  rw [parse_writes_tight _ hwrites]
  apply Criteria.ofJson_unlimited
  · exact Nat.lt_of_le_of_lt hdepth (by decide)
  · exact Nat.lt_of_le_of_lt hdepth (by decide)

end Object

/-! ### The array -/

section Array

variable {texts : List (List Char)} {documents : List Document}

/-- The blanks that follow one text come before the next comma. -/
theorem writesItems_texts (h : List.Forall₂ ObjectLine texts documents) {gap : List Char}
    (hgap : Document.Blanks gap) :
    Document.WritesItems false (gap ++ (texts.flatMap (',' :: ·) ++ [']'])) documents := by
  induction h generalizing gap with
  | nil => exact .close hgap
  | @cons text d texts documents hfirst hrest ih =>
    obtain ⟨@⟨before, core, after, _, hbefore, hcore, hafter⟩, -⟩ := hfirst
    rw [List.flatMap_cons, List.append_assoc, List.cons_append, List.append_assoc,
      List.append_assoc]
    exact .next hgap hbefore hcore (ih hafter)

theorem writes_array (h : List.Forall₂ ObjectLine texts documents) :
    Document.Writes ('[' :: ([','].intercalate texts ++ [']'])) (.array documents .closed) := by
  apply Document.Writes.array
  cases h with
  | nil => exact .close Document.blanks_nil
  | @cons text d texts documents hfirst hrest =>
    obtain ⟨@⟨before, core, after, _, hbefore, hcore, hafter⟩, -⟩ := hfirst
    rw [intercalate_cons, List.append_assoc, List.append_assoc, List.append_assoc]
    exact .first hbefore hcore (writesItems_texts hrest hafter)

theorem readChars_array (h : List.Forall₂ ObjectLine texts documents) :
    readChars ('[' :: ([','].intercalate texts ++ [']'])) =
      match documents.mapM (Criteria.ofJson (levelLimit - 1)) with
      | .ok criteria => .ok criteria
      | .error fault => .error (.json fault) := by
  rw [readChars, if_pos (by rfl), readArray, parse_writes_tight _ (writes_array h),
    Document.readList, descend_eq (by decide), ok_bind]
  cases documents.mapM (Criteria.ofJson (levelLimit - 1)) <;> rfl

end Array

/-! ### The lines -/

section Lines

variable {texts : List (List Char)} {documents : List Document} {content : List Char}

theorem isArray_gap {gap : List Char} (hgap : ∀ c ∈ gap, isBlank c = true) (rest : List Char) :
    isArray (gap ++ rest) = isArray rest := by
  rw [isArray, isArray, trimStart_append hgap]

theorem isArray_object {text : List Char} {d : Document} (h : ObjectLine text d)
    (rest : List Char) : isArray (text ++ rest) = false := by
  obtain ⟨@⟨gap, core, gap', _, hgap, hwrites, -⟩, ⟨members, rfl⟩, -, -⟩ := h
  obtain ⟨inner, rfl⟩ := hwrites.exists_braces
  rw [List.append_assoc, isArray_gap fun c hc => isBlank_of_isSpace (hgap c hc), List.cons_append,
    List.cons_append, isArray, trimStart_cons (by decide)]
  rfl

theorem isBlank_of_mem_ending {ending : List Char}
    (h : ending = ['\n'] ∨ ending = ['\r', '\n']) : ∀ c ∈ ending, isBlank c = true := by
  rcases h with rfl | rfl <;> exact List.all_eq_true.mp rfl

theorem isArray_joined (h : Joined texts content)
    (htexts : ∀ text ∈ texts, ∃ d, ObjectLine text d) : isArray content = false := by
  induction h with
  | nil => rfl
  | last text =>
    obtain ⟨d, hd⟩ := htexts text List.mem_cons_self
    rw [← List.append_nil text, isArray_object hd]
  | next hending hrest ih =>
    obtain ⟨d, hd⟩ := htexts _ List.mem_cons_self
    exact isArray_object hd _
  | blank hgap hline hending hrest ih =>
    rw [isArray_gap hgap, isArray_gap (isBlank_of_mem_ending hending), ih htexts]

/-- Blank lines and line breaks aside, the lines are the texts. -/
theorem map_trim_contents (h : Joined texts content)
    (htexts : ∀ text ∈ texts, ∃ d, ObjectLine text d) :
    (contents (lines content)).map trim = texts.map trim := by
  induction h with
  | nil => rfl
  | last text =>
    obtain ⟨d, hd⟩ := htexts text List.mem_cons_self
    have hne : text ≠ [] := by
      rintro rfl
      exact hd.trim_ne_nil rfl
    rw [lines_of_no_newline hd.line hne, contents_cons hd.trim_ne_nil]
    rfl
  | next hending hrest ih =>
    obtain ⟨⟨d, hd⟩, hothers⟩ := List.forall_mem_cons.mp htexts
    obtain ⟨first, hlines, htrim⟩ := exists_lines_ending hd.line hending _
    have hfirst : trim first ≠ [] := htrim ▸ hd.trim_ne_nil
    rw [hlines, contents_cons hfirst, List.map_cons, List.map_cons, htrim, ih hothers]
  | blank hgap hline hending hrest ih =>
    obtain ⟨first, hlines, htrim⟩ := exists_lines_ending hline hending _
    have hfirst : trim first = [] := htrim.trans (trim_of_blank hgap)
    rw [hlines, contents_blank hfirst, ih htexts]

theorem readChars_joined (h : Joined texts content)
    (htexts : ∀ text ∈ texts, ∃ d, ObjectLine text d) {criteria : List Criteria} :
    readChars content = .ok criteria ↔
      texts.mapM (fun text => parse Criteria.ofJson (trim text)) = .ok criteria := by
  have htrim (ls : List (List Char)) : List.Forall₂ Reads ls criteria ↔
      List.Forall₂ (fun text c => parse Criteria.ofJson text = .ok c) (ls.map trim) criteria := by
    rw [List.forall₂_map_left_iff]
    rfl
  rw [readChars, isArray_joined h htexts, if_neg (by decide), readLines_eq_ok_iff, htrim,
    map_trim_contents h htexts, ← htrim, mapM_eq_ok_iff]
  rfl

end Lines

theorem exists_documents {texts : List (List Char)} (h : ∀ text ∈ texts, ∃ d, ObjectLine text d) :
    ∃ documents, List.Forall₂ ObjectLine texts documents := by
  induction texts with
  | nil => exact ⟨[], .nil⟩
  | cons text texts ih =>
    obtain ⟨⟨d, hd⟩, hothers⟩ := List.forall_mem_cons.mp h
    obtain ⟨documents, hdocuments⟩ := ih hothers
    exact ⟨d :: documents, .cons hd hdocuments⟩

/-- Objects are read from an array exactly when they are read from lines of their own, and then as
the same criteria in the same order. -/
theorem readChars_array_iff_joined {texts : List (List Char)} {content : List Char}
    (htexts : ∀ text ∈ texts, ∃ d, ObjectLine text d) (h : Joined texts content)
    (criteria : List Criteria) :
    readChars ('[' :: ([','].intercalate texts ++ [']'])) = .ok criteria ↔
      readChars content = .ok criteria := by
  obtain ⟨documents, hdocuments⟩ := exists_documents htexts
  have hmapM : texts.mapM (fun text => parse Criteria.ofJson (trim text)) =
      documents.mapM (Criteria.ofJson (levelLimit - 1)) :=
    mapM_eq_of_forall₂ (hdocuments.imp fun _ _ hd => hd.parse_trim)
  rw [readChars_array hdocuments, readChars_joined h htexts, hmapM]
  cases documents.mapM (Criteria.ofJson (levelLimit - 1)) with
  | error fault => exact ⟨nofun, nofun⟩
  | ok read => rw [Except.ok.injEq, Except.ok.injEq]

/-- Two objects with blanks around them, joined by a comma, and on lines with a blank line between
them. -/
theorem readChars_array_iff_joined_blank_line :
    let array := (r#"[ {"field":"a"},{"field":"b","negating":true}"# ++ "\t]").toList
    let content := (r#" {"field":"a"}"# ++ "\r\n \u3000\n" ++
      r#"{"field":"b","negating":true}"# ++ "\t").toList
    readChars array = .ok [⟨"a", false, .empty⟩, ⟨"b", true, .empty⟩] ∧
      readChars content = .ok [⟨"a", false, .empty⟩, ⟨"b", true, .empty⟩] := by
  intro array content
  let first : Value := .object [("field", .string "a")]
  let second : Value := .object [("field", .string "b"), ("negating", .boolean true)]
  let texts : List (List Char) :=
    [[' '] ++ (first.compactChars ++ []), [] ++ (second.compactChars ++ ['\t'])]
  have hspace : Document.Blanks [' '] := List.all_eq_true.mp rfl
  have htab : Document.Blanks ['\t'] := List.all_eq_true.mp rfl
  have htexts : ∀ text ∈ texts, ∃ d, ObjectLine text d := by
    intro text htext
    rcases List.mem_pair.mp htext with rfl | rfl
    · exact ⟨first.document, .mk hspace first.writes_compactChars Document.blanks_nil, ⟨_, rfl⟩,
        by decide, by decide⟩
    · exact ⟨second.document, .mk Document.blanks_nil second.writes_compactChars htab, ⟨_, rfl⟩,
        by decide, by decide⟩
  have hcontent : Joined texts content := by
    have hcontent : content = (' ' :: first.compactChars) ++ (['\r', '\n'] ++
        ([' ', '\u3000'] ++ (['\n'] ++ (second.compactChars ++ ['\t'])))) := by
      decide +kernel
    rw [hcontent]
    exact .next (.inr rfl) (.blank (List.all_eq_true.mp rfl) (by decide) (.inl rfl) (.last _))
  have hread : readChars content = .ok [⟨"a", false, .empty⟩, ⟨"b", true, .empty⟩] := by
    decide +kernel
  have harray : array = '[' :: ([','].intercalate texts ++ [']']) := by decide +kernel
  refine ⟨?_, hread⟩
  rw [harray]
  exact (readChars_array_iff_joined htexts hcontent _).mpr hread

end SolrClause.CriteriaFile
