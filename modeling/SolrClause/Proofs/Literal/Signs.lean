import SolrClause.Proofs.Literal
import SolrClause.Proofs.Literal.Table

/-! Escaped and sanitized texts as a reader of backslashes takes them: each character is bare, or
literal after a backslash. No token of the table is bare in an escaped text, and a sanitized value
is either such a text without spaces, and no operator word, or one between two bare quotes. -/

namespace SolrClause.Literal

/-- A character with whether a backslash before it makes the reader take it literally. -/
inductive Sign where
  | bare (c : Char)
  | literal (c : Char)
  deriving DecidableEq, Repr

def Sign.char : Sign → Char
  | bare c => c
  | literal c => c

/-- The signs of a text, which has none if its last backslash is left without a character. -/
def signs? : List Char → Option (List Sign)
  | [] => some []
  | ['\\'] => none
  | '\\' :: c :: rest => (signs? rest).map (.literal c :: ·)
  | c :: rest => (signs? rest).map (.bare c :: ·)

/-- No character that is reserved on its own is bare, and no pair is. -/
structure Inert (signs : List Sign) : Prop where
  not_reserved : ∀ c, .bare c ∈ signs → isReserved c = false
  not_pair : ∀ c ∈ pairedChars, ¬[Sign.bare c, .bare c] <:+: signs

variable {c : Char} {text rest : List Char} {signs : List Sign}

/-! ### Signs -/

theorem signs?_backslash (c : Char) (rest : List Char) :
    signs? ('\\' :: c :: rest) = (signs? rest).map (.literal c :: ·) := by
  rw [signs?]

theorem signs?_cons (h : c ≠ '\\') (rest : List Char) :
    signs? (c :: rest) = (signs? rest).map (.bare c :: ·) := by
  rw [signs?]
  · exact fun hc => absurd hc h
  · exact fun _ _ hc => absurd hc h

/-- A text without a backslash left over does not change how the text after it is read. -/
theorem signs?_append (h : signs? text = some signs) (rest : List Char) :
    signs? (text ++ rest) = (signs? rest).map (signs ++ ·) := by
  fun_induction signs? text generalizing signs with
  | case1 =>
    cases h
    simp
  | case2 => cases h
  | case3 c text ih =>
    obtain ⟨signs, htext, rfl⟩ := Option.map_eq_some_iff.mp h
    rw [List.cons_append, List.cons_append, signs?_backslash, ih htext, Option.map_map]
    rfl
  | case4 c text hlast hpair ih =>
    obtain ⟨signs, htext, rfl⟩ := Option.map_eq_some_iff.mp h
    have hc : c ≠ '\\' := by
      rintro rfl
      cases text with
      | nil => exact hlast rfl rfl
      | cons d text => exact hpair d text rfl rfl
    rw [List.cons_append, signs?_cons hc, ih htext, Option.map_map]
    rfl

theorem inert_nil : Inert [] := by
  refine ⟨fun c hc => absurd hc List.not_mem_nil, fun c _ hpair => ?_⟩
  exact List.cons_ne_nil _ _ (List.infix_nil.mp hpair)

theorem Inert.literal (h : Inert signs) (c : Char) : Inert (.literal c :: signs) := by
  refine ⟨fun d hd => ?_, fun d hd hpair => ?_⟩
  · exact h.not_reserved d (by simpa using hd)
  · rcases List.infix_cons_iff.mp hpair with hprefix | hinfix
    · cases (List.cons_prefix_cons.mp hprefix).1
    · exact h.not_pair d hd hinfix

theorem Inert.bare (h : Inert signs) (hc : isReserved c = false)
    (hpair : c ∈ pairedChars → signs.head? ≠ some (.bare c)) : Inert (.bare c :: signs) := by
  refine ⟨fun d hd => ?_, fun d hd htwo => ?_⟩
  · rcases List.mem_cons.mp hd with hdc | hmem
    · cases hdc
      exact hc
    · exact h.not_reserved d hmem
  · rcases List.infix_cons_iff.mp htwo with hprefix | hinfix
    · obtain ⟨hdc, tail, rfl⟩ := List.cons_prefix_cons.mp hprefix
      cases hdc
      exact hpair hd rfl
    · exact h.not_pair d hd hinfix

/-- An escaped text is read as the characters of the text, and no token of the table is bare. -/
theorem exists_signs_escapeChars (text : List Char) :
    ∃ signs, signs? (escapeChars text) = some signs ∧ signs.map Sign.char = text ∧
      Inert signs := by
  induction text using scan_induction with
  | nil => exact ⟨[], rfl, rfl, inert_nil⟩
  | pair c rest hc ih =>
    obtain ⟨signs, hsigns, hchars, hinert⟩ := ih
    refine ⟨.literal c :: .literal c :: signs, ?_, ?_, (hinert.literal c).literal c⟩
    · rw [escapeChars_pair hc, signs?_backslash, signs?_backslash, hsigns]
      rfl
    · rw [List.map_cons, List.map_cons, hchars]
      rfl
  | reserved c rest hc ih =>
    obtain ⟨signs, hsigns, hchars, hinert⟩ := ih
    refine ⟨.literal c :: signs, ?_, ?_, hinert.literal c⟩
    · rw [escapeChars_reserved hc, signs?_backslash, hsigns]
      rfl
    · rw [List.map_cons, hchars]
      rfl
  | plain c rest hc hpair ih =>
    obtain ⟨signs, hsigns, hchars, hinert⟩ := ih
    -- a bare first character after this one would be the first character of the text after it
    have hhead : c ∈ pairedChars → signs.head? ≠ some (.bare c) := by
      intro hmem hbare
      apply hpair hmem
      rw [← hchars, List.head?_map, hbare]
      rfl
    refine ⟨.bare c :: signs, ?_, ?_, hinert.bare hc hhead⟩
    · rw [escapeChars_plain hc hpair, signs?_cons (ne_backslash_of_not_reserved hc), hsigns]
      rfl
    · rw [List.map_cons, hchars]
      rfl

/-! ### What escaping inserts -/

/-- Escaping inserts nothing but backslashes. -/
theorem filter_escapeChars (text : List Char) :
    (escapeChars text).filter (· ≠ '\\') = text.filter (· ≠ '\\') := by
  induction text using scan_induction with
  | nil => rfl
  | pair c rest hc ih => simp only [escapeChars_pair hc, List.filter_cons, ih]; simp
  | reserved c rest hc ih => simp only [escapeChars_reserved hc, List.filter_cons, ih]; simp
  | plain c rest hc hpair ih => simp only [escapeChars_plain hc hpair, List.filter_cons, ih]

theorem mem_escapeChars (hc : c ≠ '\\') : c ∈ escapeChars text ↔ c ∈ text := by
  have h : c ∈ (escapeChars text).filter (· ≠ '\\') ↔ c ∈ text.filter (· ≠ '\\') := by
    rw [filter_escapeChars]
  simpa [hc] using h

/-- Dropping the backslashes of an escaped text gives the text back, and none of them is left
without a character. Escaping inserts only backslashes, one for each character that a token of the
scan covers, so it doubles the text at most. -/
theorem escape_inserts_backslashes (v : String) :
    unescape (escape v).toList = v.toList ∧
    (∃ signs, signs? (escape v).toList = some signs ∧ signs.map Sign.char = v.toList) ∧
    v.toList.Sublist (escape v).toList ∧
    (escape v).toList.filter (· ≠ '\\') = v.toList.filter (· ≠ '\\') ∧
    (escape v).length = v.length + (coveredChars v.toList).length ∧
    (escape v).length ≤ 2 * v.length := by
  obtain ⟨signs, hsigns, hchars, -⟩ := exists_signs_escapeChars v.toList
  have hlength : (escape v).length = v.length + (coveredChars v.toList).length := by
    rw [← String.length_toList, ← String.length_toList, toList_escape, length_escapeChars]
  have hcovered : (coveredChars v.toList).length ≤ v.length := by
    rw [← String.length_toList]
    exact (coveredChars_sublist v.toList).length_le
  rw [toList_escape]
  refine ⟨unescape_escapeChars _, ⟨signs, hsigns, hchars⟩, sublist_escapeChars _,
    filter_escapeChars _, hlength, ?_⟩
  omega

/-! ### Sanitized values -/

theorem mem_sanitizeChars (hc : c ≠ '\\') (hquote : c ≠ '\"') :
    c ∈ sanitizeChars text ↔ c ∈ text := by
  rw [sanitizeChars]
  split
  · simp [hquote, mem_escapeChars hc]
  · exact mem_escapeChars hc

theorem escape_injective : Function.Injective escape := by
  intro v w h
  have hchars : escapeChars v.toList = escapeChars w.toList := by
    rw [← toList_escape, h, toList_escape]
  apply String.toList_injective
  rw [← unescape_escapeChars v.toList, hchars, unescape_escapeChars]

theorem sanitize_injective : Function.Injective sanitize := by
  intro v w h
  have hchars : sanitizeChars v.toList = sanitizeChars w.toList := by
    rw [← toList_sanitize, h, toList_sanitize]
  apply String.toList_injective
  rw [← read_sanitizeChars v.toList, hchars, read_sanitizeChars]

theorem escape_word : ∀ word ∈ operatorWords, escape word = word := by decide

/-- Escaping a text neither makes an operator word of it nor keeps it from being one. -/
theorem escape_mem_operatorWords {v : String} : escape v ∈ operatorWords ↔ v ∈ operatorWords := by
  constructor
  · intro h
    have hv : escape v = v := escape_injective (escape_word _ h)
    rwa [hv] at h
  · intro h
    rwa [escape_word v h]

theorem needsQuoting_iff {v : String} :
    needsQuoting v ↔ ' ' ∈ v.toList ∨ v ∈ operatorWords := by
  rw [needsQuoting, Bool.or_eq_true, List.contains_iff_mem, List.contains_iff_mem]

/-- An escaped text needs quotes exactly if the text itself does. -/
theorem needsQuoting_escape (v : String) : needsQuoting (escape v) = needsQuoting v := by
  rw [Bool.eq_iff_iff, needsQuoting_iff, needsQuoting_iff, toList_escape,
    mem_escapeChars (by decide), escape_mem_operatorWords]

theorem sanitize_of_not_needsQuoting {v : String} (h : needsQuoting v = false) :
    sanitize v = escape v := by
  rw [sanitize, quote, needsQuoting_escape, h, if_neg (by decide)]

theorem sanitize_of_needsQuoting {v : String} (h : needsQuoting v = true) :
    sanitize v = "\"" ++ escape v ++ "\"" := by
  rw [sanitize, quote, needsQuoting_escape, if_pos h]

theorem signs?_quoted (h : signs? text = some signs) :
    signs? ('\"' :: text ++ ['\"']) = some (.bare '\"' :: (signs ++ [.bare '\"'])) := by
  rw [List.cons_append, signs?_cons (by decide), signs?_append h]
  rfl

/-- A sanitized value is one token that stands on its own. A value without spaces that is no
operator word becomes its escaped text, which has no spaces, is no operator word and leaves no token
of the table bare; any other becomes its escaped text between two bare quotes, and no token of the
table is bare between them. So it is the value that decides on the quotes, and different values are
sanitized differently. -/
theorem sanitize_one_token :
    (∀ v : String, ' ' ∉ v.toList → v ∉ operatorWords →
      sanitize v = escape v ∧ ' ' ∉ (sanitize v).toList ∧ sanitize v ∉ operatorWords ∧
      ∃ signs, signs? (sanitize v).toList = some signs ∧ Inert signs) ∧
    (∀ v : String, ' ' ∈ v.toList ∨ v ∈ operatorWords →
      sanitize v = "\"" ++ escape v ++ "\"" ∧
      ∃ signs, signs? (escape v).toList = some signs ∧ Inert signs ∧
        signs? (sanitize v).toList = some (.bare '\"' :: (signs ++ [.bare '\"']))) ∧
    (∀ v : String, needsQuoting (escape v) = needsQuoting v) ∧
    Function.Injective sanitize := by
  refine ⟨fun v hspace hword => ?_, fun v hquoted => ?_, needsQuoting_escape, sanitize_injective⟩
  · have hplain : needsQuoting v = false := by
      rw [Bool.eq_false_iff, Ne, needsQuoting_iff]
      exact fun h => h.elim hspace hword
    obtain ⟨signs, hsigns, -, hinert⟩ := exists_signs_escapeChars v.toList
    rw [sanitize_of_not_needsQuoting hplain, toList_escape, mem_escapeChars (by decide),
      escape_mem_operatorWords]
    exact ⟨rfl, hspace, hword, signs, hsigns, hinert⟩
  · have hneeds : needsQuoting v = true := needsQuoting_iff.mpr hquoted
    obtain ⟨signs, hsigns, -, hinert⟩ := exists_signs_escapeChars v.toList
    have hchars : (sanitize v).toList = '\"' :: escapeChars v.toList ++ ['\"'] := by
      rw [sanitize_of_needsQuoting hneeds]
      simp
    rw [toList_escape, hchars]
    exact ⟨sanitize_of_needsQuoting hneeds, signs, hsigns, hinert, signs?_quoted hsigns⟩

/-- Three ampersands before a backslash at the end, and a phrase that ends in a quote. -/
theorem sanitize_one_token_runs :
    (' ' ∉ "&&&\\".toList ∧ "&&&\\" ∉ operatorWords ∧
      sanitize "&&&\\" = escape "&&&\\" ∧ ' ' ∉ (sanitize "&&&\\").toList ∧
      sanitize "&&&\\" ∉ operatorWords ∧
      ∃ signs, signs? (sanitize "&&&\\").toList = some signs ∧ Inert signs) ∧
    ((' ' ∈ "a \"".toList ∨ "a \"" ∈ operatorWords) ∧
      sanitize "a \"" = "\"" ++ escape "a \"" ++ "\"" ∧
      ∃ signs, signs? (escape "a \"").toList = some signs ∧ Inert signs ∧
        signs? (sanitize "a \"").toList = some (.bare '\"' :: (signs ++ [.bare '\"']))) :=
  ⟨⟨by decide, by decide, sanitize_one_token.1 "&&&\\" (by decide) (by decide)⟩,
    .inl (by decide), sanitize_one_token.2.1 "a \"" (.inl (by decide))⟩

end SolrClause.Literal
