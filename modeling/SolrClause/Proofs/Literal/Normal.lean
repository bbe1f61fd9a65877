import Mathlib.Data.List.Chain
import Mathlib.Tactic.TFAE
import SolrClause.Proofs.Literal.Signs

/-! The texts that escaping makes, and the texts that it leaves alone. An escaped text is a sequence
of tokens, each with its backslashes, and bare characters, in which no bare character could make a
token with what comes next; every such sequence is the escaped form of one text. A text that holds
no token of the table is its own escaped form, and no other text is. -/

namespace SolrClause.Literal

/-- A token of the table, or a character that is not reserved on its own. -/
def Piece.Legal : Piece → Prop
  | token chars => chars ∈ reservedTokens
  | plain c => isReserved c = false

instance : DecidablePred Piece.Legal
  | .token chars => inferInstanceAs (Decidable (chars ∈ reservedTokens))
  | .plain c => inferInstanceAs (Decidable (isReserved c = false))

/-- A bare character that is reserved when doubled can stand before neither itself nor its pair. -/
def Piece.Precedes : Piece → Piece → Prop
  | token _, _ => True
  | plain c, next => c ∈ pairedChars → next ≠ plain c ∧ next ≠ token [c, c]

instance : DecidableRel Piece.Precedes
  | .token _, _ => inferInstanceAs (Decidable True)
  | .plain c, next =>
    inferInstanceAs (Decidable (c ∈ pairedChars → next ≠ .plain c ∧ next ≠ .token [c, c]))

/-- The sequences of pieces that a scan can take from a text. -/
structure Normal (pieces : List Piece) : Prop where
  legal : ∀ piece ∈ pieces, piece.Legal
  chain : pieces.IsChain Piece.Precedes

/-- A text that is written as such a sequence, with a backslash before each character of a token. -/
def InNormalForm (text : List Char) : Prop :=
  ∃ pieces, Normal pieces ∧ pieces.flatMap Piece.escaped = text

variable {c : Char} {text : List Char} {piece : Piece} {pieces : List Piece}

/-! ### Sequences that a scan takes -/

theorem not_reserved_of_paired (hc : c ∈ pairedChars) : isReserved c = false := by
  simp only [pairedChars, List.mem_cons, List.not_mem_nil, or_false] at hc
  rcases hc with rfl | rfl <;> rfl

theorem normal_nil : Normal [] := ⟨fun _ h => absurd h List.not_mem_nil, List.isChain_nil⟩

theorem normal_cons :
    Normal (piece :: pieces) ↔
      piece.Legal ∧ (∀ next ∈ pieces.head?, piece.Precedes next) ∧ Normal pieces := by
  constructor
  · rintro ⟨hlegal, hchain⟩
    obtain ⟨hhead, htail⟩ := List.isChain_cons.mp hchain
    exact ⟨hlegal piece (by simp), hhead, fun p hp => hlegal p (by simp [hp]), htail⟩
  · rintro ⟨hpiece, hhead, hlegal, hchain⟩
    refine ⟨fun p hp => ?_, List.isChain_cons.mpr ⟨hhead, hchain⟩⟩
    rcases List.mem_cons.mp hp with rfl | hp
    · exact hpiece
    · exact hlegal p hp

/-- A scan starts with a character that is reserved when doubled, bare or doubled, exactly if the
text does. -/
theorem head?_scan (hc : c ∈ pairedChars) :
    (scan text).head? = some (.plain c) ∨ (scan text).head? = some (.token [c, c]) ↔
      text.head? = some c := by
  induction text using scan_induction with
  | nil => simp
  | pair d rest hd _ => simp [scan_pair hd]
  | reserved d rest hd _ =>
    have hne : d ≠ c := ne_of_reserved hd (not_reserved_of_paired hc)
    simp [scan_reserved hd, hne]
  | plain d rest hd hpair _ => simp [scan_plain hd hpair]

/-- A bare character can stand before the scan of a text that does not start with it. -/
theorem precedes_head?_scan (h : c ∈ pairedChars → text.head? ≠ some c) :
    ∀ next ∈ (scan text).head?, (Piece.plain c).Precedes next := by
  intro next hnext hc
  have hhead := h hc
  rw [Ne, ← head?_scan hc, Option.mem_def.mp hnext, Option.some_inj, Option.some_inj] at hhead
  exact not_or.mp hhead

theorem normal_scan (text : List Char) : Normal (scan text) := by
  induction text using scan_induction with
  | nil =>
    rw [scan_nil]
    exact normal_nil
  | pair c rest hc ih =>
    rw [scan_pair hc, normal_cons]
    exact ⟨pair_mem_reservedTokens hc, fun _ _ => trivial, ih⟩
  | reserved c rest hc ih =>
    rw [scan_reserved hc, normal_cons]
    exact ⟨single_mem_reservedTokens hc, fun _ _ => trivial, ih⟩
  | plain c rest hc hpair ih =>
    rw [scan_plain hc hpair, normal_cons]
    exact ⟨hc, precedes_head?_scan hpair, ih⟩

/-- The scan of the characters of a normal sequence gives the sequence back. -/
theorem scan_flatMap_source (h : Normal pieces) : scan (pieces.flatMap Piece.source) = pieces := by
  induction pieces with
  | nil => rw [List.flatMap_nil, scan_nil]
  | cons piece pieces ih =>
    obtain ⟨hlegal, hhead, htail⟩ := normal_cons.mp h
    have hrest := ih htail
    rw [List.flatMap_cons]
    cases piece with
    | token chars => rw [Piece.source, scan_token hlegal, hrest]
    | plain c =>
      have hpair : c ∈ pairedChars → (pieces.flatMap Piece.source).head? ≠ some c := by
        intro hc hnext
        rw [← head?_scan hc, hrest] at hnext
        rcases hnext with hnext | hnext
        · exact (hhead _ hnext hc).1 rfl
        · exact (hhead _ hnext hc).2 rfl
      rw [Piece.source, List.singleton_append, scan_plain hlegal hpair, hrest]

/-! ### Escaped texts -/

theorem inNormalForm_escapeChars (text : List Char) : InNormalForm (escapeChars text) :=
  ⟨scan text, normal_scan text, (escapeChars_eq_scan text).symm⟩

/-- The texts in normal form are those that unescaping and escaping again leave alone. -/
theorem inNormalForm_iff : InNormalForm text ↔ escapeChars (unescape text) = text := by
  constructor
  · rintro ⟨pieces, hnormal, rfl⟩
    have h : escapeChars (pieces.flatMap Piece.source) = pieces.flatMap Piece.escaped := by
      rw [escapeChars_eq_scan, scan_flatMap_source hnormal]
    rw [← h, unescape_escapeChars]
  · intro h
    rw [← h]
    exact inNormalForm_escapeChars _

instance : DecidablePred InNormalForm := fun _ => decidable_of_iff _ inNormalForm_iff.symm

/-- Escaping gives exactly the texts in normal form, and a text in normal form is the escaped form
of what unescaping makes of it. -/
theorem escape_range :
    (∀ w : String, (∃ v, escape v = w) ↔ InNormalForm w.toList) ∧
    ∀ w : String, InNormalForm w.toList → escape (String.ofList (unescape w.toList)) = w := by
  have hback (w : String) (h : InNormalForm w.toList) :
      escape (String.ofList (unescape w.toList)) = w := by
    rw [escape, String.toList_ofList, inNormalForm_iff.mp h, String.ofList_toList]
  refine ⟨fun w => ⟨?_, fun h => ⟨_, hback w h⟩⟩, hback⟩
  rintro ⟨v, rfl⟩
  rw [toList_escape]
  exact inNormalForm_escapeChars _

/-- A pair before a bare ampersand, which stands before a reserved character. -/
theorem escape_range_run :
    InNormalForm "\\&\\&&\\*".toList ∧
      escape (String.ofList (unescape "\\&\\&&\\*".toList)) = "\\&\\&&\\*" := by
  have h : InNormalForm "\\&\\&&\\*".toList :=
    ⟨[.token ['&', '&'], .plain '&', .token ['*']], ⟨by decide, by decide⟩, by decide⟩
  exact ⟨h, escape_range.2 _ h⟩

/-- A bare ampersand stands after a pair, and not before one. -/
example : InNormalForm "\\&\\&&".toList ∧ ¬InNormalForm "&\\&\\&".toList := by decide

/-! ### Texts that escaping leaves alone -/

/-- A scan covers nothing exactly if no token occurs in the text, at whatever place. -/
theorem coveredChars_eq_nil_iff :
    coveredChars text = [] ↔ ∀ token ∈ reservedTokens, ¬token <:+: text := by
  induction text using scan_induction with
  | nil =>
    refine iff_of_true (by rw [coveredChars, scan_nil, List.flatMap_nil]) fun token ht hinfix => ?_
    rw [List.infix_nil.mp hinfix] at ht
    exact absurd ht (by decide)
  | pair c rest hc _ =>
    refine iff_of_false (by simp [coveredChars, scan_pair hc, Piece.covered]) fun h => ?_
    exact h [c, c] (pair_mem_reservedTokens hc) ⟨[], rest, rfl⟩
  | reserved c rest hc _ =>
    refine iff_of_false (by simp [coveredChars, scan_reserved hc, Piece.covered]) fun h => ?_
    exact h [c] (single_mem_reservedTokens hc) ⟨[], rest, rfl⟩
  | plain c rest hc hpair ih =>
    have hcovered : coveredChars (c :: rest) = coveredChars rest := by
      rw [coveredChars, scan_plain hc hpair, List.flatMap_cons]
      rfl
    rw [hcovered, ih]
    refine forall₂_congr fun token ht => not_congr ?_
    rw [List.infix_cons_iff, or_iff_right (not_isPrefix_cons hc hpair ht)]

/-- Escaping leaves exactly those texts alone of which a scan covers nothing. -/
theorem escapeChars_eq_self_iff : escapeChars text = text ↔ coveredChars text = [] := by
  have hlength := length_escapeChars text
  constructor
  · intro h
    rw [h] at hlength
    exact List.length_eq_zero_iff.mp (by omega)
  · intro h
    rw [h, List.length_nil, Nat.add_zero] at hlength
    exact ((sublist_escapeChars text).eq_of_length hlength.symm).symm

theorem escape_eq_self_iff {v : String} :
    escape v = v ↔ ∀ token ∈ reservedTokens, ¬token <:+: v.toList := by
  rw [← coveredChars_eq_nil_iff, ← escapeChars_eq_self_iff, ← String.toList_inj, toList_escape]

/-- A value in quotes is longer than the value. -/
theorem sanitize_ne_self_of_needsQuoting {v : String} (h : needsQuoting v = true) :
    sanitize v ≠ v := by
  intro heq
  have hlength := congrArg String.length heq
  have hescaped := length_escapeChars v.toList
  rw [← toList_escape, String.length_toList, String.length_toList] at hescaped
  rw [sanitize_of_needsQuoting h, String.length_append, String.length_append] at hlength
  have hquote : "\"".length = 1 := rfl
  omega

/-- Escaping leaves a value alone exactly if a second escaping changes nothing more, and exactly if
no token of the table occurs in the value. Sanitizing leaves alone those of these values that have
no space and are no operator word. -/
theorem escape_eq_self_tfae (v : String) :
    [escape v = v,
      escape (escape v) = escape v,
      ∀ token ∈ reservedTokens, ¬token <:+: v.toList].TFAE ∧
    (sanitize v = v ↔
      (∀ token ∈ reservedTokens, ¬token <:+: v.toList) ∧ ' ' ∉ v.toList ∧ v ∉ operatorWords) := by
  constructor
  · tfae_have 1 ↔ 3 := escape_eq_self_iff
    tfae_have 1 → 2 := congrArg escape
    tfae_have 2 → 1 := fun h => escape_injective h
    tfae_finish
  · rw [← not_or, ← needsQuoting_iff, ← escape_eq_self_iff]
    cases hneeds : needsQuoting v with
    | false => simp [sanitize_of_not_needsQuoting hneeds]
    | true => simp [sanitize_ne_self_of_needsQuoting hneeds]

end SolrClause.Literal
