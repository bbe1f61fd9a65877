import SolrClause.Proofs.Json.Value

/-! The text of a value on one line has no control characters, since strings escape theirs. So it is
a single line whatever the strings in it are. -/

namespace SolrClause.Json

/-- The text holds no control characters. -/
def Printable (text : List Char) : Prop := ∀ c ∈ text, 0x20 ≤ c.toNat

section Printable

variable {text rest : List Char} {c : Char}

@[simp] theorem printable_nil : Printable [] := fun _ h => absurd h List.not_mem_nil

@[simp] theorem printable_cons : Printable (c :: text) ↔ 0x20 ≤ c.toNat ∧ Printable text :=
  List.forall_mem_cons

@[simp] theorem printable_append : Printable (text ++ rest) ↔ Printable text ∧ Printable rest :=
  List.forall_mem_append

theorem Printable.newline_notMem (h : Printable text) : '\n' ∉ text := by
  intro hmem
  exact absurd (h '\n' hmem) (by decide)

end Printable

theorem le_toNat_of_le {a c : Char} (ha : 0x20 ≤ a.toNat) (h : a ≤ c) : 0x20 ≤ c.toNat :=
  Nat.le_trans ha (UInt32.le_iff_toNat_le.mp (Char.le_def.mp h))

theorem le_toNat_of_isDigit {c : Char} (h : Text.isDigit c = true) : 0x20 ≤ c.toNat := by
  simp only [Text.isDigit, Bool.and_eq_true, decide_eq_true_eq] at h
  exact le_toNat_of_le (by decide) h.1

theorem printable_of_isDigit {ds : List Char} (h : ∀ c ∈ ds, Text.isDigit c = true) :
    Printable ds :=
  fun c hc => le_toNat_of_isDigit (h c hc)

/-! ### Strings -/

theorem le_toNat_of_hexValue {c : Char} {n : Nat} (h : Text.hexValue? c = some n) :
    0x20 ≤ c.toNat := by
  rw [Text.hexValue?] at h
  split at h
  · exact le_toNat_of_isDigit ‹_›
  · split at h
    · rename_i hsmall
      simp only [Bool.and_eq_true, decide_eq_true_eq] at hsmall
      exact le_toNat_of_le (by decide) hsmall.1
    · split at h
      · rename_i hlarge
        simp only [Bool.and_eq_true, decide_eq_true_eq] at hlarge
        exact le_toNat_of_le (by decide) hlarge.1
      · cases h

theorem le_toNat_of_shortEscape {c e : Char} (h : shortEscape? e = some c) : 0x20 ≤ e.toNat := by
  refine Nat.not_lt.mp fun hlow => ?_
  have hne (d : Char) (hd : 0x20 ≤ d.toNat) : e ≠ d :=
    fun heq => absurd hlow (Nat.not_lt.mpr (heq ▸ hd))
  have hnone : ¬(e = '\"' ∨ e = '\\' ∨ e = '/') := by
    simp [hne '\"' (by decide), hne '\\' (by decide), hne '/' (by decide)]
  rw [shortEscape?, if_neg hnone, if_neg (hne 'b' (by decide)), if_neg (hne 'f' (by decide)),
    if_neg (hne 'n' (by decide)), if_neg (hne 'r' (by decide)), if_neg (hne 't' (by decide))] at h
  cases h

theorem Piece.Writes.printable {text : List Char} {piece : Piece} (h : piece.Writes text) :
    Printable text := by
  cases h with
  | plain hquote hbackslash hprints => simpa using hprints
  | escaped hunit h =>
    rw [printable_cons, printable_cons]
    exact ⟨by decide, le_toNat_of_shortEscape h, printable_nil⟩
  | unit h =>
    simp only [codeUnit?, bind, Option.bind_eq_some_iff] at h
    obtain ⟨n₁, h₁, n₂, h₂, n₃, h₃, n₄, h₄, -⟩ := h
    simp only [printable_cons]
    exact ⟨by decide, by decide, le_toNat_of_hexValue h₁, le_toNat_of_hexValue h₂,
      le_toNat_of_hexValue h₃, le_toNat_of_hexValue h₄, printable_nil⟩

theorem Quotation.Writes.printable {text : List Char} {q : Quotation} (h : q.Writes text) :
    Printable text := by
  induction h with
  | close => exact printable_cons.mpr ⟨by decide, printable_nil⟩
  | next hpiece hrest ih => exact printable_append.mpr ⟨hpiece.printable, ih⟩

theorem printable_stringChars (s : String) : Printable (stringChars s) :=
  printable_cons.mpr ⟨by decide, (Quotation.writes_ofText s).printable⟩

/-! ### Numbers -/

theorem Numeral.Writes.printable {text : List Char} {n : Numeral} (h : n.Writes text) :
    Printable text := by
  cases h with
  | @mk negative whole fraction power exponent hwhole hfraction hexponent =>
    have hsign : Printable (if negative then ['-'] else []) := by
      cases negative with
      | true => exact printable_cons.mpr ⟨by decide, printable_nil⟩
      | false => exact printable_nil
    have hpoint : Printable (fractionChars fraction) := by
      cases fraction with
      | nil => exact printable_nil
      | cons d ds => exact printable_cons.mpr ⟨by decide, printable_of_isDigit hfraction⟩
    have hpower : Printable power := by
      cases hexponent with
      | none => exact printable_nil
      | some hmark hsign hne hds =>
        refine printable_cons.mpr ⟨?_, printable_append.mpr ⟨?_, printable_of_isDigit hds⟩⟩
        · rcases hmark with rfl | rfl <;> decide
        · cases hsign with
          | minus => exact printable_cons.mpr ⟨by decide, printable_nil⟩
          | plus => exact printable_cons.mpr ⟨by decide, printable_nil⟩
          | bare => exact printable_nil
    simp only [printable_append]
    exact ⟨hsign, printable_of_isDigit hwhole.isDigit, hpoint, hpower⟩

theorem printable_numberChars (n : Number) : Printable (numberChars n) := by
  have h := writes_numberChars n
  generalize numberChars n = text at h
  cases n with
  | integer n =>
    cases h with
    | number h => exact h.printable
  | float x =>
    rw [Number.document] at h
    split at h
    · cases h with
      | number h => exact h.printable
    · cases h
      simp

/-! ### Values -/

theorem printable_intercalate {parts : List (List Char)} (h : ∀ part ∈ parts, Printable part) :
    Printable ([','].intercalate parts) := by
  cases parts with
  | nil => exact printable_nil
  | cons part parts =>
    rw [intercalate_cons, printable_append]
    refine ⟨h part List.mem_cons_self, fun c hc => ?_⟩
    obtain ⟨next, hnext, hc⟩ := List.mem_flatMap.mp hc
    rcases List.mem_cons.mp hc with rfl | hc
    · decide
    · exact h next (List.mem_cons_of_mem part hnext) c hc

/-- Parts between brackets, separated by commas. -/
theorem printable_bracketed {first last : Char} (hfirst : 0x20 ≤ first.toNat)
    (hlast : 0x20 ≤ last.toNat) {parts : List (List Char)} (h : ∀ part ∈ parts, Printable part) :
    Printable (first :: [','].intercalate parts ++ [last]) := by
  rw [List.cons_append, printable_cons, printable_append, printable_cons]
  exact ⟨hfirst, printable_intercalate h, hlast, printable_nil⟩

mutual

theorem Value.printable_compactChars (v : Value) : Printable v.compactChars := by
  cases v with
  | null => simp [Value.compactChars]
  | boolean b => cases b <;> simp [Value.compactChars, wordChars]
  | number n => exact printable_numberChars n
  | string s => exact printable_stringChars s
  | array items => exact printable_bracketed (by decide) (by decide) (printable_compactItems items)
  | object members =>
    exact printable_bracketed (by decide) (by decide) (printable_compactMembers members)

theorem printable_compactItems (items : List Value) :
    ∀ part ∈ compactItems items, Printable part := by
  cases items with
  | nil => exact fun part hpart => absurd hpart List.not_mem_nil
  | cons item rest =>
    exact List.forall_mem_cons.mpr ⟨item.printable_compactChars, printable_compactItems rest⟩

theorem printable_compactMembers (members : List (String × Value)) :
    ∀ part ∈ compactMembers members, Printable part := by
  cases members with
  | nil => exact fun part hpart => absurd hpart List.not_mem_nil
  | cons member rest =>
    refine List.forall_mem_cons.mpr ⟨?_, printable_compactMembers rest⟩
    exact printable_append.mpr ⟨printable_stringChars member.1,
      printable_cons.mpr ⟨by decide, member.2.printable_compactChars⟩⟩

end

end SolrClause.Json
