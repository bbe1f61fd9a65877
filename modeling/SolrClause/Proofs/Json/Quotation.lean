import SolrClause.Json.Quotation
import SolrClause.Json.Value

/-! Quotations are read as they are written, whichever escapes they use. Strings survive quoting:
each character of a string becomes one piece of a quotation, and the pieces stand for the characters
again. -/

namespace SolrClause.Json

/-- The piece that a character of a string is written as. -/
def Piece.ofChar (c : Char) : Piece :=
  if c = '\"' ∨ c = '\\' then .escaped c
  else if c.toNat = 0x08 ∨ c.toNat = 0x09 ∨ c.toNat = 0x0A ∨ c.toNat = 0x0C ∨ c.toNat = 0x0D then
    .escaped c
  else if c.toNat < 0x20 then .unit c.toNat
  else .plain c

/-- A control without a short escape is written with two hexadecimal digits after two zeros. -/
theorem codeUnit?_control : ∀ n < 0x20,
    (if n < 0x10 then ['0'] else []) ++ Text.hexDigits n =
      [Nat.digitChar (n / 16), Nat.digitChar (n % 16)] ∧
    codeUnit? '0' '0' (Nat.digitChar (n / 16)) (Nat.digitChar (n % 16)) = some n := by
  decide

/-- The text writes the piece inside a quotation. -/
inductive Piece.Writes : List Char → Piece → Prop
  | plain {c : Char} (hquote : c ≠ '\"') (hbackslash : c ≠ '\\') (hprints : 0x20 ≤ c.toNat) :
      Writes [c] (.plain c)
  | escaped {c e : Char} (hunit : e ≠ 'u') (h : shortEscape? e = some c) :
      Writes ['\\', e] (.escaped c)
  | unit {a b c d : Char} {n : Nat} (h : codeUnit? a b c d = some n) :
      Writes ['\\', 'u', a, b, c, d] (.unit n)

namespace Quotation

/-- The text writes the quotation, from after its opening quote to its closing one. -/
inductive Writes : List Char → Quotation → Prop
  | close : Writes ['\"'] ⟨[], .closed⟩
  | next {text rest : List Char} {piece : Piece} {q : Quotation} (hpiece : piece.Writes text)
      (hrest : Writes rest q) : Writes (text ++ rest) ⟨piece :: q.pieces, q.close⟩

variable {rest : List Char}

theorem read_quote : read ('\"' :: rest) = (⟨[], .closed⟩, rest) := by
  rw [read.eq_def]
  rfl

theorem read_plain {c : Char} (hquote : c ≠ '\"') (hbackslash : c ≠ '\\')
    (hprints : 0x20 ≤ c.toNat) : read (c :: rest) = cons (.plain c) (read rest) := by
  rw [read.eq_def]
  simp only [if_neg hquote, if_neg hbackslash, if_neg (Nat.not_lt.mpr hprints)]

theorem read_unit {a b c d : Char} {n : Nat} (h : codeUnit? a b c d = some n) :
    read ('\\' :: 'u' :: a :: b :: c :: d :: rest) = cons (.unit n) (read rest) := by
  rw [read.eq_def]
  simp only [h]
  rfl

theorem read_short {c e : Char} (hunit : e ≠ 'u') (h : shortEscape? e = some c) :
    read ('\\' :: e :: rest) = cons (.escaped c) (read rest) := by
  rw [read.eq_def]
  simp only [if_neg hunit, h]
  rfl

theorem read_piece {text : List Char} {piece : Piece} (h : piece.Writes text) :
    read (text ++ rest) = cons piece (read rest) := by
  cases h with
  | plain hquote hbackslash hprints => exact read_plain hquote hbackslash hprints
  | escaped hunit h => exact read_short hunit h
  | unit h => exact read_unit h

/-- A quotation is read up to its closing quote, whatever follows. -/
theorem read_writes {text : List Char} {q : Quotation} (h : q.Writes text) :
    read (text ++ rest) = (q, rest) := by
  induction h with
  | close => exact read_quote
  | next hpiece hrest ih => rw [List.append_assoc, read_piece hpiece, ih, cons]

/-! ### The quotation of a string -/

/-- The escaped form of a character writes its piece. -/
theorem writes_escapedChar (c : Char) : (Piece.ofChar c).Writes (escapedChar c) := by
  have heq {d : Char} (h : c.toNat = d.toNat) : c = d := Char.toNat_inj.mp h
  by_cases hquote : c = '\"'
  · subst hquote
    exact .escaped (e := '\"') (by decide) rfl
  by_cases hbackslash : c = '\\'
  · subst hbackslash
    exact .escaped (e := '\\') (by decide) rfl
  by_cases hbackspace : c.toNat = 0x08
  · cases heq (d := '\x08') hbackspace
    exact .escaped (e := 'b') (by decide) rfl
  by_cases htab : c.toNat = 0x09
  · cases heq (d := '\t') htab
    exact .escaped (e := 't') (by decide) rfl
  by_cases hline : c.toNat = 0x0A
  · cases heq (d := '\n') hline
    exact .escaped (e := 'n') (by decide) rfl
  by_cases hfeed : c.toNat = 0x0C
  · cases heq (d := '\x0c') hfeed
    exact .escaped (e := 'f') (by decide) rfl
  by_cases hreturn : c.toNat = 0x0D
  · cases heq (d := '\r') hreturn
    exact .escaped (e := 'r') (by decide) rfl
  have hpiece : Piece.ofChar c = if c.toNat < 0x20 then .unit c.toNat else .plain c := by
    have hnone : ¬(c = '\"' ∨ c = '\\') := not_or.mpr ⟨hquote, hbackslash⟩
    rw [Piece.ofChar, if_neg hnone, if_neg (by omega)]
  rw [hpiece, escapedChar, if_neg hquote, if_neg hbackslash, if_neg hbackspace, if_neg htab,
    if_neg hline, if_neg hfeed, if_neg hreturn]
  split
  · rename_i hcontrol
    obtain ⟨hdigits, hunit⟩ := codeUnit?_control c.toNat hcontrol
    rw [List.cons_append, List.cons_append, List.cons_append, List.cons_append, hdigits]
    exact .unit hunit
  · rename_i hprints
    exact .plain hquote hbackslash (Nat.not_lt.mp hprints)

def ofText (text : String) : Quotation := ⟨text.toList.map .ofChar, .closed⟩

theorem writes_escaped (chars : List Char) :
    Writes (chars.flatMap escapedChar ++ ['\"']) ⟨chars.map .ofChar, .closed⟩ := by
  induction chars with
  | nil => exact .close
  | cons c chars ih =>
    rw [List.flatMap_cons, List.append_assoc]
    exact .next (writes_escapedChar c) ih

/-- A string is written between quotes. -/
theorem writes_ofText (text : String) : (ofText text).Writes (stringChars text).tail :=
  writes_escaped text.toList

theorem decode_ofChar (chars : List Char) : decode .closed (chars.map .ofChar) = .ok chars := by
  induction chars with
  | nil => rfl
  | cons c chars ih =>
    rw [List.map_cons, Piece.ofChar]
    split
    · rw [decode, ih]
      rfl
    · split
      · rw [decode, ih]
        rfl
      · split
        · rename_i hcontrol
          have hlow : isLowSurrogate c.toNat = false := by
            simp only [isLowSurrogate, Bool.and_eq_false_iff, decide_eq_false_iff_not]
            omega
          have hhigh : isHighSurrogate c.toNat = false := by
            simp only [isHighSurrogate, Bool.and_eq_false_iff, decide_eq_false_iff_not]
            omega
          rw [decode.eq_def]
          simp [hlow, hhigh, ih, Except.map]
        · rw [decode, ih]
          rfl

/-- The quotation of a string stands for that string. -/
@[simp] theorem text_ofText (text : String) : (ofText text).text = .ok text := by
  rw [Quotation.text, ofText, decode_ofChar]
  exact congrArg Except.ok (String.ofList_toList)

end Quotation

end SolrClause.Json
