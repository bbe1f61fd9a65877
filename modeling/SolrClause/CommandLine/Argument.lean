/-! Command line arguments. An argument is a sequence of bytes that need not be UTF-8, so it is kept
as characters and stray bytes. -/

namespace SolrClause.CommandLine

/-- A character, or bytes that belong to none. -/
inductive Glyph where
  | char (c : Char)
  | stray (bytes : List UInt8)
  deriving DecidableEq, Repr

namespace Glyph

def isContinuation (b : UInt8) : Bool := 0x80 ≤ b && b ≤ 0xBF

/-- How many bytes follow a first byte, and the bounds of the second byte. -/
def lead? (b : UInt8) : Option (Nat × UInt8 × UInt8) :=
  if 0xC2 ≤ b && b ≤ 0xDF then some (1, 0x80, 0xBF)
  else if b = 0xE0 then some (2, 0xA0, 0xBF)
  else if b = 0xED then some (2, 0x80, 0x9F)
  else if 0xE1 ≤ b && b ≤ 0xEF then some (2, 0x80, 0xBF)
  else if b = 0xF0 then some (3, 0x90, 0xBF)
  else if 0xF1 ≤ b && b ≤ 0xF3 then some (3, 0x80, 0xBF)
  else if b = 0xF4 then some (3, 0x80, 0x8F)
  else none

def tailBits (b : UInt8) : Nat := b.toNat % 0x40

/-- The characters of UTF-8 bytes. Bytes that start a character and do not complete it are stray
together, all others are stray on their own. -/
def decode : List UInt8 → List Glyph
  | [] => []
  | a :: rest =>
    if a < 0x80 then .char (Char.ofNat a.toNat) :: decode rest
    else
      match lead? a with
      | none => .stray [a] :: decode rest
      | some (count, low, high) =>
        match rest with
        | [] => [.stray [a]]
        | b :: rest₁ =>
          if b < low || high < b then .stray [a] :: decode (b :: rest₁)
          else if count = 1 then
            .char (Char.ofNat (a.toNat % 0x20 * 0x40 + tailBits b)) :: decode rest₁
          else
            match rest₁ with
            | [] => [.stray [a, b]]
            | c :: rest₂ =>
              if !isContinuation c then .stray [a, b] :: decode (c :: rest₂)
              else if count = 2 then
                .char (Char.ofNat ((a.toNat % 0x10 * 0x40 + tailBits b) * 0x40 + tailBits c)) ::
                  decode rest₂
              else
                match rest₂ with
                | [] => [.stray [a, b, c]]
                | d :: rest₃ =>
                  if !isContinuation d then .stray [a, b, c] :: decode (d :: rest₃)
                  else
                    .char (Char.ofNat (((a.toNat % 8 * 0x40 + tailBits b) * 0x40 + tailBits c) *
                      0x40 + tailBits d)) :: decode rest₃

def char? : Glyph → Option Char
  | .char c => some c
  | .stray _ => none

/-- The character that shows a glyph: stray bytes are shown by the replacement character. -/
def shown : Glyph → Char
  | .char c => c
  | .stray _ => '\ufffd'

end Glyph

structure Argument where
  glyphs : List Glyph
  deriving DecidableEq, Repr

namespace Argument

def ofChars (text : List Char) : Argument := ⟨text.map .char⟩

def ofString (text : String) : Argument := ofChars text.toList

def ofBytes (bytes : List UInt8) : Argument := ⟨Glyph.decode bytes⟩

def text? (a : Argument) : Option String := (a.glyphs.mapM Glyph.char?).map String.ofList

def shown (a : Argument) : String := String.ofList (a.glyphs.map Glyph.shown)

def isEmpty (a : Argument) : Bool := a.glyphs.isEmpty

/-- Two dashes alone: only operands follow. -/
def isSeparator (a : Argument) : Bool := a.glyphs = [.char '-', .char '-']

/-- The parts before and after the first equals sign. -/
def splitEquals : List Glyph → List Glyph × Option Argument
  | [] => ([], none)
  | g :: rest =>
    if g = .char '=' then ([], some ⟨rest⟩)
    else
      let (name, value) := splitEquals rest
      (g :: name, value)

/-- The name after two dashes, and the value after an equals sign if there is one. -/
def long? (a : Argument) : Option (Argument × Option Argument) :=
  match a.glyphs with
  | .char '-' :: .char '-' :: rest =>
    let (name, value) := splitEquals rest
    some (⟨name⟩, value)
  | _ => none

/-- What stands after a single dash. -/
def cluster? (a : Argument) : Option (List Glyph) :=
  match a.glyphs with
  | .char '-' :: g :: rest => some (g :: rest)
  | _ => none

end Argument

end SolrClause.CommandLine
