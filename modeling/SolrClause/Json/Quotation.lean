import SolrClause.Json.Fault

/-! Quotations: strings as a JSON text writes them. The escapes are kept as they stand, since a
string that is skipped may hold half a surrogate pair and one that is used may not. -/

namespace SolrClause.Json

/-- A character that stands for itself, one written with a short escape, or a code unit of UTF-16.
-/
inductive Piece where
  | plain (c : Char)
  | escaped (c : Char)
  | unit (value : Nat)
  deriving DecidableEq, Repr

/-- How a quotation ends: with its closing quote, or at the first thing that cannot be part of it.
-/
inductive QuotationEnd where
  | closed
  | cutShort
  | control
  | unknownEscape
  | badHex
  deriving DecidableEq, Repr

structure Quotation where
  pieces : List Piece
  close : QuotationEnd
  deriving DecidableEq, Repr

def shortEscape? (c : Char) : Option Char :=
  if c = '\"' ∨ c = '\\' ∨ c = '/' then some c
  else if c = 'b' then some '\x08'
  else if c = 'f' then some '\x0c'
  else if c = 'n' then some '\n'
  else if c = 'r' then some '\r'
  else if c = 't' then some '\t'
  else none

def codeUnit? (a b c d : Char) : Option Nat := do
  let a ← Text.hexValue? a
  let b ← Text.hexValue? b
  let c ← Text.hexValue? c
  let d ← Text.hexValue? d
  some (((a * 16 + b) * 16 + c) * 16 + d)

namespace Quotation

def cons (piece : Piece) (read : Quotation × List Char) : Quotation × List Char :=
  (⟨piece :: read.1.pieces, read.1.close⟩, read.2)

def byteLength (text : List Char) : Nat := text.foldr (fun c size => c.utf8Size + size) 0

/-- The quotation whose opening quote stands before a text, and what follows it. Four bytes must be
left for the digits of a code unit. -/
def read : List Char → Quotation × List Char
  | [] => (⟨[], .cutShort⟩, [])
  | c :: rest =>
    if c = '\"' then (⟨[], .closed⟩, rest)
    else if c = '\\' then
      match rest with
      | [] => (⟨[], .cutShort⟩, [])
      | e :: more =>
        if e = 'u' then
          match more with
          | h₁ :: h₂ :: h₃ :: h₄ :: after =>
            match codeUnit? h₁ h₂ h₃ h₄ with
            | some unit => cons (.unit unit) (read after)
            | none => (⟨[], .badHex⟩, [])
          | short => (⟨[], if byteLength short < 4 then .cutShort else .badHex⟩, [])
        else
          match shortEscape? e with
          | some c => cons (.escaped c) (read more)
          | none => (⟨[], .unknownEscape⟩, [])
    else if c.toNat < 0x20 then (⟨[], .control⟩, [])
    else cons (.plain c) (read rest)

end Quotation

namespace QuotationEnd

def fault? : QuotationEnd → Option Fault
  | .closed => none
  | .cutShort => some (.endOfText .string)
  | .control => some .controlCharacter
  | .unknownEscape => some .badEscape
  | .badHex => some .badEscape

/-- What is wrong when half a surrogate pair comes right before the end of a quotation. -/
def faultAfterHigh : QuotationEnd → Fault
  | .cutShort => .endOfText .string
  | .badHex => .badEscape
  | .closed => .cutSurrogatePair
  | .control => .cutSurrogatePair
  | .unknownEscape => .cutSurrogatePair

end QuotationEnd

def isHighSurrogate (unit : Nat) : Bool := 0xD800 ≤ unit && unit ≤ 0xDBFF

def isLowSurrogate (unit : Nat) : Bool := 0xDC00 ≤ unit && unit ≤ 0xDFFF

def surrogatePair (high low : Nat) : Char :=
  Char.ofNat (0x10000 + (high - 0xD800) * 0x400 + (low - 0xDC00))

/-- The characters of pieces up to an end. A high surrogate must be followed by a low one. -/
def decode (close : QuotationEnd) : List Piece → Except Fault (List Char)
  | [] =>
    match close.fault? with
    | none => .ok []
    | some fault => .error fault
  | .plain c :: rest => (decode close rest).map (c :: ·)
  | .escaped c :: rest => (decode close rest).map (c :: ·)
  | .unit unit :: rest =>
    if isLowSurrogate unit then .error .loneSurrogate
    else if isHighSurrogate unit then
      match rest with
      | .unit low :: more =>
        if isLowSurrogate low then (decode close more).map (surrogatePair unit low :: ·)
        else .error .loneSurrogate
      | _ :: _ => .error .cutSurrogatePair
      | [] => .error close.faultAfterHigh
    else (decode close rest).map (Char.ofNat unit :: ·)

namespace Quotation

def text (q : Quotation) : Except Fault String := (decode q.close q.pieces).map String.ofList

/-- A quotation that is skipped only has to be closed. -/
def skip (q : Quotation) : Except Fault Unit :=
  match q.close.fault? with
  | none => .ok ()
  | some fault => .error fault

end Quotation

end SolrClause.Json
