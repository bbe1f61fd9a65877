import SolrClause.Json.Value

/-! Numerals: numbers as a JSON text writes them, and the numbers that they stand for. An integer of
more than 64 bits becomes a float, and a float is read with at most two roundings, so it need not be
the nearest one. -/

namespace SolrClause.Json

open SolrClause.Number SolrClause.Text

structure Exponent where
  negative : Bool
  digits : List Char
  deriving DecidableEq, Repr

/-- A number as it is written. No fraction digits stand for no fraction. -/
structure Numeral where
  negative : Bool
  whole : List Char
  fraction : List Char
  exponent : Option Exponent
  deriving DecidableEq, Repr

/-- What keeps a text from being a numeral: it ends where a digit belongs, or has something else
there. -/
inductive NumeralFlaw where
  | cutShort
  | malformed
  deriving DecidableEq, Repr

namespace Numeral

def readDigits (text : List Char) : Except NumeralFlaw (List Char × List Char) :=
  match text with
  | [] => .error .cutShort
  | c :: _ => if isDigit c then .ok (takeDigits text) else .error .malformed

/-- A zero that no digit follows, or digits that do not start with zero. -/
def readWhole (text : List Char) : Except NumeralFlaw (List Char × List Char) :=
  match text with
  | '0' :: rest =>
    match rest with
    | c :: _ => if isDigit c then .error .malformed else .ok (['0'], rest)
    | [] => .ok (['0'], [])
  | _ => readDigits text

def readFraction (text : List Char) : Except NumeralFlaw (List Char × List Char) :=
  match text with
  | '.' :: rest => readDigits rest
  | _ => .ok ([], text)

/-- A sign, if there is one: whether it is a minus, and what follows it. -/
def takeSign (text : List Char) : Bool × List Char :=
  match text with
  | '-' :: rest => (true, rest)
  | '+' :: rest => (false, rest)
  | _ => (false, text)

def readExponent (text : List Char) : Except NumeralFlaw (Option Exponent × List Char) :=
  match text with
  | c :: rest =>
    if c = 'e' ∨ c = 'E' then do
      let (negative, rest) := takeSign rest
      let (digits, rest) ← readDigits rest
      .ok (some ⟨negative, digits⟩, rest)
    else .ok (none, text)
  | [] => .ok (none, [])

/-- The numeral at the front of a text, and what follows it. -/
def read (text : List Char) : Except NumeralFlaw (Numeral × List Char) := do
  let (negative, rest) := match text with
    | '-' :: rest => (true, rest)
    | _ => (false, text)
  let (whole, rest) ← readWhole rest
  let (fraction, rest) ← readFraction rest
  let (exponent, rest) ← readExponent rest
  .ok (⟨negative, whole, fraction, exponent⟩, rest)

/-- Appends digits to a number as long as it stays below `2 ^ 64`. The rest is left over. -/
def gather (value : Nat) : List Char → Nat × List Char
  | [] => (value, [])
  | d :: digits =>
    let longer := 10 * value + digitValue d
    if longer < UInt64.size then gather longer digits else (value, d :: digits)

def greatestPower : Nat := 308

/-- Division by a power of ten, in steps of the greatest one. -/
def shrink (x : Binary64) (k : Nat) : Nat → Binary64
  | 0 => x
  | steps + 1 =>
    if k ≤ greatestPower then x.magnitudeDiv (.powerOfTen k)
    else if x = .zero then x
    else shrink (x.magnitudeDiv (.powerOfTen greatestPower)) (k - greatestPower) steps

/-- The product of a magnitude with a power of ten, unless it is too large. -/
def scale (x : Binary64) (exponent : Int) : Option Binary64 :=
  if exponent < 0 then some (shrink x exponent.natAbs exponent.natAbs)
  else if exponent.natAbs ≤ greatestPower then
    let product := x.magnitudeMul (.powerOfTen exponent.natAbs)
    if product.isInfinite then none else some product
  else if x = .zero then some x
  else none

def exponentValue (n : Numeral) : Int :=
  match n.exponent with
  | none => 0
  | some ⟨negative, digits⟩ =>
    if negative then -(decimalValue digits : Int) else decimalValue digits

/-- An integer, unless it is a negative zero or below the least negative one: those become floats.
-/
def integerValue (negative : Bool) (magnitude : Nat) : Number :=
  if !negative then .integer magnitude
  else if magnitude = 0 ∨ 0x8000000000000000 < magnitude then .float (Binary64.ofNat magnitude).neg
  else .integer (-(magnitude : Int))

/-- The number that a numeral stands for; none if it is too large. Digits are gathered into an
integer of 64 bits. From the first whole digit that does not fit they only raise the exponent, and
fraction digits are dropped from the first that does not fit. -/
def value? (n : Numeral) : Option Number :=
  let (whole, excess) := gather 0 n.whole
  if excess.isEmpty && n.fraction.isEmpty && n.exponent.isNone then
    some (integerValue n.negative whole)
  else
    let (significand, dropped) := gather whole n.fraction
    let places := n.fraction.length - dropped.length
    let exponent : Int := (excess.length : Int) - places + n.exponentValue
    (scale (.ofNat significand) exponent).map fun x => .float (if n.negative then x.neg else x)

end Numeral

end SolrClause.Json
