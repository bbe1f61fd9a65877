/-! Double-precision numbers as bit patterns. Two are equal exactly when their bits are, and
arithmetic is exact on natural numbers with one rounding at the end. -/

namespace SolrClause.Number

structure Binary64 where
  bits : UInt64
  deriving DecidableEq, Repr

namespace Binary64

/-- What a bit pattern stands for. A finite number is `significand * 2 ^ exponent`, with a sign. -/
inductive Content where
  | notANumber
  | infinite (negative : Bool)
  | finite (negative : Bool) (significand : Nat) (exponent : Int)
  deriving DecidableEq, Repr

/-- The bit of the sign, `2 ^ 63`. -/
def signBit : Nat := 0x8000000000000000

/-- The least significand of a number that is not below the least exponent, `2 ^ 52`. -/
def leadingBit : Nat := 0x10000000000000

def magnitudeBits (x : Binary64) : Nat := x.bits.toNat % signBit

def isNegative (x : Binary64) : Bool := signBit ≤ x.bits.toNat

/-- The bits of infinity: the least magnitude that is not finite. -/
def infinityBits : Nat := 0x7FF0000000000000

/-- The exponent of the last place of the smallest numbers. -/
def leastExponent : Int := -1074

def content (x : Binary64) : Content :=
  let field : Nat := x.magnitudeBits / leadingBit
  let fraction : Nat := x.magnitudeBits % leadingBit
  if field = 0 then .finite x.isNegative fraction leastExponent
  else if field < 2047 then
    .finite x.isNegative (leadingBit + fraction) ((field : Int) - 1 + leastExponent)
  else if fraction = 0 then .infinite x.isNegative
  else .notANumber

def ofMagnitude (negative : Bool) (magnitude : Nat) : Binary64 :=
  ⟨UInt64.ofNat (if negative then signBit + magnitude else magnitude)⟩

def zero : Binary64 := ofMagnitude false 0

def infinity : Binary64 := ofMagnitude false infinityBits

def neg (x : Binary64) : Binary64 := ofMagnitude (!x.isNegative) x.magnitudeBits

def isInfinite (x : Binary64) : Bool := x.magnitudeBits = infinityBits

/-- `significand * 2 ^ exponent` as a quotient of natural numbers. -/
def scaled (significand : Nat) (exponent : Int) : Nat × Nat :=
  (significand <<< exponent.toNat, 1 <<< (-exponent).toNat)

/-- The whole number nearest to a quotient; a tie goes to the even one. -/
def nearestWhole (numerator denominator : Nat) : Nat :=
  let quotient := numerator / denominator
  let twice := 2 * (numerator % denominator)
  if twice < denominator then quotient
  else if denominator < twice then quotient + 1
  else quotient + quotient % 2

/-- A quotient in units of `2 ^ exponent`. -/
def inUnits (numerator denominator : Nat) (exponent : Int) : Nat × Nat :=
  (numerator <<< (-exponent).toNat, denominator <<< exponent.toNat)

/-- The exponent of the last place that the number nearest to a positive quotient has: 53 binary
digits are kept, fewer below the least exponent. -/
def lastPlace (numerator denominator : Nat) : Int :=
  let low : Int := (numerator.log2 : Int) - denominator.log2 - 53
  let (top, bottom) := inUnits numerator denominator low
  max leastExponent (if bottom <<< 53 ≤ top then low + 1 else low)

/-- The number nearest to a quotient; a tie goes to the even significand, and what is too large is
infinite. A significand that rounds up to a power of two carries into the exponent. -/
def ofRatio (numerator denominator : Nat) : Binary64 :=
  if numerator = 0 then zero
  else
    let place := lastPlace numerator denominator
    let (top, bottom) := inUnits numerator denominator place
    let magnitude := (place - leastExponent).toNat * leadingBit + nearestWhole top bottom
    if magnitude < infinityBits then ofMagnitude false magnitude else infinity

def ofNat (n : Nat) : Binary64 := ofRatio n 1

/-- The magnitude as a quotient of natural numbers, for a finite number. -/
def ratio? (x : Binary64) : Option (Nat × Nat) :=
  match x.content with
  | .finite _ significand exponent => some (scaled significand exponent)
  | _ => none

/-- The magnitude of the product, rounded once; infinite unless both numbers are finite. -/
def magnitudeMul (x y : Binary64) : Binary64 :=
  match x.ratio?, y.ratio? with
  | some (a, b), some (c, d) => ofRatio (a * c) (b * d)
  | _, _ => infinity

/-- The magnitude of the quotient, rounded once; infinite unless both numbers are finite and the
divisor is not zero. -/
def magnitudeDiv (x y : Binary64) : Binary64 :=
  match x.ratio?, y.ratio? with
  | some (a, b), some (c, d) => if c = 0 then infinity else ofRatio (a * d) (b * c)
  | _, _ => infinity

def powerOfTen (k : Nat) : Binary64 := ofNat (Nat.pow 10 k)

end Binary64

end SolrClause.Number
