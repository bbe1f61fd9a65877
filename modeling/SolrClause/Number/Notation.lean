import SolrClause.Number.Shortest

/-! Writing decimals: positional notation, scientific notation, and the styles that choose between
them. -/

namespace SolrClause.Number

def digits (n : Nat) : List Char := Nat.toDigits 10 n

def paddedDigits (width n : Nat) : List Char :=
  List.replicate (width - (digits n).length) '0' ++ digits n

namespace Decimal

def leadingExponent (d : Decimal) : Int := (digits d.coefficient).length - 1 + d.exponent

/-- All digits in their places. -/
def positional (d : Decimal) : List Char :=
  let ds := digits d.coefficient
  if 0 ≤ d.exponent then ds ++ List.replicate d.exponent.toNat '0'
  else
    let places := (-d.exponent).toNat
    if places < ds.length then ds.take (ds.length - places) ++ '.' :: ds.drop (ds.length - places)
    else '0' :: '.' :: (List.replicate (places - ds.length) '0' ++ ds)

/-- One digit, the rest after a point, and the signed exponent. -/
def scientific (d : Decimal) : List Char :=
  let exponent := d.leadingExponent
  let mantissa := match digits d.coefficient with
    | first :: second :: rest => first :: '.' :: second :: rest
    | single => single
  mantissa ++ 'e' :: (if exponent < 0 then '-' else '+') :: digits exponent.natAbs

end Decimal

structure Style where
  tie : Tie
  /-- Leading exponents from the first up to the second, this one excluded, are positional. No
  bounds: all of them are. -/
  positionalExponents : Option (Int × Int)
  /-- A whole number in positional notation ends in a point and a zero. -/
  markWhole : Bool

namespace Style

/-- Every digit in its place, as few as identify the number. -/
def plain : Style := ⟨.up, none, false⟩

/-- Very small and very large numbers are scientific, and no number looks like an integer. -/
def json : Style := ⟨.even, some (-5, 16), true⟩

def isPositional (style : Style) (exponent : Int) : Bool :=
  match style.positionalExponents with
  | none => true
  | some (low, high) => low ≤ exponent && exponent < high

def writeDecimal (style : Style) (d : Decimal) : List Char :=
  if style.isPositional d.leadingExponent then
    d.positional ++ (if style.markWhole && 0 ≤ d.exponent then ['.', '0'] else [])
  else d.scientific

def writeFinite (style : Style) (negative : Bool) (significand : Nat) (exponent : Int) :
    List Char :=
  (if negative then ['-'] else []) ++
    style.writeDecimal (Shortest.decimal style.tie significand exponent)

end Style

end SolrClause.Number
