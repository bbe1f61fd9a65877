import SolrClause.Number.Binary64

/-! The shortest decimal that reads back as a given double-precision number, found in exact
arithmetic: coarse decimal grids are tried before finer ones. -/

namespace SolrClause.Number

/-- `coefficient * 10 ^ exponent`. -/
structure Decimal where
  coefficient : Nat
  exponent : Int
  deriving DecidableEq, Repr

/-- Where a number exactly between two decimals goes. -/
inductive Tie where
  | up
  | even
  deriving DecidableEq, Repr

namespace Shortest

/-- The numbers that round to `significand * 2 ^ exponent`, in quarters of its last place: the lower
end, the number itself and the upper end. Below a power of two the gap is half as wide. -/
def interval (significand : Nat) (exponent : Int) : Nat × Nat × Nat :=
  let middle := 4 * significand
  let below :=
    if significand = Binary64.leadingBit ∧ exponent ≠ Binary64.leastExponent then 1 else 2
  (middle - below, middle, middle + 2)

/-- A quarter of the last place over a step of the grid of multiples of `10 ^ k`. -/
def stepRatio (exponent k : Int) : Nat × Nat :=
  (Nat.pow 10 (-k).toNat <<< (exponent - 2).toNat, Nat.pow 10 k.toNat <<< (2 - exponent).toNat)

/-- The multiple of `10 ^ k` nearest to the number among those that round to it, if there is one.
The ends of the interval belong to it exactly when the significand is even. -/
def onGrid? (tie : Tie) (significand : Nat) (exponent k : Int) : Option Nat :=
  let (low, middle, high) := interval significand exponent
  let (up, down) := stepRatio exponent k
  let floor := middle * up / down
  let past := middle * up % down
  let within (d : Nat) : Bool :=
    if significand % 2 = 0 then low * up ≤ d * down && d * down ≤ high * up
    else low * up < d * down && d * down < high * up
  match within floor, within (floor + 1) with
  | true, true =>
    if 2 * past < down then some floor
    else if down < 2 * past then some (floor + 1)
    else match tie with
      | .up => some (floor + 1)
      | .even => some (floor + floor % 2)
  | true, false => some floor
  | false, true => some (floor + 1)
  | false, false => none

/-- The first hit on the grids `10 ^ k`, `10 ^ (k - 1)`, and so on. -/
def search (tie : Tie) (significand : Nat) (exponent : Int) : Nat → Int → Decimal
  | 0, _ => ⟨0, 0⟩
  | grids + 1, k =>
    match onGrid? tie significand exponent k with
    | some d => ⟨d, k⟩
    | none => search tie significand exponent grids (k - 1)

/-- A power of ten that is no smaller than the number: one hundred thousand binary digits are less
than 30103 decimal ones. -/
def topGrid (significand : Nat) (exponent : Int) : Int :=
  (significand.log2 + 1 + exponent) * 30103 / 100000 + 1

/-- The shortest decimal that reads back as `significand * 2 ^ exponent`, and of those the nearest.
-/
def decimal (tie : Tie) (significand : Nat) (exponent : Int) : Decimal :=
  if significand = 0 then ⟨0, 0⟩
  else search tie significand exponent 20 (topGrid significand exponent)

end Shortest

end SolrClause.Number
