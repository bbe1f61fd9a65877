/-! Decimal digits: telling them apart, taking them from the front of a text, and the number that
they write. -/

namespace SolrClause.Text

def isDigit (c : Char) : Bool := '0' ≤ c && c ≤ '9'

def digitValue (c : Char) : Nat := c.toNat - '0'.toNat

def decimalValue (digits : List Char) : Nat :=
  digits.foldl (fun value c => 10 * value + digitValue c) 0

/-- The digits at the front of a text and what comes after them. -/
def takeDigits (text : List Char) : List Char × List Char := text.span isDigit

def hexValue? (c : Char) : Option Nat :=
  if isDigit c then some (digitValue c)
  else if 'a' ≤ c && c ≤ 'f' then some (c.toNat - 'a'.toNat + 10)
  else if 'A' ≤ c && c ≤ 'F' then some (c.toNat - 'A'.toNat + 10)
  else none

def hexDigits (n : Nat) : List Char := Nat.toDigits 16 n

end SolrClause.Text
