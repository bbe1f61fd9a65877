import SolrClause.Number.Notation
import SolrClause.Text.Blank
import SolrClause.Text.Digits
import SolrClause.Timestamp.Basic

/-! The text form of timestamps: one way of writing them, and a reader that accepts blanks between
the parts and any offset from UTC. -/

namespace SolrClause.Timestamp

open SolrClause.Number SolrClause.Text

/-- Four digits, with a sign in front for a year that has more or is negative. -/
def yearText (year : Int) : List Char :=
  if 0 ≤ year ∧ year ≤ 9999 then paddedDigits 4 year.toNat
  else (if year < 0 then '-' else '+') :: paddedDigits 4 year.natAbs

/-- The fewest groups of three digits that give the fraction exactly. -/
def fractionText (nanos : Nat) : List Char :=
  if nanos = 0 then []
  else if nanos % 1000000 = 0 then '.' :: paddedDigits 3 (nanos / 1000000)
  else if nanos % 1000 = 0 then '.' :: paddedDigits 6 (nanos / 1000)
  else '.' :: paddedDigits 9 nanos

/-- Year, month, day, `T`, hour, minute, second, fraction and `Z`. A leap second is second 60. -/
def chars (t : Timestamp) : List Char :=
  let second := t.secondOfDay % 60 + (if t.isLeapSecond then 1 else 0)
  yearText t.date.year ++ '-' :: paddedDigits 2 t.date.month ++ '-' :: paddedDigits 2 t.date.day ++
    'T' :: paddedDigits 2 (t.secondOfDay / 3600) ++
    ':' :: paddedDigits 2 (t.secondOfDay / 60 % 60) ++ ':' :: paddedDigits 2 second ++
    fractionText (t.nanos % nanosPerSecond) ++ ['Z']

def text (t : Timestamp) : String := String.ofList t.chars

def number? (width : Nat) (text : List Char) : Option (Nat × List Char) :=
  let digits := (text.take width).takeWhile isDigit
  if digits.isEmpty then none else some (decimalValue digits, text.drop digits.length)

/-- A year of up to four digits, or of any number of digits after a sign. -/
def year? (text : List Char) : Option (Int × List Char) :=
  match text with
  | '-' :: rest => (number? rest.length rest).map fun (n, after) => (-(n : Int), after)
  | '+' :: rest => (number? rest.length rest).map fun (n, after) => ((n : Int), after)
  | _ => (number? 4 text).map fun (n, after) => ((n : Int), after)

/-- A character, with blanks before it. -/
def separator? (c : Char) (text : List Char) : Option (List Char) :=
  match trimStart text with
  | d :: rest => if d = c then some rest else none
  | [] => none

/-- A number of one or two digits between two bounds, with blanks before it. -/
def part? (low high : Nat) (text : List Char) : Option (Nat × List Char) :=
  match number? 2 (trimStart text) with
  | some (n, rest) => if low ≤ n ∧ n ≤ high then some (n, rest) else none
  | none => none

/-- A date that exists and has a year in the range of timestamps. -/
def date? (text : List Char) : Option (Date × List Char) := do
  let (year, rest) ← year? (trimStart text)
  let (month, rest) ← part? 1 12 (← separator? '-' rest)
  let (day, rest) ← part? 1 31 (← separator? '-' rest)
  let date : Date := ⟨year, month, day⟩
  if date.Valid ∧ firstYear ≤ year ∧ year ≤ lastYear then some (date, rest) else none

/-- A point and at least one digit, if there is a point. Digits past the ninth are dropped. -/
def fraction? (text : List Char) : Option (Nat × List Char) :=
  match text with
  | '.' :: rest =>
    let (digits, after) := takeDigits rest
    if digits.isEmpty then none
    else
      let kept := digits.take 9
      some (decimalValue kept * Nat.pow 10 (9 - kept.length), after)
  | _ => some (0, text)

/-- Seconds of the day and nanoseconds. Second 60 is second 59 with a full second on top. -/
def timeOfDay? (text : List Char) : Option ((Nat × Nat) × List Char) := do
  let (hour, rest) ← part? 0 23 text
  let (minute, rest) ← part? 0 59 (← separator? ':' rest)
  let (second, rest) ← part? 0 60 (← separator? ':' rest)
  let (fraction, rest) ← fraction? rest
  let minutes := 60 * (60 * hour + minute)
  if second = 60 then some ((minutes + 59, fraction + nanosPerSecond), rest)
  else some ((minutes + second, fraction), rest)

def twoDigits? (text : List Char) : Option (Nat × List Char) :=
  match text with
  | a :: b :: rest => if isDigit a && isDigit b then some (decimalValue [a, b], rest) else none
  | _ => none

/-- Hours, any run of colons and blanks, and minutes: less than a day, in seconds. -/
def offsetSize? (text : List Char) : Option (Nat × List Char) := do
  let (hours, rest) ← twoDigits? text
  let (minutes, rest) ← twoDigits? (rest.dropWhile fun c => c = ':' || isBlank c)
  let seconds := 60 * (60 * hours + minutes)
  if minutes < 60 ∧ seconds < 86400 then some (seconds, rest) else none

/-- The offset from UTC in seconds: `Z`, `UTC`, or a sign and a size. -/
def offset? (text : List Char) : Option (Int × List Char) :=
  match text with
  | c :: rest =>
    if c = 'Z' ∨ c = 'z' then some (0, rest)
    else if (text.take 3).map Char.toUpper = ['U', 'T', 'C'] then some (0, text.drop 3)
    else if c = '+' then (offsetSize? rest).map fun (n, after) => ((n : Int), after)
    else if c = '-' ∨ c = '\u2212' then
      (offsetSize? rest).map fun (n, after) => (-(n : Int), after)
    else none
  | [] => none

/-- One of `T`, `t` and a space between the date and the time of day. -/
def dateEnd? (text : List Char) : Option (List Char) :=
  match text with
  | c :: rest => if c = 'T' ∨ c = 't' ∨ c = ' ' then some rest else none
  | [] => none

def ofChars? (text : List Char) : Option Timestamp := do
  let (date, rest) ← date? text
  let ((second, nanos), rest) ← timeOfDay? (← dateEnd? rest)
  let (offset, rest) ← offset? (trimStart rest)
  if rest.all isBlank then
    ofUnix? (date.toDay * secondsPerDay + second - offset) nanos
  else none

def ofText? (text : String) : Option Timestamp := ofChars? text.toList

end SolrClause.Timestamp
