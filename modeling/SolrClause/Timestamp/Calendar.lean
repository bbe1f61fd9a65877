/-! The Gregorian calendar, extended to all years, as a numbering of days. Years are counted from
the first of March, so that a leap day is the last day of its year. -/

namespace SolrClause

structure Date where
  year : Int
  month : Nat
  day : Nat
  deriving DecidableEq, Repr

namespace Date

def isLeapYear (year : Int) : Bool :=
  year % 4 = 0 && (year % 100 ≠ 0 || year % 400 = 0)

def daysInMonth (year : Int) (month : Nat) : Nat :=
  if month = 2 then (if isLeapYear year then 29 else 28)
  else if month = 4 ∨ month = 6 ∨ month = 9 ∨ month = 11 then 30
  else 31

def Valid (date : Date) : Prop :=
  1 ≤ date.month ∧ date.month ≤ 12 ∧ 1 ≤ date.day ∧ date.day ≤ daysInMonth date.year date.month

instance (date : Date) : Decidable date.Valid := by unfold Valid; infer_instance

/-- Days from the first of March of year 0 to the first of January 1970. -/
def epoch : Int := 719468

/-- Days from the first of March to the first of a month, counted from March as 0. -/
def daysBeforeMonth (monthFromMarch : Nat) : Nat := (153 * monthFromMarch + 2) / 5

/-- The number of the day, with the first of January 1970 as day 0. -/
def toDay (date : Date) : Int :=
  let year := if date.month ≤ 2 then date.year - 1 else date.year
  let monthFromMarch := (date.month + 9) % 12
  365 * year + year / 4 - year / 100 + year / 400 + daysBeforeMonth monthFromMarch + date.day - 1
    - epoch

/-- The date of a day: whole cycles of 400 years, centuries, spans of four years and single years
are taken off in turn, and the last century and year of a span take the leap day along. -/
def ofDay (day : Int) : Date :=
  let fromMarch := day + epoch
  let cycles := fromMarch / 146097
  let inCycle := (fromMarch % 146097).toNat
  let centuries := min 3 (inCycle / 36524)
  let inCentury := inCycle - 36524 * centuries
  let spans := inCentury / 1461
  let inSpan := inCentury % 1461
  let years := min 3 (inSpan / 365)
  let inYear := inSpan - 365 * years
  let monthFromMarch := (5 * inYear + 2) / 153
  let month := if monthFromMarch < 10 then monthFromMarch + 3 else monthFromMarch - 9
  let year := 400 * cycles + 100 * centuries + 4 * spans + years
  ⟨if month ≤ 2 then year + 1 else year, month, inYear - daysBeforeMonth monthFromMarch + 1⟩

end Date

end SolrClause
