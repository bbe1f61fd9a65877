import SolrClause.Timestamp.Calendar

/-! Timestamps in UTC with nanoseconds. A leap second is kept as the second before it with a full
second of nanoseconds on top. -/

namespace SolrClause

namespace Timestamp

def firstYear : Int := -262143

def lastYear : Int := 262142

def secondsPerDay : Int := 86400

def nanosPerSecond : Nat := 1000000000

def firstSecond : Int := Date.toDay ⟨firstYear, 1, 1⟩ * secondsPerDay

def lastSecond : Int := (Date.toDay ⟨lastYear, 12, 31⟩ + 1) * secondsPerDay - 1

/-- The second lies within the range of years, and only the last second of a minute can be followed
by a leap second. This is the domain of `from_timestamp`. A leap second after any other second,
which setting the nanoseconds of a timestamp could make (`with_nanosecond`), is left out. -/
def Valid (seconds : Int) (nanos : Nat) : Prop :=
  firstSecond ≤ seconds ∧ seconds ≤ lastSecond ∧ nanos < 2 * nanosPerSecond ∧
    (nanosPerSecond ≤ nanos → seconds % 60 = 59)

instance (seconds : Int) (nanos : Nat) : Decidable (Valid seconds nanos) := by
  unfold Valid; infer_instance

end Timestamp

/-- A point in time: seconds since the start of 1970 and nanoseconds into the second. -/
structure Timestamp where
  seconds : Int
  nanos : Nat
  valid : Timestamp.Valid seconds nanos
  deriving DecidableEq

namespace Timestamp

def ofUnix? (seconds : Int) (nanos : Nat) : Option Timestamp :=
  if h : Valid seconds nanos then some ⟨seconds, nanos, h⟩ else none

@[simp] theorem ofUnix?_eq (t : Timestamp) : ofUnix? t.seconds t.nanos = some t := by
  simp [ofUnix?, t.valid]

def date (t : Timestamp) : Date := Date.ofDay (t.seconds / secondsPerDay)

def secondOfDay (t : Timestamp) : Nat := (t.seconds % secondsPerDay).toNat

def isLeapSecond (t : Timestamp) : Bool := nanosPerSecond ≤ t.nanos

end Timestamp

end SolrClause
