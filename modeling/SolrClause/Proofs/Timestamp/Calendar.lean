import Mathlib.Tactic.IntervalCases
import SolrClause.Timestamp.Calendar

/-! The calendar numbers days without gaps. The date of a day exists and has that day's number, and
dates of a later year have greater numbers. -/

namespace SolrClause.Date

/-- Days from the first of March of year 0 to the first of March of a year. -/
def daysBeforeYear (year : Int) : Int := 365 * year + year / 4 - year / 100 + year / 400

/-- A later year begins at least 364 days after the one before it. -/
theorem daysBeforeYear_lt {a b : Int} (h : a < b) : daysBeforeYear a + 364 ≤ daysBeforeYear b := by
  unfold daysBeforeYear
  omega

/-- The number of a date in January or February, which belong to the year that begins in the March
before. -/
theorem toDay_of_le_two {date : Date} (h : date.month ≤ 2) :
    date.toDay = daysBeforeYear (date.year - 1) + daysBeforeMonth ((date.month + 9) % 12) +
      date.day - 1 - epoch := by
  simp only [toDay, if_pos h, daysBeforeYear]

theorem toDay_of_two_lt {date : Date} (h : 2 < date.month) :
    date.toDay = daysBeforeYear date.year + daysBeforeMonth ((date.month + 9) % 12) +
      date.day - 1 - epoch := by
  simp only [toDay, if_neg (Nat.not_le.mpr h), daysBeforeYear]

theorem Valid.day_le {date : Date} (h : date.Valid) : date.day ≤ 31 := by
  obtain ⟨-, -, -, hday⟩ := h
  unfold daysInMonth at hday
  split at hday
  · split at hday <;> omega
  · split at hday <;> omega

theorem daysBeforeYear_mono {a b : Int} (h : a ≤ b) : daysBeforeYear a ≤ daysBeforeYear b := by
  rcases Int.lt_or_eq_of_le h with hlt | rfl
  · have := daysBeforeYear_lt hlt
    omega
  · exact Int.le_refl _

/-- A date lies in its year, which begins 306 days after the first of March of the year before. -/
theorem toDay_bounds {date : Date} (h : date.Valid) :
    daysBeforeYear (date.year - 1) + 306 - epoch ≤ date.toDay ∧
      date.toDay < daysBeforeYear date.year + 306 - epoch := by
  have hday := h.day_le
  obtain ⟨hmonth1, hmonth12, hday1, -⟩ := h
  by_cases hm : date.month ≤ 2
  · have := daysBeforeYear_lt (show date.year - 1 < date.year by omega)
    rw [toDay_of_le_two hm, daysBeforeMonth]
    omega
  · have := daysBeforeYear_lt (show date.year - 1 < date.year by omega)
    rw [toDay_of_two_lt (by omega), daysBeforeMonth]
    omega

theorem toDay_lt_of_year_lt {a b : Date} (ha : a.Valid) (hb : b.Valid) (h : a.year < b.year) :
    a.toDay < b.toDay := by
  have hyears := daysBeforeYear_mono (show a.year ≤ b.year - 1 by omega)
  obtain ⟨-, hless⟩ := toDay_bounds ha
  obtain ⟨hmore, -⟩ := toDay_bounds hb
  omega

/-! ### Splitting a day into a year and a day of the year -/

/-- A year that begins in March, by cycles of 400 years, centuries, spans of four years and single
years. -/
def yearOf (cycles : Int) (centuries spans years : Nat) : Int :=
  400 * cycles + 100 * centuries + 4 * spans + years

theorem daysBeforeYear_yearOf (cycles : Int) {centuries spans years : Nat} (hc : centuries ≤ 3)
    (hs : spans ≤ 24) (hy : years ≤ 3) :
    daysBeforeYear (yearOf cycles centuries spans years) =
      146097 * cycles + 36524 * centuries + 1461 * spans + 365 * years := by
  unfold daysBeforeYear yearOf
  omega

/-- A month counted from March, in the usual count. -/
def monthOf (monthFromMarch : Nat) : Nat :=
  if monthFromMarch < 10 then monthFromMarch + 3 else monthFromMarch - 9

theorem monthOf_bounds {m : Nat} (h : m ≤ 11) :
    1 ≤ monthOf m ∧ monthOf m ≤ 12 ∧ (monthOf m + 9) % 12 = m ∧ (monthOf m ≤ 2 ↔ 10 ≤ m) := by
  unfold monthOf
  split <;> omega

/-- A month of a day of the year begins on or before it, and the next one after it. -/
theorem daysBeforeMonth_bounds {inYear m : Nat} (h : m = (5 * inYear + 2) / 153) :
    daysBeforeMonth m ≤ inYear ∧ inYear < daysBeforeMonth (m + 1) := by
  unfold daysBeforeMonth
  omega

/-- The date of a year that begins in March and a day of it. -/
def inYearDate (year : Int) (inYear : Nat) : Date :=
  let m := (5 * inYear + 2) / 153
  ⟨if monthOf m ≤ 2 then year + 1 else year, monthOf m, inYear - daysBeforeMonth m + 1⟩

theorem toDay_inYearDate (year : Int) {inYear : Nat} (h : inYear ≤ 365) :
    (inYearDate year inYear).toDay = daysBeforeYear year + inYear - epoch := by
  generalize hm : (5 * inYear + 2) / 153 = m
  obtain ⟨-, -, hmod, -⟩ := monthOf_bounds (show m ≤ 11 by omega)
  obtain ⟨hle, -⟩ := daysBeforeMonth_bounds hm.symm
  simp only [inYearDate, hm]
  by_cases hmonth : monthOf m ≤ 2
  · rw [toDay_of_le_two hmonth]
    simp only [if_pos hmonth, hmod, Int.add_sub_cancel]
    omega
  · rw [toDay_of_two_lt (by simpa using hmonth)]
    simp only [if_neg hmonth, hmod]
    omega

/-- The days of a month other than February do not depend on the year. -/
theorem daysInMonth_monthOf (year : Int) {m : Nat} (h : m ≤ 10) :
    daysInMonth year (monthOf m) = daysBeforeMonth (m + 1) - daysBeforeMonth m := by
  interval_cases m <;> rfl

theorem valid_inYearDate {year : Int} {inYear : Nat} (h : inYear ≤ 365)
    (hleap : inYear = 365 → isLeapYear (year + 1) = true) : (inYearDate year inYear).Valid := by
  generalize hm : (5 * inYear + 2) / 153 = m
  obtain ⟨h1, h12, -, htwo⟩ := monthOf_bounds (show m ≤ 11 by omega)
  obtain ⟨hle, hlt⟩ := daysBeforeMonth_bounds hm.symm
  simp only [inYearDate, hm]
  refine ⟨h1, h12, Nat.le_add_left 1 _, ?_⟩
  by_cases hfebruary : m = 11
  · subst hfebruary
    show inYear - 337 + 1 ≤ if isLeapYear (year + 1) then 29 else 28
    split
    · omega
    · rename_i hnot
      have : inYear ≠ 365 := fun hy => hnot (hleap hy)
      omega
  · show inYear - daysBeforeMonth m + 1 ≤ daysInMonth _ (monthOf m)
    rw [daysInMonth_monthOf _ (show m ≤ 10 by omega)]
    omega

/-! ### The date of a day -/

/-- The parts that a day within a cycle of 400 years is split into. A century and a span of four
years that take a leap day along are longer, but only the last ones. -/
structure Parts (inCycle centuries spans years inYear : Nat) : Prop where
  total : inCycle = 36524 * centuries + 1461 * spans + 365 * years + inYear
  centuries_le : centuries ≤ 3
  spans_le : spans ≤ 24
  years_le : years ≤ 3
  inYear_le : inYear ≤ 365
  leap : inYear = 365 → years = 3 ∧ (spans = 24 → centuries = 3)

theorem parts {inCycle : Nat} (h : inCycle < 146097) :
    let centuries := min 3 (inCycle / 36524)
    let inCentury := inCycle - 36524 * centuries
    let years := min 3 (inCentury % 1461 / 365)
    Parts inCycle centuries (inCentury / 1461) years (inCentury % 1461 - 365 * years) := by
  intro centuries inCentury years
  have hcentury : centuries ≤ 3 ∧ inCentury ≤ 36524 ∧ (inCentury = 36524 → centuries = 3) := by
    omega
  have hcycle : inCycle = 36524 * centuries + inCentury := by omega
  clear_value centuries inCentury
  constructor <;> omega

theorem isLeapYear_yearOf {cycles : Int} {centuries spans : Nat} (hs : spans ≤ 24)
    (h : spans = 24 → centuries = 3) :
    isLeapYear (yearOf cycles centuries spans 3 + 1) = true := by
  unfold isLeapYear yearOf
  simp only [Bool.and_eq_true, Bool.or_eq_true, decide_eq_true_eq]
  omega

theorem ofDay_eq (day : Int) :
    ∃ (cycles : Int) (inCycle centuries spans years inYear : Nat),
      Parts inCycle centuries spans years inYear ∧ day + epoch = 146097 * cycles + inCycle ∧
      ofDay day = inYearDate (yearOf cycles centuries spans years) inYear := by
  have hcycle : ((day + epoch) % 146097).toNat < 146097 := by omega
  exact ⟨(day + epoch) / 146097, ((day + epoch) % 146097).toNat, _, _, _, _, parts hcycle,
    by omega, rfl⟩

theorem toDay_ofDay (day : Int) : (ofDay day).toDay = day := by
  obtain ⟨cycles, inCycle, centuries, spans, years, inYear, hparts, hday, hdate⟩ := ofDay_eq day
  have htotal := hparts.total
  rw [hdate, toDay_inYearDate _ hparts.inYear_le,
    daysBeforeYear_yearOf cycles hparts.centuries_le hparts.spans_le hparts.years_le]
  omega

theorem valid_ofDay (day : Int) : (ofDay day).Valid := by
  obtain ⟨cycles, inCycle, centuries, spans, years, inYear, hparts, -, hdate⟩ := ofDay_eq day
  rw [hdate]
  refine valid_inYearDate hparts.inYear_le fun hy => ?_
  obtain ⟨rfl, hlast⟩ := hparts.leap hy
  exact isLeapYear_yearOf hparts.spans_le hlast

/-! ### The day of a date -/

theorem daysBeforeYear_succ (year : Int) :
    daysBeforeYear (year + 1) =
      daysBeforeYear year + (if isLeapYear (year + 1) then 366 else 365) := by
  unfold daysBeforeYear isLeapYear
  split
  · rename_i h
    simp only [Bool.and_eq_true, Bool.or_eq_true, decide_eq_true_eq] at h
    omega
  · rename_i h
    simp only [Bool.and_eq_true, Bool.or_eq_true, decide_eq_true_eq] at h
    omega

/-- The month of a day of the year is the one that begins on or before it, with the next one after
it. -/
theorem inYearDate_of_bounds {year : Int} {inYear m : Nat} (hlow : daysBeforeMonth m ≤ inYear)
    (hhigh : inYear < daysBeforeMonth (m + 1)) :
    inYearDate year inYear =
      ⟨if monthOf m ≤ 2 then year + 1 else year, monthOf m, inYear - daysBeforeMonth m + 1⟩ := by
  have hm : (5 * inYear + 2) / 153 = m := by
    unfold daysBeforeMonth at hlow hhigh
    omega
  rw [inYearDate, hm]

theorem exists_monthOf {month : Nat} (h1 : 1 ≤ month) (h12 : month ≤ 12) :
    ∃ m ≤ 11, month = monthOf m := by
  refine ⟨(month + 9) % 12, by omega, ?_⟩
  unfold monthOf
  split <;> omega

/-- A date that exists is a day of a year that begins in March, before the next such year. -/
theorem exists_inYearDate {date : Date} (h : date.Valid) :
    ∃ (year : Int) (inYear : Nat), date = inYearDate year inYear ∧ inYear ≤ 365 ∧
      daysBeforeYear year + inYear < daysBeforeYear (year + 1) := by
  obtain ⟨year, month, day⟩ := date
  obtain ⟨hmonth1, hmonth12, hday1, hday⟩ := h
  obtain ⟨m, hm, rfl⟩ := exists_monthOf hmonth1 hmonth12
  dsimp only at hday hday1
  rcases Nat.lt_or_eq_of_le hm with hearly | rfl
  · rw [daysInMonth_monthOf _ (Nat.le_of_lt_succ hearly)] at hday
    have hlast : daysBeforeMonth (m + 1) ≤ 337 := by
      unfold daysBeforeMonth
      omega
    refine ⟨if monthOf m ≤ 2 then year - 1 else year, daysBeforeMonth m + (day - 1), ?_, by omega,
      ?_⟩
    · rw [inYearDate_of_bounds (Nat.le_add_right _ _) (by omega)]
      congr 1
      · split <;> omega
      · omega
    · rw [daysBeforeYear_succ]
      split <;> omega
  · -- February comes last, and has a leap day if its own year is a leap year.
    have hfebruary : day ≤ if isLeapYear year then 29 else 28 := hday
    have hstart : daysBeforeMonth 11 = 337 ∧ daysBeforeMonth (11 + 1) = 367 := by decide
    have hyear := daysBeforeYear_succ (year - 1)
    rw [Int.sub_add_cancel] at hyear
    refine ⟨year - 1, daysBeforeMonth 11 + (day - 1), ?_, ?_, ?_⟩
    · rw [inYearDate_of_bounds (Nat.le_add_right _ _) (by split at hfebruary <;> omega)]
      congr 1
      · exact (Int.sub_add_cancel year 1).symm
      · omega
    · split at hfebruary <;> omega
    · rw [Int.sub_add_cancel]
      by_cases hleap : isLeapYear year = true
      · rw [if_pos hleap] at hfebruary hyear
        omega
      · rw [if_neg hleap] at hfebruary hyear
        omega

/-- No two dates that exist have the same number. -/
theorem eq_of_toDay_eq {a b : Date} (ha : a.Valid) (hb : b.Valid) (h : a.toDay = b.toDay) :
    a = b := by
  obtain ⟨year, inYear, rfl, hle, hlt⟩ := exists_inYearDate ha
  obtain ⟨year', inYear', rfl, hle', hlt'⟩ := exists_inYearDate hb
  rw [toDay_inYearDate _ hle, toDay_inYearDate _ hle'] at h
  have hyear : year = year' := by
    rcases Int.lt_trichotomy year year' with hyears | heq | hyears
    · have := daysBeforeYear_mono (show year + 1 ≤ year' by omega)
      omega
    · exact heq
    · have := daysBeforeYear_mono (show year' + 1 ≤ year by omega)
      omega
  subst hyear
  obtain rfl : inYear = inYear' := by omega
  rfl

theorem ofDay_toDay {date : Date} (h : date.Valid) : ofDay date.toDay = date :=
  eq_of_toDay_eq (valid_ofDay _) h (toDay_ofDay _)

end SolrClause.Date
