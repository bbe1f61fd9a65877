import SolrClause.Proofs.Form.Variants

/-! Timestamps survive their text. There is a timestamp for every time of day of every date in the
range of years, and the text of each, as the one member of an object, is read back as that
timestamp. -/

namespace SolrClause

open SolrClause.Json

namespace Timestamp

theorem text_injective : Function.Injective text := by
  intro t u h
  have hread : ofText? t.text = ofText? u.text := congrArg ofText? h
  rw [ofText?_text, ofText?_text] at hread
  exact Option.some.inj hread

/-- The seconds of a day in the range of years are in the range of timestamps. -/
theorem bounds_of_date {date : Date} (hvalid : date.Valid) (hfirst : firstYear ≤ date.year)
    (hlast : date.year ≤ lastYear) {second : Nat} (hsecond : second < 86400) :
    firstSecond ≤ date.toDay * secondsPerDay + second ∧
      date.toDay * secondsPerDay + second ≤ lastSecond := by
  obtain ⟨hafter, hbefore⟩ := Date.toDay_bounds hvalid
  have hyears := Date.daysBeforeYear_mono (show firstYear - 1 ≤ date.year - 1 by omega)
  have hyears' := Date.daysBeforeYear_mono hlast
  have hfirstDay : Date.toDay ⟨firstYear, 1, 1⟩ =
      Date.daysBeforeYear (firstYear - 1) + 306 - Date.epoch := by decide
  have hlastDay : Date.toDay ⟨lastYear, 12, 31⟩ + 1 =
      Date.daysBeforeYear lastYear + 306 - Date.epoch := by decide
  rw [firstSecond, lastSecond, hfirstDay, hlastDay, secondsPerDay]
  omega

/-- Every time of day of a date in the range of years is a timestamp, with a leap second after the
last second of a minute. -/
theorem exists_of_date {date : Date} (hvalid : date.Valid) (hfirst : firstYear ≤ date.year)
    (hlast : date.year ≤ lastYear) {second nanos : Nat} (hsecond : second < 86400)
    (hnanos : nanos < 2 * nanosPerSecond) (hleap : nanosPerSecond ≤ nanos → second % 60 = 59) :
    ∃ t : Timestamp, t.date = date ∧ t.secondOfDay = second ∧ t.nanos = nanos := by
  obtain ⟨hlow, hhigh⟩ := bounds_of_date hvalid hfirst hlast hsecond
  have hminute (h : nanosPerSecond ≤ nanos) : (date.toDay * secondsPerDay + second) % 60 = 59 := by
    have := hleap h
    unfold secondsPerDay
    omega
  refine ⟨⟨date.toDay * secondsPerDay + second, nanos, hlow, hhigh, hnanos, hminute⟩, ?_, ?_, rfl⟩
  · have hday : (date.toDay * secondsPerDay + second) / secondsPerDay = date.toDay := by
      unfold secondsPerDay
      omega
    rw [Timestamp.date, hday, Date.ofDay_toDay hvalid]
  · show ((date.toDay * secondsPerDay + second) % secondsPerDay).toNat = second
    unfold secondsPerDay
    omega

end Timestamp

namespace Scalar

/-- Timestamps survive their text: as the one member of an object, however its JSON is spelled, it
is read back as that timestamp, and such an object is what a timestamp is written as. So no other
second or nanosecond has the same text. The timestamps are all times of day of all dates in the
range of years, leap seconds included. -/
theorem parse_display_timestamp :
    (∀ (t : Timestamp) (text : List Char),
      parse Document.value text = .ok (.object [("datetime", .string (timestamp t).display)]) →
        parse ofJson text = .ok (.timestamp t)) ∧
    (∀ t : Timestamp, parse Document.value (timestamp t).toJson.compact.toList =
      .ok (.object [("datetime", .string (timestamp t).display)])) ∧
    (∀ t u : Timestamp, (timestamp t).display = (timestamp u).display →
      t.seconds = u.seconds ∧ t.nanos = u.nanos) ∧
    ∀ (date : Date) (second nanos : Nat), date.Valid → -262143 ≤ date.year → date.year ≤ 262142 →
      second < 86400 → nanos < 2000000000 → (1000000000 ≤ nanos → second % 60 = 59) →
        ∃ t : Timestamp, t.date = date ∧ t.secondOfDay = second ∧ t.nanos = nanos := by
  refine ⟨fun t text h => ?_, fun t => ?_, fun t u h => ?_, ?_⟩
  · rw [parse_eq_ofValue h]
    exact ofValue_timestamp t
  · rw [parse_compact]
    exact value_toJson (by decide) nofun
  · obtain rfl := Timestamp.text_injective h
    exact ⟨rfl, rfl⟩
  · intro date second nanos hvalid hfirst hlast hsecond hnanos hleap
    exact Timestamp.exists_of_date hvalid hfirst hlast hsecond hnanos hleap

/-- The last leap second of the range. -/
theorem parse_display_timestamp_last :
    ∃ t : Timestamp, t.date = ⟨262142, 12, 31⟩ ∧ t.secondOfDay = 86399 ∧ t.nanos = 1999999999 ∧
      (timestamp t).display = "+262142-12-31T23:59:60.999999999Z" ∧
      parse ofJson r#"{"datetime":"+262142-12-31T23:59:60.999999999Z"}"#.toList =
        .ok (.timestamp t) := by
  obtain ⟨hread, hform, -, hall⟩ := parse_display_timestamp
  obtain ⟨t, hdate, hsecond, hnanos⟩ := hall ⟨262142, 12, 31⟩ 86399 1999999999 (by decide)
    (by decide) (by decide) (by decide) (by decide) (by decide)
  have hdisplay : t.text = "+262142-12-31T23:59:60.999999999Z" := by
    rw [Timestamp.text, Timestamp.chars, Timestamp.isLeapSecond, hdate, hsecond, hnanos]
    decide +kernel
  have hcompact : r#"{"datetime":"+262142-12-31T23:59:60.999999999Z"}"#.toList =
      (timestamp t).toJson.compact.toList := by
    rw [toJson, Timestamp.toJson, hdisplay]
    decide +kernel
  refine ⟨t, hdate, hsecond, hnanos, hdisplay, ?_⟩
  rw [hcompact]
  exact hread t _ (hform t)

end Scalar

end SolrClause
