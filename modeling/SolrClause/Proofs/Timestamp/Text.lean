import SolrClause.Proofs.Text.Blank
import SolrClause.Proofs.Text.Digits
import SolrClause.Proofs.Timestamp.Calendar
import SolrClause.Timestamp.Text

/-! The text of a timestamp reads back as that timestamp. Each part of the text is read up to where
the next one starts, whatever that is, and the parts are put together in the order of the reader. -/

namespace SolrClause.Timestamp

open SolrClause.Number SolrClause.Text

/-! ### The parts -/

section Parts

variable {rest : List Char}

theorem number?_append {width : Nat} {ds : List Char} (hds : ∀ c ∈ ds, isDigit c = true)
    (hne : ds ≠ []) (hlength : ds.length ≤ width) (hrest : NoDigit rest) :
    number? width (ds ++ rest) = some (decimalValue ds, rest) := by
  have htake : NoDigit (rest.take (width - ds.length)) := by
    intro c hc
    rw [List.head?_take] at hc
    split at hc
    · cases hc
    · exact hrest c hc
  rw [number?, List.take_append, List.take_of_length_le hlength, takeWhile_isDigit hds htake,
    List.drop_left]
  simp [hne]

theorem trimStart_append {ds : List Char} (hds : ∀ c ∈ ds, isDigit c = true) (hne : ds ≠ []) :
    trimStart (ds ++ rest) = ds ++ rest := by
  obtain ⟨d, ds, rfl⟩ := List.exists_cons_of_ne_nil hne
  exact trimStart_cons (isBlank_of_isDigit (hds d List.mem_cons_self))

theorem part?_paddedDigits {low high n : Nat} (hlow : low ≤ n) (hhigh : n ≤ high) (hn : n < 100)
    (hrest : NoDigit rest) : part? low high (paddedDigits 2 n ++ rest) = some (n, rest) := by
  have hds : ∀ c ∈ paddedDigits 2 n, isDigit c = true := fun _ => isDigit_of_mem_paddedDigits
  have hlength : (paddedDigits 2 n).length = 2 := length_paddedDigits (by decide) hn
  rw [part?, trimStart_append hds (paddedDigits_ne_nil 2 n),
    number?_append hds (paddedDigits_ne_nil 2 n) (Nat.le_of_eq hlength) hrest,
    decimalValue_paddedDigits]
  exact if_pos ⟨hlow, hhigh⟩

theorem separator?_cons {c : Char} (h : isBlank c = false) :
    separator? c (c :: rest) = some rest := by
  rw [separator?, trimStart_cons h]
  exact if_pos rfl

/-- The first character of a year is a digit or a sign. -/
theorem trimStart_yearText (year : Int) :
    trimStart (yearText year ++ rest) = yearText year ++ rest := by
  unfold yearText
  split
  · exact trimStart_append (fun _ => isDigit_of_mem_paddedDigits) (paddedDigits_ne_nil 4 _)
  · split
    · exact trimStart_cons (by decide)
    · exact trimStart_cons (by decide)

theorem year?_minus : year? ('-' :: rest) =
    (number? rest.length rest).map fun (n, after) => (-(n : Int), after) := rfl

theorem year?_plus : year? ('+' :: rest) =
    (number? rest.length rest).map fun (n, after) => ((n : Int), after) := rfl

theorem year?_of_isDigit {c : Char} (h : isDigit c = true) : year? (c :: rest) =
    (number? 4 (c :: rest)).map fun (n, after) => ((n : Int), after) := by
  rw [year?]
  · rintro _ ⟨⟩
    exact absurd h (by decide)
  · rintro _ ⟨⟩
    exact absurd h (by decide)

theorem year?_yearText (year : Int) (hrest : NoDigit rest) :
    year? (yearText year ++ rest) = some (year, rest) := by
  have hds (n : Nat) : ∀ c ∈ paddedDigits 4 n, isDigit c = true :=
    fun _ => isDigit_of_mem_paddedDigits
  have hnumber (width n : Nat) (h : (paddedDigits 4 n).length ≤ width) :
      number? width (paddedDigits 4 n ++ rest) = some (n, rest) := by
    rw [number?_append (hds n) (paddedDigits_ne_nil 4 n) h hrest, decimalValue_paddedDigits]
  unfold yearText
  split
  · rename_i hplain
    have hlength : (paddedDigits 4 year.toNat).length = 4 :=
      length_paddedDigits (by decide) (show year.toNat < 10000 by omega)
    have hfour := hnumber 4 _ (Nat.le_of_eq hlength)
    obtain ⟨d, ds, hcons⟩ := List.exists_cons_of_ne_nil (paddedDigits_ne_nil 4 year.toNat)
    have hd : isDigit d = true := hds _ d (hcons ▸ List.mem_cons_self)
    rw [hcons, List.cons_append] at hfour ⊢
    rw [year?_of_isDigit hd, hfour]
    simp [Int.toNat_of_nonneg hplain.1]
  · split
    · rename_i hnegative
      rw [List.cons_append, year?_minus, hnumber _ _ (by simp)]
      simp [Int.ofNat_natAbs_of_nonpos (Int.le_of_lt hnegative)]
    · rename_i hnonnegative
      rw [List.cons_append, year?_plus, hnumber _ _ (by simp)]
      simp [Int.natAbs_of_nonneg (Int.not_lt.mp hnonnegative)]

theorem date?_append {date : Date} (hvalid : date.Valid) (hfirst : firstYear ≤ date.year)
    (hlast : date.year ≤ lastYear) (hrest : NoDigit rest) :
    date? (yearText date.year ++ '-' :: (paddedDigits 2 date.month ++
      '-' :: (paddedDigits 2 date.day ++ rest))) = some (date, rest) := by
  have hday := hvalid.day_le
  obtain ⟨hmonth1, hmonth12, hday1, -⟩ := id hvalid
  have hdash {after : List Char} : NoDigit ('-' :: after) := noDigit_cons (by decide)
  simp only [date?, trimStart_yearText, year?_yearText _ hdash, Option.bind_eq_bind,
    Option.bind_some, separator?_cons (show isBlank '-' = false by decide),
    part?_paddedDigits hmonth1 hmonth12 (by omega) hdash,
    part?_paddedDigits hday1 hday (by omega) hrest]
  exact if_pos ⟨hvalid, hfirst, hlast⟩

/-- A fraction of up to nine digits. -/
theorem fraction?_point {width n nanos : Nat} (hpos : 0 < width) (hwidth : width ≤ 9)
    (hn : n < Nat.pow 10 width) (hnanos : n * Nat.pow 10 (9 - width) = nanos)
    (hrest : NoDigit rest) :
    fraction? ('.' :: paddedDigits width n ++ rest) = some (nanos, rest) := by
  have hlength : (paddedDigits width n).length = width := length_paddedDigits hpos hn
  have hkept : (paddedDigits width n).take 9 = paddedDigits width n :=
    List.take_of_length_le (by omega)
  simp only [List.cons_append, fraction?, hkept, hlength, decimalValue_paddedDigits, hnanos,
    takeDigits_append (fun _ => isDigit_of_mem_paddedDigits) hrest, List.isEmpty_iff,
    paddedDigits_ne_nil, if_false]

theorem fraction?_fractionText {nanos : Nat} (h : nanos < nanosPerSecond) :
    fraction? (fractionText nanos ++ 'Z' :: rest) = some (nanos, 'Z' :: rest) := by
  have hletter : NoDigit ('Z' :: rest) := noDigit_cons (by decide)
  unfold nanosPerSecond at h
  unfold fractionText
  split
  · rename_i hzero
    rw [hzero]
    rfl
  · split
    · rename_i hmillis
      have hback := Nat.div_mul_cancel (Nat.dvd_of_mod_eq_zero hmillis)
      have hthree : nanos / 1000000 < 1000 := by omega
      exact fraction?_point (by decide) (by decide) hthree hback hletter
    · split
      · rename_i hmicros
        have hback := Nat.div_mul_cancel (Nat.dvd_of_mod_eq_zero hmicros)
        have hsix : nanos / 1000 < 1000000 := by omega
        exact fraction?_point (by decide) (by decide) hsix hback hletter
      · exact fraction?_point (by decide) (by decide) h (Nat.mul_one nanos) hletter

end Parts

/-! ### The whole text -/

section Whole

variable (t : Timestamp)

theorem secondOfDay_lt : t.secondOfDay < 86400 := by
  unfold secondOfDay secondsPerDay
  omega

/-- The second of the minute as it is written: 60 for a leap second. -/
def writtenSecond : Nat := t.secondOfDay % 60 + (if t.isLeapSecond then 1 else 0)

/-- Only the last second of a minute is followed by a leap second. -/
theorem secondOfDay_of_isLeapSecond (h : t.isLeapSecond = true) : t.secondOfDay % 60 = 59 := by
  have hsecond : t.seconds % 60 = 59 := t.valid.2.2.2 (of_decide_eq_true h)
  unfold secondOfDay secondsPerDay
  omega

theorem timeOfDay?_chars (rest : List Char) :
    timeOfDay? (paddedDigits 2 (t.secondOfDay / 3600) ++ ':' ::
      (paddedDigits 2 (t.secondOfDay / 60 % 60) ++ ':' :: (paddedDigits 2 t.writtenSecond ++
        (fractionText (t.nanos % nanosPerSecond) ++ 'Z' :: rest)))) =
      some ((t.secondOfDay, t.nanos), 'Z' :: rest) := by
  have hday := t.secondOfDay_lt
  have hnanos : t.nanos < 2 * nanosPerSecond := t.valid.2.2.1
  have hcolon {after : List Char} : NoDigit (':' :: after) := noDigit_cons (by decide)
  have hfraction : NoDigit (fractionText (t.nanos % nanosPerSecond) ++ 'Z' :: rest) := by
    unfold fractionText
    split
    · exact noDigit_cons (by decide)
    · split
      · exact noDigit_cons (by decide)
      · split <;> exact noDigit_cons (by decide)
  have hwritten : t.writtenSecond ≤ 60 := by
    unfold writtenSecond
    split <;> omega
  simp only [timeOfDay?, Option.bind_eq_bind, Option.bind_some,
    separator?_cons (show isBlank ':' = false by decide),
    part?_paddedDigits (Nat.zero_le _) (show t.secondOfDay / 3600 ≤ 23 by omega) (by omega) hcolon,
    part?_paddedDigits (Nat.zero_le _) (show t.secondOfDay / 60 % 60 ≤ 59 by omega) (by omega)
      hcolon,
    part?_paddedDigits (Nat.zero_le _) hwritten (by omega) hfraction,
    fraction?_fractionText (Nat.mod_lt t.nanos (by decide : 0 < nanosPerSecond))]
  by_cases hleap : t.isLeapSecond = true
  · have hlast := t.secondOfDay_of_isLeapSecond hleap
    have hfull : nanosPerSecond ≤ t.nanos := of_decide_eq_true hleap
    have hsixty : t.writtenSecond = 60 := by rw [writtenSecond, hlast, if_pos hleap]
    have hsecond : 60 * (60 * (t.secondOfDay / 3600) + t.secondOfDay / 60 % 60) + 59 =
        t.secondOfDay := by omega
    have hback : t.nanos % nanosPerSecond + nanosPerSecond = t.nanos := by
      unfold nanosPerSecond at *
      omega
    rw [if_pos hsixty, hsecond, hback]
  · have hfew : t.nanos < nanosPerSecond := by simpa [isLeapSecond] using hleap
    have hless : t.writtenSecond = t.secondOfDay % 60 := by
      rw [writtenSecond, if_neg hleap, Nat.add_zero]
    have hsecond : 60 * (60 * (t.secondOfDay / 3600) + t.secondOfDay / 60 % 60) +
        t.secondOfDay % 60 = t.secondOfDay := by omega
    rw [if_neg (by omega), hless, hsecond, Nat.mod_eq_of_lt hfew]

/-- The year of a timestamp is in the range, since its seconds are. -/
theorem year_bounds : firstYear ≤ t.date.year ∧ t.date.year ≤ lastYear := by
  obtain ⟨hfirst, hlast, -, -⟩ := t.valid
  have hday : t.date.toDay = t.seconds / secondsPerDay := Date.toDay_ofDay _
  have hvalid : t.date.Valid := Date.valid_ofDay _
  unfold firstSecond secondsPerDay at hfirst
  unfold lastSecond secondsPerDay at hlast
  unfold secondsPerDay at hday
  constructor
  · by_contra hless
    have := Date.toDay_lt_of_year_lt hvalid (show (⟨firstYear, 1, 1⟩ : Date).Valid by decide)
      (Int.not_le.mp hless)
    omega
  · by_contra hmore
    have := Date.toDay_lt_of_year_lt (show (⟨lastYear, 12, 31⟩ : Date).Valid by decide) hvalid
      (Int.not_le.mp hmore)
    omega

theorem ofChars?_chars : ofChars? t.chars = some t := by
  obtain ⟨hfirst, hlast⟩ := t.year_bounds
  have hvalid : t.date.Valid := Date.valid_ofDay _
  have hseconds : t.date.toDay * secondsPerDay + t.secondOfDay - 0 = t.seconds := by
    rw [date, Date.toDay_ofDay, secondOfDay]
    unfold secondsPerDay
    omega
  have hletter {after : List Char} : NoDigit ('T' :: after) := noDigit_cons (by decide)
  have htime := t.timeOfDay?_chars []
  rw [writtenSecond] at htime
  simp only [ofChars?, chars, List.append_assoc, List.cons_append,
    date?_append hvalid hfirst hlast hletter, Option.bind_eq_bind, Option.bind_some, dateEnd?,
    true_or, if_true, htime, trimStart_cons (show isBlank 'Z' = false by decide),
    offset?, List.all_nil, hseconds, ofUnix?_eq]

/-- The text of a timestamp reads back as that timestamp. -/
theorem ofText?_text : ofText? t.text = some t := by
  rw [ofText?, text, String.toList_ofList]
  exact t.ofChars?_chars

end Whole

end SolrClause.Timestamp
