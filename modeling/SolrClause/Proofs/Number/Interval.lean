import SolrClause.Proofs.Number.Rounding
import SolrClause.Proofs.Number.Shortest

/-! The shortest decimal of a number rounds to the number: whatever a grid gives is in the interval
around it, and the finest grid that is tried is fine enough to have a hit. -/

namespace SolrClause.Number.Shortest

open Binary64

variable {tie : Tie} {significand : Nat} {exponent k : Int} {d : Nat}

/-! ### Hits -/

/-- Whether a multiple of `10 ^ k` is in the interval around the number. -/
def within (significand : Nat) (exponent k : Int) (d : Nat) : Bool :=
  let (low, _, high) := interval significand exponent
  let (up, down) := stepRatio exponent k
  if significand % 2 = 0 then low * up ≤ d * down && d * down ≤ high * up
  else low * up < d * down && d * down < high * up

/-- What a grid gives is in the interval. -/
theorem within_of_onGrid? (h : onGrid? tie significand exponent k = some d) :
    within significand exponent k d = true := by
  rw [onGrid?] at h
  rw [within]
  generalize interval significand exponent = ends at h ⊢
  generalize stepRatio exponent k = ratio at h ⊢
  obtain ⟨low, middle, high⟩ := ends
  obtain ⟨up, down⟩ := ratio
  dsimp only at h ⊢
  generalize middle * up / down = floor at h
  split at h
  · rename_i hfloor hnext
    split at h
    · cases h
      exact hfloor
    · split at h
      · cases h
        exact hnext
      · cases tie with
        | up =>
          cases h
          exact hnext
        | even =>
          cases h
          rcases Nat.mod_two_eq_zero_or_one floor with heven | hodd
          · rw [heven]
            exact hfloor
          · rw [hodd]
            exact hnext
  · rename_i hfloor hnext
    cases h
    exact hfloor
  · rename_i hfloor hnext
    cases h
    exact hnext
  · cases h

/-- A grid as fine as a quarter of the last place has a hit: the multiple below the number. -/
theorem onGrid?_ne_none (h : (stepRatio exponent k).2 ≤ (stepRatio exponent k).1)
    (hpos : 0 < significand) : onGrid? tie significand exponent k ≠ none := by
  have hlow : (interval significand exponent).1 < (interval significand exponent).2.1 := by
    simp only [interval]
    split <;> omega
  have hhigh : (interval significand exponent).2.1 < (interval significand exponent).2.2 := by
    simp only [interval]
    omega
  have hup : 0 < (stepRatio exponent k).1 := up_pos
  have hdown : 0 < (stepRatio exponent k).2 := down_pos
  rw [onGrid?]
  generalize interval significand exponent = ends at *
  generalize stepRatio exponent k = ratio at *
  obtain ⟨low, middle, high⟩ := ends
  obtain ⟨up, down⟩ := ratio
  dsimp only at *
  have hbelow : middle * up / down * down ≤ middle * up := Nat.div_mul_le_self _ _
  have habove : middle * up < middle * up / down * down + down := Nat.lt_div_mul_add hdown
  generalize middle * up / down = floor at *
  have hfloorLow : low * up < floor * down := by nlinarith
  have hfloorHigh : floor * down < high * up := by nlinarith
  have hfloor : (if significand % 2 = 0 then
      decide (low * up ≤ floor * down) && decide (floor * down ≤ high * up)
      else decide (low * up < floor * down) && decide (floor * down < high * up)) = true := by
    split <;> simp [hfloorLow, hfloorHigh, hfloorLow.le, hfloorHigh.le]
  intro hnone
  split at hnone
  · repeat' split at hnone
    all_goals cases hnone
  · cases hnone
  · cases hnone
  · rename_i hfalse hnext
    rw [hfloor] at hfalse
    cases hfalse

/-! ### Hits as numbers -/

theorem stepRatio_div (exponent k : Int) :
    ((stepRatio exponent k).1 / (stepRatio exponent k).2 : ℚ) = 2 ^ (exponent - 2) / 10 ^ k := by
  have hneg : 2 - exponent = -(exponent - 2) := by omega
  rw [stepRatio, hneg]
  generalize exponent - 2 = e
  obtain ⟨m, rfl | rfl⟩ := e.eq_nat_or_neg <;> obtain ⟨n, rfl | rfl⟩ := k.eq_nat_or_neg <;>
    simp [Nat.shiftLeft_eq] <;> field_simp

section Steps

variable {a : Nat}

theorem quarters_eq : (a * 2 ^ (exponent - 2) : ℚ) * (stepRatio exponent k).2 =
    a * (stepRatio exponent k).1 * 10 ^ k := by
  have hdown : (0 : ℚ) < (stepRatio exponent k).2 := Nat.cast_pos.mpr down_pos
  have hten : (0 : ℚ) < 10 ^ k := by positivity
  have hratio := stepRatio_div exponent k
  rw [div_eq_div_iff hdown.ne' hten.ne'] at hratio
  rw [mul_assoc, ← hratio, mul_assoc]

/-- Quarters of the last place and steps of a grid, compared as numbers. -/
theorem quarters_le : a * (stepRatio exponent k).1 ≤ d * (stepRatio exponent k).2 ↔
    (a * 2 ^ (exponent - 2) : ℚ) ≤ d * 10 ^ k := by
  have hdown : (0 : ℚ) < (stepRatio exponent k).2 := Nat.cast_pos.mpr down_pos
  have hten : (0 : ℚ) < 10 ^ k := by positivity
  rw [← mul_le_mul_iff_left₀ hdown, quarters_eq, mul_right_comm (d : ℚ), mul_le_mul_iff_left₀ hten]
  norm_cast

theorem quarters_lt : a * (stepRatio exponent k).1 < d * (stepRatio exponent k).2 ↔
    (a * 2 ^ (exponent - 2) : ℚ) < d * 10 ^ k := by
  have hdown : (0 : ℚ) < (stepRatio exponent k).2 := Nat.cast_pos.mpr down_pos
  have hten : (0 : ℚ) < 10 ^ k := by positivity
  rw [← mul_lt_mul_iff_left₀ hdown, quarters_eq, mul_right_comm (d : ℚ), mul_lt_mul_iff_left₀ hten]
  norm_cast

theorem le_quarters : d * (stepRatio exponent k).2 ≤ a * (stepRatio exponent k).1 ↔
    (d * 10 ^ k : ℚ) ≤ a * 2 ^ (exponent - 2) := by
  rw [← not_lt, quarters_lt, not_lt]

theorem lt_quarters : d * (stepRatio exponent k).2 < a * (stepRatio exponent k).1 ↔
    (d * 10 ^ k : ℚ) < a * 2 ^ (exponent - 2) := by
  rw [← not_le, quarters_le, not_le]

end Steps

/-- The ends of the interval as numbers. -/
theorem interval_low (hpos : 0 < significand) :
    ((interval significand exponent).1 : ℚ) * 2 ^ (exponent - 2) =
      (significand - gapBelow significand exponent) * 2 ^ exponent := by
  have hpower : (2 : ℚ) ^ exponent = 2 ^ (exponent - 2) * 4 := by
    rw [zpow_sub₀ two_ne_zero]
    norm_num
  rw [hpower, gapBelow, interval]
  dsimp only
  split
  · rw [Nat.cast_sub (by omega)]
    push_cast
    ring
  · rw [Nat.cast_sub (by omega)]
    push_cast
    ring

theorem interval_high :
    ((interval significand exponent).2.2 : ℚ) * 2 ^ (exponent - 2) =
      (significand + 1 / 2) * 2 ^ exponent := by
  have hpower : (2 : ℚ) ^ exponent = 2 ^ (exponent - 2) * 4 := by
    rw [zpow_sub₀ two_ne_zero]
    norm_num
  rw [hpower, interval]
  push_cast
  ring

/-- What a grid gives is in the interval, as a number. -/
theorem roundsTo_of_within (hpos : 0 < significand) (h : within significand exponent k d = true) :
    RoundsTo significand exponent (d * 10 ^ k) := by
  rw [within] at h
  dsimp only at h
  by_cases heven : significand % 2 = 0
  · rw [if_pos heven, Bool.and_eq_true, decide_eq_true_eq, decide_eq_true_eq, quarters_le,
      le_quarters, interval_low hpos, interval_high] at h
    exact ⟨h.1, h.2, fun hodd => by omega⟩
  · rw [if_neg heven, Bool.and_eq_true, decide_eq_true_eq, decide_eq_true_eq, quarters_lt,
      lt_quarters, interval_low hpos, interval_high] at h
    exact ⟨h.1.le, h.2.le, fun _ => h⟩

/-! ### The search -/

theorem roundsTo_search (hpos : 0 < significand) {grids : Nat}
    (h : ∃ j < grids, onGrid? tie significand exponent (k - j) ≠ none) :
    RoundsTo significand exponent ((search tie significand exponent grids k).coefficient *
      10 ^ (search tie significand exponent grids k).exponent) := by
  induction grids generalizing k with
  | zero =>
    obtain ⟨j, hj, -⟩ := h
    exact absurd hj (Nat.not_lt_zero j)
  | succ grids ih =>
    rw [search]
    split
    · rename_i d hd
      exact roundsTo_of_within hpos (within_of_onGrid? hd)
    · rename_i hnone
      refine ih ?_
      obtain ⟨j, hj, hgrid⟩ := h
      cases j with
      | zero => exact absurd (by simpa using hnone) hgrid
      | succ j =>
        refine ⟨j, Nat.lt_of_succ_lt_succ hj, ?_⟩
        have hstep : k - 1 - (j : Int) = k - ((j + 1 : Nat) : Int) := by omega
        rwa [hstep]

/-- The finest grid is as fine as a quarter of the last place of a number with the least number of
digits for its length. -/
theorem finest_grid_fits : ∀ i : Nat, i < 640 →
    10 ^ ((i : Int) - 342).toNat * 2 ^ (55 - (100000 * ((i : Int) - 324) + 30102) / 30103).toNat ≤
      2 ^ ((100000 * ((i : Int) - 324) + 30102) / 30103 - 55).toNat *
        10 ^ (342 - (i : Int)).toNat := by
  decide +kernel

/-- The grid nineteen steps below the top one is as fine as a quarter of the last place. -/
theorem finest_grid (h : Legal significand exponent) (hpos : 0 < significand) :
    (stepRatio exponent (topGrid significand exponent - 19)).2 ≤
      (stepRatio exponent (topGrid significand exponent - 19)).1 := by
  have hlength := log2_le hpos h.lt
  obtain ⟨hleast, hmost, -, -⟩ := h
  rw [leastExponent] at hleast
  rw [topGrid]
  have hleastGrid : 0 ≤ ((significand.log2 : Int) + 1 + exponent) * 30103 / 100000 + 324 := by
    omega
  obtain ⟨i, hi⟩ := Int.eq_ofNat_of_zero_le hleastGrid
  have hgrid := finest_grid_fits i (by omega)
  have hk : ((significand.log2 : Int) + 1 + exponent) * 30103 / 100000 + 1 - 19 = i - 342 := by
    omega
  rw [hk, stepRatio, neg_sub]
  simp only [Nat.shiftLeft_eq, Nat.pow_eq]
  generalize hbits : (100000 * ((i : Int) - 324) + 30102) / 30103 = bits at hgrid
  have hdown : (2 - exponent).toNat ≤ (55 - bits).toNat := by omega
  have hup : (bits - 55).toNat ≤ (exponent - 2).toNat := by omega
  calc
    10 ^ ((i : Int) - 342).toNat * 2 ^ (2 - exponent).toNat
    _ ≤ 10 ^ ((i : Int) - 342).toNat * 2 ^ (55 - bits).toNat :=
      Nat.mul_le_mul_left _ (Nat.pow_le_pow_right Nat.two_pos hdown)
    _ ≤ 2 ^ (bits - 55).toNat * 10 ^ (342 - (i : Int)).toNat := hgrid
    _ ≤ 2 ^ (exponent - 2).toNat * 10 ^ (342 - (i : Int)).toNat :=
      Nat.mul_le_mul_right _ (Nat.pow_le_pow_right Nat.two_pos hup)
    _ = 10 ^ (342 - (i : Int)).toNat * 2 ^ (exponent - 2).toNat := Nat.mul_comm _ _

/-- The shortest decimal of a number rounds to it. -/
theorem roundsTo_decimal (h : Legal significand exponent) (hpos : 0 < significand) :
    RoundsTo significand exponent ((decimal tie significand exponent).coefficient *
      10 ^ (decimal tie significand exponent).exponent) := by
  rw [decimal, if_neg hpos.ne']
  exact roundsTo_search hpos ⟨19, by decide, onGrid?_ne_none (finest_grid h hpos) hpos⟩

end SolrClause.Number.Shortest
