import SolrClause.Number.Shortest

/-! Zero is the shortest decimal of no number but zero, and there it has no exponent. -/

namespace SolrClause.Number.Shortest

variable {tie : Tie} {significand : Nat} {exponent k : Int}

theorem low_pos (h : 0 < significand) : 0 < (interval significand exponent).1 := by
  simp only [interval]
  split <;> omega

theorem up_pos : 0 < (stepRatio exponent k).1 := by
  simp only [stepRatio, Nat.shiftLeft_eq]
  exact Nat.mul_pos (Nat.pow_pos (by decide)) (Nat.two_pow_pos _)

theorem down_pos : 0 < (stepRatio exponent k).2 := by
  simp only [stepRatio, Nat.shiftLeft_eq]
  exact Nat.mul_pos (Nat.pow_pos (by decide)) (Nat.two_pow_pos _)

/-- The numbers that round to a positive number are above zero. -/
theorem onGrid?_ne_zero {d : Nat} (h : 0 < significand)
    (hd : onGrid? tie significand exponent k = some d) : d ≠ 0 := by
  have hend : 0 < (interval significand exponent).1 * (stepRatio exponent k).1 :=
    Nat.mul_pos (low_pos h) up_pos
  rw [onGrid?] at hd
  generalize interval significand exponent = ends at hd hend
  generalize stepRatio exponent k = ratio at hd hend
  obtain ⟨low, middle, high⟩ := ends
  obtain ⟨up, down⟩ := ratio
  dsimp only at hd hend
  generalize middle * up / down = floor at hd
  have hwithin : (if significand % 2 = 0 then low * up ≤ floor * down && floor * down ≤ high * up
      else low * up < floor * down && floor * down < high * up) = true → 0 < floor := by
    intro hin
    rcases Nat.eq_zero_or_pos floor with rfl | hfloor
    · rw [Nat.zero_mul] at hin
      split at hin
      · simp [Nat.not_le.mpr hend] at hin
      · simp at hin
    · exact hfloor
  split at hd
  · have hfloor : 0 < floor := hwithin ‹_›
    repeat' split at hd
    all_goals
      cases hd
      omega
  · have hfloor : 0 < floor := hwithin ‹_›
    cases hd
    omega
  · cases hd
    omega
  · cases hd

theorem exponent_search {grids : Nat} (h : 0 < significand)
    (hzero : (search tie significand exponent grids k).coefficient = 0) :
    (search tie significand exponent grids k).exponent = 0 := by
  induction grids generalizing k with
  | zero => rfl
  | succ grids ih =>
    rw [search] at hzero ⊢
    split at hzero
    · rename_i d hd
      exact absurd hzero (onGrid?_ne_zero h hd)
    · exact ih hzero

theorem exponent_decimal (hzero : (decimal tie significand exponent).coefficient = 0) :
    (decimal tie significand exponent).exponent = 0 := by
  by_cases h : significand = 0
  · rw [decimal, if_pos h]
  · rw [decimal, if_neg h] at hzero ⊢
    exact exponent_search (Nat.pos_of_ne_zero h) hzero

end SolrClause.Number.Shortest
