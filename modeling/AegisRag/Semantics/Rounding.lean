import Mathlib

/-!
# Rounding to nearest

Rounding of an exact rational to the nearest integer, ties to even, and from it the
rounding to the digits of a floating-point format of unbounded exponent.
-/

namespace AegisRag.Semantics

/-- The nearest integer; of two equally near ones the even. -/
def roundHalfEven (value : ℚ) : ℤ :=
  let below := ⌊value⌋
  if value - below < 1 / 2 then below
  else if 1 / 2 < value - below then below + 1
  else if below % 2 = 0 then below
  else below + 1

theorem roundHalfEven_cases (value : ℚ) :
    roundHalfEven value = ⌊value⌋ ∨
      (roundHalfEven value = ⌊value⌋ + 1 ∧ 1 / 2 ≤ value - ⌊value⌋) := by
  unfold roundHalfEven
  dsimp only
  split
  · exact .inl rfl
  · rename_i notBelow
    split
    · exact .inr ⟨rfl, not_lt.mp notBelow⟩
    · split
      · exact .inl rfl
      · exact .inr ⟨rfl, not_lt.mp notBelow⟩

theorem floor_le_roundHalfEven (value : ℚ) : ⌊value⌋ ≤ roundHalfEven value := by
  rcases roundHalfEven_cases value with same | ⟨above, -⟩
  · exact same.ge
  · omega

/-- A value never rounds past an integer. -/
theorem roundHalfEven_le {value : ℚ} {bound : ℤ} (le : value ≤ bound) :
    roundHalfEven value ≤ bound := by
  rcases roundHalfEven_cases value with same | ⟨above, far⟩
  · rw [same]
    exact Int.floor_le_iff.mpr (lt_of_le_of_lt le (lt_add_one _))
  · rw [above]
    -- a value that rounds up is no integer, so its floor is below the bound
    have notInt : (⌊value⌋ : ℚ) < value := by linarith
    have below : (⌊value⌋ : ℚ) < bound := lt_of_lt_of_le notInt le
    have := Int.cast_lt.mp below
    omega

theorem le_roundHalfEven {value : ℚ} {bound : ℤ} (le : (bound : ℚ) ≤ value) :
    bound ≤ roundHalfEven value :=
  (Int.le_floor.mpr le).trans (floor_le_roundHalfEven value)

/-- Rounding to `digits` digits of a base, with no bound on the exponent. -/
def roundDigits (base digits : ℕ) (value : ℚ) : ℚ :=
  let unit : ℚ := (base : ℚ) ^ (Int.log base |value| + 1 - digits)
  roundHalfEven (value / unit) * unit

def roundBinary (digits : ℕ) (value : ℚ) : ℚ := roundDigits 2 digits value

/-- A greater value never rounds to a smaller integer. -/
theorem roundHalfEven_monotone : Monotone roundHalfEven := by
  intro lower upper le
  rcases eq_or_lt_of_le (Int.floor_mono le) with same | less
  · unfold roundHalfEven
    dsimp only
    rw [same]
    split_ifs <;> first | omega | linarith
  · have above := floor_le_roundHalfEven upper
    have below : roundHalfEven lower ≤ ⌊lower⌋ + 1 :=
      roundHalfEven_le (by exact_mod_cast (Int.lt_floor_add_one lower).le)
    omega

section

variable {base digits : ℕ} {value bound : ℚ}

section

variable (isBase : 1 < base)

include isBase

theorem digitUnit_pos (digits : ℕ) (value : ℚ) :
    (0 : ℚ) < (base : ℚ) ^ (Int.log base |value| + 1 - digits) :=
  zpow_pos (by exact_mod_cast zero_lt_one.trans isBase) _

/-- A power of the base that is no finer than the last digit kept of a value is a whole number
of that digit. -/
theorem exists_intCast_eq_zpow_div (digits : ℕ) (value : ℚ)
    (coarse : Int.log base |value| < exponent + digits) :
    ∃ count : ℤ, (base : ℚ) ^ exponent / (base : ℚ) ^ (Int.log base |value| + 1 - digits) =
      count := by
  refine ⟨base ^ (exponent - (Int.log base |value| + 1 - digits)).toNat, ?_⟩
  rw [← zpow_sub₀ (by exact_mod_cast (zero_lt_one.trans isBase).ne')]
  push_cast
  rw [← zpow_natCast, Int.toNat_of_nonneg (by omega)]

theorem roundDigits_le {count : ℤ}
    (whole : bound / (base : ℚ) ^ (Int.log base |value| + 1 - digits) = count)
    (le : value ≤ bound) : roundDigits base digits value ≤ bound := by
  have positive := digitUnit_pos isBase digits value
  rw [roundDigits, ← le_div_iff₀ positive, whole]
  have scaled : value / (base : ℚ) ^ (Int.log base |value| + 1 - digits) ≤ count := by
    rw [← whole]
    exact div_le_div_of_nonneg_right le positive.le
  exact_mod_cast roundHalfEven_le scaled

theorem le_roundDigits {count : ℤ}
    (whole : bound / (base : ℚ) ^ (Int.log base |value| + 1 - digits) = count)
    (le : bound ≤ value) : bound ≤ roundDigits base digits value := by
  have positive := digitUnit_pos isBase digits value
  rw [roundDigits, ← div_le_iff₀ positive, whole]
  have scaled : (count : ℚ) ≤ value / (base : ℚ) ^ (Int.log base |value| + 1 - digits) := by
    rw [← whole]
    exact div_le_div_of_nonneg_right le positive.le
  exact_mod_cast le_roundHalfEven scaled

/-- A bound between two values that is a whole number of both last digits separates what
they round to. -/
theorem roundDigits_le_of_between {lower upper : ℚ} {below above : ℤ}
    (wholeBelow : bound / (base : ℚ) ^ (Int.log base |lower| + 1 - digits) = below)
    (wholeAbove : bound / (base : ℚ) ^ (Int.log base |upper| + 1 - digits) = above)
    (le : lower ≤ bound) (ge : bound ≤ upper) :
    roundDigits base digits lower ≤ roundDigits base digits upper :=
  (roundDigits_le isBase wholeBelow le).trans (le_roundDigits isBase wholeAbove ge)

/-- Rounding to at least one digit keeps the order. -/
theorem roundDigits_monotone (positive : 0 < digits) : Monotone (roundDigits base digits) := by
  intro lower upper le
  have isOne : (1 : ℚ) ≤ base := by exact_mod_cast isBase.le
  by_cases same : Int.log base |lower| = Int.log base |upper|
  · rw [roundDigits, roundDigits, same]
    have unitPositive := digitUnit_pos isBase digits upper
    apply mul_le_mul_of_nonneg_right _ unitPositive.le
    exact_mod_cast roundHalfEven_monotone (div_le_div_of_nonneg_right le unitPositive.le)
  -- otherwise a power of the base, its opposite or zero lies between the values
  · rcases lt_or_ge 0 lower with isPositive | notPositive
    · have upperPositive := isPositive.trans_le le
      rw [abs_of_pos isPositive, abs_of_pos upperPositive] at same
      have less : Int.log base lower < Int.log base upper :=
        lt_of_le_of_ne (Int.log_mono_right isPositive le) same
      obtain ⟨below, wholeBelow⟩ := exists_intCast_eq_zpow_div isBase digits lower
        (show _ < Int.log base upper + digits by rw [abs_of_pos isPositive]; omega)
      obtain ⟨above, wholeAbove⟩ := exists_intCast_eq_zpow_div isBase digits upper
        (show _ < Int.log base upper + digits by rw [abs_of_pos upperPositive]; omega)
      apply roundDigits_le_of_between isBase wholeBelow wholeAbove
      · apply (Int.lt_zpow_succ_log_self isBase lower).le.trans
        exact zpow_le_zpow_right₀ isOne (by omega)
      · exact Int.zpow_log_le_self isBase upperPositive
    · rcases lt_or_ge upper 0 with isNegative | notNegative
      · have lowerNegative := le.trans_lt isNegative
        rw [abs_of_neg lowerNegative, abs_of_neg isNegative] at same
        have less : Int.log base (-upper) < Int.log base (-lower) :=
          lt_of_le_of_ne (Int.log_mono_right (neg_pos.mpr isNegative) (neg_le_neg le))
            (Ne.symm same)
        obtain ⟨below, wholeBelow⟩ := exists_intCast_eq_zpow_div isBase digits lower
          (show _ < Int.log base (-lower) + digits by rw [abs_of_neg lowerNegative]; omega)
        obtain ⟨above, wholeAbove⟩ := exists_intCast_eq_zpow_div isBase digits upper
          (show _ < Int.log base (-lower) + digits by rw [abs_of_neg isNegative]; omega)
        have between : -(base : ℚ) ^ Int.log base (-lower) ≤ upper := by
          have inside := (Int.lt_zpow_succ_log_self isBase (-upper)).le
          have wider : (base : ℚ) ^ (Int.log base (-upper) + 1) ≤
              (base : ℚ) ^ Int.log base (-lower) := zpow_le_zpow_right₀ isOne (by omega)
          linarith
        have outside : lower ≤ -(base : ℚ) ^ Int.log base (-lower) := by
          have := Int.zpow_log_le_self isBase (neg_pos.mpr lowerNegative)
          linarith
        apply roundDigits_le_of_between isBase _ _ outside between
        · exact -below
        · exact -above
        · rw [neg_div, wholeBelow, Int.cast_neg]
        · rw [neg_div, wholeAbove, Int.cast_neg]
      · have zero : ∀ unit : ℚ, 0 / unit = ((0 : ℤ) : ℚ) := by simp
        exact roundDigits_le_of_between isBase (zero _) (zero _) notPositive notNegative

end

theorem roundBinary_monotone (positive : 0 < digits) : Monotone (roundBinary digits) :=
  roundDigits_monotone (by decide) positive

end

end AegisRag.Semantics
