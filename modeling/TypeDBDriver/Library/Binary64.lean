import Mathlib.Data.Nat.Cast.Order.Basic
import Mathlib.Data.Nat.Log

/-! Magnitudes of the binary64 format. A magnitude is the number that its bits without the sign
form, its ordinal, and all of them are multiples of the least one, `2 ^ -1074`. -/

namespace TypeDBDriver.Library.Binary64

def roundHalfEven (num den : Nat) : Nat :=
  if 2 * (num % den) < den then num / den
  else if den < 2 * (num % den) then num / den + 1
  else num / den + num / den % 2

/-- The least magnitude is two to the power of minus this. -/
def precision : Nat := 1074

def infinity : Nat := 2047 * 2 ^ 52

def units (ordinal : Nat) : Nat :=
  if ordinal < 2 ^ 53 then ordinal else (ordinal % 2 ^ 52 + 2 ^ 52) * 2 ^ (ordinal / 2 ^ 52 - 1)

/-- The magnitude nearest to `num / den` times `2 ^ -1074`. The significand has 53 bits, so
that `num / den` is divided by a power of two until 53 bits are left. -/
def nearest (num den : Nat) : Nat :=
  let shift := (num / den).log2 - 52
  min infinity (shift * 2 ^ 52 + roundHalfEven num (den * 2 ^ shift))

def ofDecimal (digits : Nat) (exp : Int) : Nat :=
  nearest (digits * 10 ^ exp.toNat * 2 ^ precision) (10 ^ (-exp).toNat)

theorem roundHalfEven_mul (num den : Nat) {factor : Nat} (pos : 0 < factor) :
    roundHalfEven (num * factor) (den * factor) = roundHalfEven num den := by
  have quotient : num * factor / (den * factor) = num / den := Nat.mul_div_mul_right _ _ pos
  have remainder : num * factor % (den * factor) = num % den * factor := Nat.mul_mod_mul_right ..
  have below : 2 * (num % den * factor) < den * factor ↔ 2 * (num % den) < den := by
    rw [← Nat.mul_assoc]
    exact Nat.mul_lt_mul_right pos
  have above : den * factor < 2 * (num % den * factor) ↔ den < 2 * (num % den) := by
    rw [← Nat.mul_assoc]
    exact Nat.mul_lt_mul_right pos
  simp only [roundHalfEven, quotient, remainder, below, above]

theorem roundHalfEven_of_dvd (quotient : Nat) {den : Nat} (pos : 0 < den) :
    roundHalfEven (quotient * den) den = quotient := by
  simp [roundHalfEven, pos]

theorem roundHalfEven_bounds (num den : Nat) :
    num / den ≤ roundHalfEven num den ∧ roundHalfEven num den ≤ num / den + 1 := by
  unfold roundHalfEven
  split
  · omega
  · split <;> omega

theorem nearest_mul (num den : Nat) {factor : Nat} (pos : 0 < factor) :
    nearest (num * factor) (den * factor) = nearest num den := by
  have quotient : num * factor / (den * factor) = num / den := Nat.mul_div_mul_right _ _ pos
  simp only [nearest, quotient]
  rw [Nat.mul_right_comm, roundHalfEven_mul num _ pos]

theorem nearest_congr {num den num' den' : Nat} (pos : 0 < den) (positive' : 0 < den')
    (same : num * den' = num' * den) : nearest num den = nearest num' den' := by
  calc nearest num den
      = nearest (num * den') (den * den') := (nearest_mul num den positive').symm
    _ = nearest (num' * den) (den' * den) := by rw [same, Nat.mul_comm den den']
    _ = nearest num' den' := nearest_mul num' den' pos

variable {number : Nat}

theorem log2_mul_two_pow (pos : 0 < number) (shift : Nat) :
    (number * 2 ^ shift).log2 = number.log2 + shift := by
  obtain ⟨lower, upper⟩ := (Nat.log2_eq_iff (Nat.ne_of_gt pos)).mp (rfl : number.log2 = _)
  have power : 0 < 2 ^ shift := Nat.pow_pos (by decide)
  rw [Nat.log2_eq_iff (Nat.ne_of_gt (Nat.mul_pos pos power))]
  constructor
  · rw [Nat.pow_add]
    exact Nat.mul_le_mul_right _ lower
  · rw [Nat.add_right_comm, Nat.pow_add]
    exact Nat.mul_lt_mul_of_pos_right upper power

/-- A significand of 53 bits and its shift. Rounding can reach the next power of two. -/
theorem units_of_significand {significand : Nat} (lower : 2 ^ 52 ≤ significand)
    (upper : significand ≤ 2 ^ 53) (shift : Nat) :
    units (shift * 2 ^ 52 + significand) = significand * 2 ^ shift := by
  unfold units
  by_cases small : shift * 2 ^ 52 + significand < 2 ^ 53
  · have unshifted : shift = 0 := by omega
    rw [if_pos small, unshifted]
    omega
  rw [if_neg small]
  by_cases reached : significand = 2 ^ 53
  · have remainder : (shift * 2 ^ 52 + significand) % 2 ^ 52 = 0 := by omega
    have quotient : (shift * 2 ^ 52 + significand) / 2 ^ 52 - 1 = shift + 1 := by omega
    rw [remainder, quotient, Nat.pow_succ, reached]
    omega
  · have remainder : (shift * 2 ^ 52 + significand) % 2 ^ 52 + 2 ^ 52 = significand := by omega
    have quotient : (shift * 2 ^ 52 + significand) / 2 ^ 52 - 1 = shift := by omega
    rw [remainder, quotient]

variable {ordinal : Nat}

theorem nearest_units (finite : ordinal < infinity) : nearest (units ordinal) 1 = ordinal := by
  simp only [nearest, Nat.div_one, Nat.one_mul]
  by_cases small : ordinal < 2 ^ 53
  · have unshifted : ordinal.log2 - 52 = 0 := by
      rcases Nat.eq_zero_or_pos ordinal with rfl | pos
      · rfl
      · have bound := (Nat.log2_lt (Nat.ne_of_gt pos)).mpr small
        omega
    have rounded : roundHalfEven ordinal (2 ^ 0) = ordinal := by
      simpa using roundHalfEven_of_dvd ordinal Nat.one_pos
    rw [units, if_pos small, unshifted, rounded]
    omega
  · have shifted : units ordinal =
        (ordinal % 2 ^ 52 + 2 ^ 52) * 2 ^ (ordinal / 2 ^ 52 - 1) := if_neg small
    have width : (ordinal % 2 ^ 52 + 2 ^ 52).log2 = 52 :=
      (Nat.log2_eq_iff (by omega)).mpr (by omega)
    have shift : (units ordinal).log2 - 52 = ordinal / 2 ^ 52 - 1 := by
      rw [shifted, log2_mul_two_pow (by omega), width]
      omega
    rw [shift, shifted, roundHalfEven_of_dvd _ (Nat.pow_pos (by decide))]
    omega

def roundInteger (number : Nat) : Nat :=
  roundHalfEven number (2 ^ (number.log2 - 52)) * 2 ^ (number.log2 - 52)

theorem roundInteger_eq_self_iff (number : Nat) :
    roundInteger number = number ↔ 2 ^ (number.log2 - 52) ∣ number := by
  have pos : 0 < 2 ^ (number.log2 - 52) := Nat.pow_pos (by decide)
  constructor
  · intro same
    exact Dvd.intro_left _ same
  · intro divides
    obtain ⟨quotient, shape⟩ := divides
    have multiple : number = quotient * 2 ^ (number.log2 - 52) := by rw [Nat.mul_comm, ← shape]
    calc roundInteger number
        = roundHalfEven (quotient * 2 ^ (number.log2 - 52)) (2 ^ (number.log2 - 52)) *
            2 ^ (number.log2 - 52) := by rw [← multiple, roundInteger]
      _ = number := by rw [roundHalfEven_of_dvd quotient pos, ← multiple]

structure IsSignificand (number significand : Nat) : Prop where
  lower : 2 ^ 52 ≤ significand
  upper : significand ≤ 2 ^ 53
  rounded : roundHalfEven (number * 2 ^ precision) (2 ^ (number.log2 + 1022)) = significand
  shifted : significand * 2 ^ (number.log2 + 1022) = roundInteger number * 2 ^ precision

theorem isSignificand_of_wide (pos : 0 < number) (wide : 52 ≤ number.log2) :
    IsSignificand number (roundHalfEven number (2 ^ (number.log2 - 52))) := by
  obtain ⟨lower, upper⟩ := (Nat.log2_eq_iff (Nat.ne_of_gt pos)).mp (rfl : number.log2 = _)
  have exp : number.log2 + 1022 = number.log2 - 52 + precision := by
    unfold precision
    omega
  have scale : 2 ^ (number.log2 + 1022) = 2 ^ (number.log2 - 52) * 2 ^ precision := by
    rw [exp, Nat.pow_add]
  have least : 2 ^ 52 ≤ number / 2 ^ (number.log2 - 52) := by
    rw [Nat.le_div_iff_mul_le (Nat.pow_pos (by decide)), ← Nat.pow_add]
    exact Nat.le_trans (Nat.pow_le_pow_right (by decide) (by omega)) lower
  have most : number / 2 ^ (number.log2 - 52) < 2 ^ 53 := by
    rw [Nat.div_lt_iff_lt_mul (Nat.pow_pos (by decide)), ← Nat.pow_add]
    exact Nat.lt_of_lt_of_le upper (Nat.pow_le_pow_right (by decide) (by omega))
  have bounds := roundHalfEven_bounds number (2 ^ (number.log2 - 52))
  constructor
  · omega
  · omega
  · rw [scale, roundHalfEven_mul _ _ (Nat.pow_pos (by decide))]
  · rw [scale, ← Nat.mul_assoc, roundInteger]

theorem isSignificand_of_narrow (pos : 0 < number) (narrow : number.log2 < 52) :
    IsSignificand number (number * 2 ^ (52 - number.log2)) := by
  obtain ⟨lower, upper⟩ := (Nat.log2_eq_iff (Nat.ne_of_gt pos)).mp (rfl : number.log2 = _)
  have exp : precision = 52 - number.log2 + (number.log2 + 1022) := by
    unfold precision
    omega
  have scale : number * 2 ^ precision =
      number * 2 ^ (52 - number.log2) * 2 ^ (number.log2 + 1022) := by
    rw [Nat.mul_assoc, ← Nat.pow_add, ← exp]
  have exact_ : roundInteger number = number := by
    rw [roundInteger_eq_self_iff, Nat.sub_eq_zero_of_le (Nat.le_of_lt narrow)]
    exact Nat.one_dvd number
  constructor
  · calc 2 ^ 52 = 2 ^ number.log2 * 2 ^ (52 - number.log2) := by
          rw [← Nat.pow_add, Nat.add_sub_cancel' (Nat.le_of_lt narrow)]
      _ ≤ number * 2 ^ (52 - number.log2) := Nat.mul_le_mul_right _ lower
  · calc number * 2 ^ (52 - number.log2)
        ≤ 2 ^ (number.log2 + 1) * 2 ^ (52 - number.log2) :=
          Nat.mul_le_mul_right _ (Nat.le_of_lt upper)
      _ = 2 ^ 53 := by
          rw [← Nat.pow_add, show number.log2 + 1 + (52 - number.log2) = 53 by omega]
  · rw [scale]
    exact roundHalfEven_of_dvd _ (Nat.pow_pos (by decide))
  · rw [exact_]
    exact scale.symm

theorem exists_isSignificand (pos : 0 < number) :
    ∃ significand, IsSignificand number significand := by
  rcases Nat.lt_or_ge number.log2 52 with narrow | wide
  · exact ⟨_, isSignificand_of_narrow pos narrow⟩
  · exact ⟨_, isSignificand_of_wide pos wide⟩

theorem roundInteger_pos (pos : 0 < number) : 0 < roundInteger number := by
  obtain ⟨significand, lower, _, _, shifted⟩ := exists_isSignificand pos
  have shiftedPositive : 0 < roundInteger number * 2 ^ precision := by
    rw [← shifted]
    exact Nat.mul_pos (by omega) (Nat.pow_pos (by decide))
  exact Nat.pos_of_mul_pos_right shiftedPositive

theorem nearest_integer (bounded : number < 2 ^ 64) :
    nearest (number * 2 ^ precision) 1 < infinity ∧
      units (nearest (number * 2 ^ precision) 1) = roundInteger number * 2 ^ precision := by
  rcases Nat.eq_zero_or_pos number with rfl | pos
  · have zero : nearest (0 * 2 ^ precision) 1 = 0 := by
      rw [Nat.zero_mul]
      decide
    rw [zero]
    exact ⟨by decide, by simp [units, roundInteger, roundHalfEven]⟩
  · obtain ⟨significand, lower, upper, rounded, shifted⟩ := exists_isSignificand pos
    have size : number.log2 < 64 := (Nat.log2_lt (Nat.ne_of_gt pos)).mpr bounded
    have shift : (number * 2 ^ precision / 1).log2 - 52 = number.log2 + 1022 := by
      rw [Nat.div_one, log2_mul_two_pow pos]
      unfold precision
      omega
    have ordinal : nearest (number * 2 ^ precision) 1 =
        (number.log2 + 1022) * 2 ^ 52 + significand := by
      simp only [nearest, shift, Nat.one_mul, rounded]
      apply Nat.min_eq_right
      unfold infinity
      omega
    rw [ordinal, units_of_significand lower upper, shifted]
    refine ⟨?_, rfl⟩
    unfold infinity
    omega

def decimalPoint (ordinal : Nat) : Nat := Nat.log 10 (units ordinal * 10 ^ 350 / 2 ^ precision) + 1

/-- The two decimals with this many digits that enclose the magnitude, as far as they round
back to it, the closer one of two. -/
def decimalAt (ordinal places : Nat) : Option (Nat × Int) :=
  let num := units ordinal * 10 ^ (places + 350)
  let den := 2 ^ precision * 10 ^ decimalPoint ordinal
  let exp : Int := decimalPoint ordinal - 350 - places
  let below := num / den
  let above := num / den + 1
  if ofDecimal below exp = ordinal ∧
      (ofDecimal above exp ≠ ordinal ∨ 2 * (num % den) < den) then some (below, exp)
  else if ofDecimal above exp = ordinal then some (above, exp)
  else none

/-- The decimal with the fewest digits that rounds back to the magnitude. Seventeen digits are
enough for every magnitude. -/
def shortestDecimal (ordinal : Nat) : Nat × Int :=
  ((List.range 17).findSome? fun places => decimalAt ordinal (places + 1)).getD
    (units ordinal * 5 ^ precision, -precision)

theorem decimalAt_roundsBack {places : Nat} {decimal : Nat × Int}
    (found : decimalAt ordinal places = some decimal) :
    ofDecimal decimal.1 decimal.2 = ordinal := by
  unfold decimalAt at found
  dsimp only at found
  split at found
  · next enclosed =>
      rw [← Option.some.inj found]
      exact enclosed.1
  · split at found
    · next roundsBack =>
        rw [← Option.some.inj found]
        exact roundsBack
    · exact absurd found (by simp)

theorem shortestDecimal_roundsBack (finite : ordinal < infinity) :
    ofDecimal (shortestDecimal ordinal).1 (shortestDecimal ordinal).2 = ordinal := by
  unfold shortestDecimal
  cases search : (List.range 17).findSome? fun places => decimalAt ordinal (places + 1) with
  | some decimal =>
    obtain ⟨places, _, found⟩ := List.exists_of_findSome?_eq_some search
    exact decimalAt_roundsBack found
  | none =>
    -- the expansion of the magnitude to its last digit
    calc ofDecimal (units ordinal * 5 ^ precision) (-precision)
        = nearest (units ordinal * 5 ^ precision * 2 ^ precision) (10 ^ precision) := by
          simp [ofDecimal]
      _ = nearest (units ordinal * 10 ^ precision) (1 * 10 ^ precision) := by
          rw [Nat.mul_assoc, ← Nat.mul_pow, Nat.one_mul]
      _ = nearest (units ordinal) 1 := nearest_mul _ _ (Nat.pow_pos (by decide))
      _ = ordinal := nearest_units finite

end TypeDBDriver.Library.Binary64
