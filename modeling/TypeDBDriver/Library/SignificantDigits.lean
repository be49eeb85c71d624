import Mathlib.Data.Int.Log
import Mathlib.Data.Rat.Floor
import TypeDBDriver.Library.Binary64

/-! Rounding of numbers to a count of significant decimal digits. -/

namespace TypeDBDriver.Library.SignificantDigits

def nearestInteger (number : Rat) : Int :=
  number.num.sign * Binary64.roundHalfEven number.num.natAbs number.den

def quantum (precision : Nat) (number : Rat) : Rat :=
  10 ^ (Int.log 10 |number| + 1 - precision)

def round (precision : Nat) (number : Rat) : Rat :=
  nearestInteger (number / quantum precision number) * quantum precision number

def Fits (precision : Nat) (number : Rat) : Prop :=
  ∃ coefficient exp : Int,
    |coefficient| < 10 ^ precision ∧ number = coefficient * 10 ^ exp

@[simp] theorem nearestInteger_intCast (number : Int) : nearestInteger number = number := by
  have exact_ := Binary64.roundHalfEven_of_dvd number.natAbs Nat.one_pos
  rw [Nat.mul_one] at exact_
  rw [nearestInteger, Rat.num_intCast, Rat.den_intCast, exact_, Int.sign_mul_natAbs]

variable {precision : Nat} {number : Rat}

theorem ten_ne_zero : (10 : Rat) ≠ 0 := by norm_num

theorem quantum_pos : 0 < quantum precision number := zpow_pos (by norm_num) _

theorem abs_lt_quantum (precision : Nat) (number : Rat) :
    |number| < 10 ^ precision * quantum precision number := by
  have bound : |number| < 10 ^ (Int.log 10 |number| + 1) := by
    exact_mod_cast Int.lt_zpow_succ_log_self (by decide : 1 < 10) |number|
  have sum :
      (precision : Int) + (Int.log 10 |number| + 1 - precision) = Int.log 10 |number| + 1 := by
    omega
  rwa [quantum, ← zpow_natCast, ← zpow_add₀ ten_ne_zero, sum]

theorem fits_of_multiple {coefficient : Int}
    (multiple : coefficient * quantum precision number = number) : Fits precision number := by
  refine ⟨coefficient, _, ?_, multiple.symm⟩
  have bound := abs_lt_quantum precision number
  have absolute : |number| = |(coefficient : Rat)| * quantum precision number := by
    conv_lhs => rw [← multiple]
    rw [abs_mul, abs_of_pos quantum_pos]
  rw [absolute] at bound
  exact_mod_cast lt_of_mul_lt_mul_right bound quantum_pos.le

theorem multiple_of_fits (nonzero : number ≠ 0) (fits : Fits precision number) :
    ∃ coefficient : Int, number / quantum precision number = coefficient := by
  obtain ⟨coefficient, exp, bound, same⟩ := fits
  have bound : |(coefficient : Rat)| < 10 ^ (precision : Int) := by
    rw [zpow_natCast]
    exact_mod_cast bound
  have least : (10 : Rat) ^ Int.log 10 |number| ≤ |number| := by
    exact_mod_cast Int.zpow_log_le_self (by decide : 1 < 10) (abs_pos.mpr nonzero)
  have greatest : |number| < 10 ^ (precision + exp) := by
    have power : (0 : Rat) < 10 ^ exp := zpow_pos (by norm_num) exp
    rw [same, abs_mul, abs_of_pos power, zpow_add₀ ten_ne_zero]
    exact mul_lt_mul_of_pos_right bound power
  have magnitude : Int.log 10 |number| < precision + exp :=
    (zpow_lt_zpow_iff_right₀ (by norm_num)).mp (lt_of_le_of_lt least greatest)
  obtain ⟨zeros, shift⟩ := Int.eq_ofNat_of_zero_le
    (by omega : 0 ≤ exp - (Int.log 10 |number| + 1 - precision))
  refine ⟨coefficient * 10 ^ zeros, ?_⟩
  rw [quantum, div_eq_iff (zpow_ne_zero _ ten_ne_zero)]
  conv_lhs => rw [same]
  push_cast
  rw [mul_assoc, ← zpow_natCast, ← zpow_add₀ ten_ne_zero]
  congr 2
  omega

theorem round_eq_self_iff : round precision number = number ↔ Fits precision number := by
  refine ⟨fits_of_multiple, fun fits => ?_⟩
  by_cases zero : number = 0
  · rw [zero]
    simp [round, nearestInteger]
  · obtain ⟨coefficient, multiple⟩ := multiple_of_fits zero fits
    rw [round, multiple, nearestInteger_intCast, ← multiple, div_mul_cancel₀ _ quantum_pos.ne']

end TypeDBDriver.Library.SignificantDigits
