import TypeDBDriver.Concept.DecimalProperties
import TypeDBDriver.Concept.Getters
import TypeDBDriver.Library.BigDecimal
import TypeDBDriver.Library.SignificantDigits

/-! The decimals that the Java and the Python driver return for a decimal of the server. -/

namespace TypeDBDriver

open Library
open JavaTime (JavaException)

namespace Java

def decimalScale : Nat := 19

def fractionalPart (nativeFractional : Nat) : Except JavaException BigDecimal := do
  let scaled ← (BigDecimal.ofInteger nativeFractional).setScale decimalScale
  let divisor ← BigDecimal.ten.pow decimalScale
  scaled.divide divisor

def tryGetDecimal (concept : Concept) : Except JavaException (Option BigDecimal) :=
  if concept.isType then .ok none
  else
    match concept.tryGetValue with
    | some (.decimal nativeDecimal) => do
        let integerPart := BigDecimal.ofInteger nativeDecimal.integer.toInt
        let fractionalPart ← fractionalPart nativeDecimal.fractional.toNat
        .ok (some (integerPart.add fractionalPart))
    | _ => .ok none

end Java

namespace Python

def decimalScale : Nat := 19

/-- The significant digits that the default context of the `decimal` module keeps. -/
def contextPrecision : Nat := 28

/-- `_Concept.try_get_decimal`, as the number of the `Decimal`. An integer becomes a `Decimal` as it
is, and the result of each operator is rounded. -/
def tryGetDecimal (concept : Concept) : Option Rat :=
  if concept.isType then none
  else
    match concept.tryGetValue with
    | some (.decimal nativeDecimal) =>
      let integer : Rat := nativeDecimal.integer.toInt
      let fractional : Rat := nativeDecimal.fractional.toNat
      some (SignificantDigits.round contextPrecision (integer +
        SignificantDigits.round contextPrecision (fractional / (10 ^ decimalScale : Nat))))
    | _ => none

end Python

namespace Decimal

variable {decimal : Decimal} {concept : Concept}

theorem denominator_eq : (fractionalPartDenominator : Rat) = 10 ^ (19 : Int) := by
  norm_num [fractionalPartDenominator]

theorem java_fractionalPart (fractional : Nat) :
    Java.fractionalPart fractional = .ok ⟨fractional, Java.decimalScale⟩ := by
  rw [Java.fractionalPart, BigDecimal.setScale_ofInteger, JavaTime.ok_bind,
    BigDecimal.pow_ten (by decide), JavaTime.ok_bind, BigDecimal.divide_pow_ten]

theorem java_exact (holds : concept.tryGetValue = some (.decimal decimal)) :
    ∃ number, Java.tryGetDecimal concept = .ok (some number) ∧ number.value = decimal.rational := by
  refine ⟨(BigDecimal.ofInteger decimal.integer.toInt).add
    ⟨decimal.fractional.toNat, Java.decimalScale⟩, ?_, ?_⟩
  · rw [Java.tryGetDecimal, Concept.isType_of_tryGetValue holds, holds]
    change (Java.fractionalPart decimal.fractional.toNat >>= _) = _
    rw [java_fractionalPart, JavaTime.ok_bind]
  · rw [BigDecimal.value_add, rational, div_eq_mul_inv, denominator_eq]
    simp [BigDecimal.value, BigDecimal.ofInteger, Java.decimalScale, zpow_neg]

/-- The digits of a decimal, those after the point included, that are left without the zeros at
the end. -/
theorem fits_rational_iff (precision : Nat) (decimal : Decimal) :
    SignificantDigits.Fits precision decimal.rational ↔
      ∃ zeros : Nat, (10 ^ zeros : Int) ∣ decimal.value ∧
        |decimal.value| < 10 ^ (precision + zeros) := by
  have ten := SignificantDigits.ten_ne_zero
  rw [rational_eq, denominator_eq]
  constructor
  · intro fits
    obtain ⟨coefficient, exp, bound, same⟩ := fits
    rw [div_eq_iff (zpow_ne_zero _ ten), mul_assoc, ← zpow_add₀ ten] at same
    rcases le_or_gt 0 (exp + 19) with whole | split
    · obtain ⟨zeros, shift⟩ := Int.eq_ofNat_of_zero_le whole
      rw [shift, zpow_natCast] at same
      have same : decimal.value = coefficient * 10 ^ zeros := by exact_mod_cast same
      refine ⟨zeros, ⟨coefficient, same.trans (Int.mul_comm _ _)⟩, ?_⟩
      rw [same, abs_mul, abs_of_pos (by positivity : (0 : Int) < 10 ^ zeros), pow_add]
      exact mul_lt_mul_of_pos_right bound (by positivity)
    · obtain ⟨places, shift⟩ := Int.eq_ofNat_of_zero_le (by omega : 0 ≤ -(exp + 19))
      rw [eq_comm, ← eq_mul_inv_iff_mul_eq₀ (zpow_ne_zero _ ten), ← zpow_neg, shift,
        zpow_natCast] at same
      have same : coefficient = decimal.value * 10 ^ places := by exact_mod_cast same
      refine ⟨0, one_dvd _, lt_of_le_of_lt ?_ bound⟩
      rw [same, abs_mul]
      exact le_mul_of_one_le_right (abs_nonneg _) (Int.one_le_abs (by positivity))
  · intro digits
    obtain ⟨zeros, ⟨coefficient, same⟩, bound⟩ := digits
    refine ⟨coefficient, zeros - 19, ?_, ?_⟩
    · rw [same, abs_mul, abs_of_pos (by positivity), Nat.add_comm, pow_add] at bound
      exact lt_of_mul_lt_mul_left bound (by positivity)
    · rw [same, zpow_sub₀ ten, zpow_natCast]
      push_cast
      ring

theorem python_quotient (decimal : Decimal) :
    SignificantDigits.round Python.contextPrecision
      ((decimal.fractional.toNat : Rat) / (10 ^ Python.decimalScale : Nat)) =
      decimal.fractional.toNat / fractionalPartDenominator := by
  refine SignificantDigits.round_eq_self_iff.mpr ⟨decimal.fractional.toNat, -19, ?_, ?_⟩
  · have bound := decimal.toNat_fractional_lt
    rw [Nat.abs_cast]
    exact_mod_cast Nat.lt_trans bound (by decide)
  · rw [zpow_neg, ← div_eq_mul_inv]
    norm_num [Python.decimalScale]

theorem python_rounds (holds : concept.tryGetValue = some (.decimal decimal)) :
    Python.tryGetDecimal concept =
      some (SignificantDigits.round Python.contextPrecision decimal.rational) := by
  rw [Python.tryGetDecimal, Concept.isType_of_tryGetValue holds, holds]
  change some (SignificantDigits.round _ (_ + SignificantDigits.round _ _)) = _
  rw [python_quotient, rational]

/-- Java returns the number itself. Python returns it exactly if it has at most 28 significant
digits. -/
theorem drivers_exact_iff (decimal : Decimal) (concept : Concept)
    (holds : concept.tryGetValue = some (.decimal decimal)) :
    (∃ number, Java.tryGetDecimal concept = .ok (some number) ∧ number.value = decimal.rational) ∧
    (Python.tryGetDecimal concept = some decimal.rational ↔
      ∃ zeros : Nat, (10 ^ zeros : Int) ∣ decimal.value ∧
        |decimal.value| < 10 ^ (28 + zeros)) := by
  refine ⟨java_exact holds, ?_⟩
  rw [python_rounds holds, Option.some_inj, SignificantDigits.round_eq_self_iff, fits_rational_iff]
  rfl

/-- The greatest integer, whose zeros after the point do not count. -/
theorem drivers_exact_iff_integer :
    Python.tryGetDecimal (.value (.decimal ⟨Int64.maxValue, 0, by decide⟩)) =
      some 9223372036854775807 := by
  have exact_ := (drivers_exact_iff ⟨Int64.maxValue, 0, by decide⟩
    (.value (.decimal ⟨Int64.maxValue, 0, by decide⟩)) rfl).2.mpr ⟨19, by decide, by decide⟩
  rw [exact_]
  decide +kernel

/-- The last of 29 digits is lost. -/
theorem python_rounds_decimal :
    rational ⟨1000000000, 1, by decide⟩ = 10000000000000000000000000001 / 10 ^ 19 ∧
    Python.tryGetDecimal (.value (.decimal ⟨1000000000, 1, by decide⟩)) = some 1000000000 := by
  decide +kernel

end Decimal

end TypeDBDriver
