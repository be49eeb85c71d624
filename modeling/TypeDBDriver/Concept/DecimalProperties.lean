import Mathlib.Algebra.Order.Field.Rat
import Mathlib.Tactic.FieldSimp
import Mathlib.Tactic.Ring
import TypeDBDriver.Concept.DecimalArithmetic
import TypeDBDriver.Concept.Display

/-! What the operators of `Decimal` compute and what its text denotes. -/

namespace TypeDBDriver.Decimal

open Library
open Int64 (minValue toInt_inj toInt_ofInt_of_le)

def value (decimal : Decimal) : Int :=
  decimal.integer.toInt * fractionalPartDenominator + decimal.fractional.toNat

theorem toNat_denominator : denominator.toNat = fractionalPartDenominator := by decide

theorem toNat_fractional_lt (decimal : Decimal) : decimal.fractional.toNat < 10 ^ 19 :=
  decimal.valid

variable {decimal : Decimal}

theorem new_eq_ok_iff {ε : Type} {integer : Int64} {fractional : UInt64} :
    (Decimal.new integer fractional : Outcome ε Decimal) = .ok decimal ↔
      decimal.integer = integer ∧ decimal.fractional = fractional := by
  unfold Decimal.new
  split
  · next valid =>
      rw [Outcome.ok.injEq]
      constructor
      · rintro rfl
        exact ⟨rfl, rfl⟩
      · rintro ⟨rfl, rfl⟩
        rfl
  · next invalid =>
      constructor
      · intro impossible
        cases impossible
      · rintro ⟨rfl, rfl⟩
        exact absurd decimal.valid invalid

section Fractions

open FixedWidth

variable {lhs rhs : UInt64} (lhsValid : lhs.toNat < 10 ^ 19) (rhsValid : rhs.toNat < 10 ^ 19)

include lhsValid rhsValid

/-- No arm of the match panics: `10 ^ 19` lies between `2 ^ 63` and `2 ^ 64`, so a sum of two
fractions that wraps is below the denominator again. -/
theorem addFractional_exact :
    ∃ fractional carry, addFractional lhs rhs = .ok (fractional, carry) ∧
      fractional.toNat < 10 ^ 19 ∧ (carry.toInt = 0 ∨ carry.toInt = 1) ∧
      fractional.toNat + carry.toInt * 10 ^ 19 = lhs.toNat + rhs.toNat := by
  have size : denominator.toNat = 10 ^ 19 := toNat_denominator
  have sum := UInt64.toNat_add lhs rhs
  by_cases wraps : 2 ^ 64 ≤ lhs.toNat + rhs.toNat
  · have below : lhs + rhs < denominator := by
      rw [UInt64.lt_iff_toNat_lt]
      omega
    have distance : (0 - denominator).toNat = 2 ^ 64 - 10 ^ 19 := by decide
    have restored := UInt64.toNat_add (lhs + rhs) (0 - denominator)
    have added : (checkedAdd (lhs + rhs) (0 - denominator) : Outcome Empty UInt64) =
        .ok (lhs + rhs + (0 - denominator)) := by
      rw [checkedAdd_eq_ok_iff, toInt_uint64, toInt_uint64, toInt_uint64]
      omega
    refine ⟨lhs + rhs + (0 - denominator), 1, ?_, ?_, .inr rfl, ?_⟩
    · simp only [addFractional, overflowingAdd, wraps, decide_true, if_pos below, added,
        Outcome.ok_bind]
    · omega
    · have one : Int64.toInt 1 = 1 := rfl
      omega
  · rw [Nat.mod_eq_of_lt (Nat.lt_of_not_le wraps)] at sum
    by_cases below : lhs + rhs < denominator
    · refine ⟨lhs + rhs, 0, ?_, ?_, .inl rfl, ?_⟩
      · simp only [addFractional, overflowingAdd, wraps, decide_false, if_pos below]
      · rw [UInt64.lt_iff_toNat_lt, size] at below
        exact below
      · have zero : Int64.toInt 0 = 0 := rfl
        omega
    · have notBelow : denominator ≤ lhs + rhs := UInt64.not_lt.mp below
      have difference := UInt64.toNat_sub_of_le _ _ notBelow
      rw [UInt64.le_iff_toNat_le] at notBelow
      have subtracted : (checkedSub (lhs + rhs) denominator : Outcome Empty UInt64) =
          .ok (lhs + rhs - denominator) := by
        rw [checkedSub_eq_ok_iff, toInt_uint64, toInt_uint64, toInt_uint64]
        omega
      refine ⟨lhs + rhs - denominator, 1, ?_, ?_, .inr rfl, ?_⟩
      · simp only [addFractional, overflowingAdd, wraps, decide_false, if_neg below, subtracted,
          Outcome.ok_bind]
      · omega
      · have one : Int64.toInt 1 = 1 := rfl
        omega

theorem subFractional_exact :
    ∃ fractional carry, subFractional lhs rhs = (fractional, carry) ∧
      fractional.toNat < 10 ^ 19 ∧ (carry.toInt = 0 ∨ carry.toInt = 1) ∧
      fractional.toNat - carry.toInt * 10 ^ 19 = lhs.toNat - rhs.toNat := by
  have size : denominator.toNat = 10 ^ 19 := toNat_denominator
  by_cases borrows : lhs.toNat < rhs.toNat
  · have difference := UInt64.toNat_sub lhs rhs
    have restored := UInt64.toNat_add (lhs - rhs) denominator
    refine ⟨lhs - rhs + denominator, 1, ?_, ?_, .inr rfl, ?_⟩
    · simp only [subFractional, overflowingSub, borrows, decide_true]
    · omega
    · have one : Int64.toInt 1 = 1 := rfl
      omega
  · have notBelow : rhs ≤ lhs := UInt64.le_iff_toNat_le.mpr (Nat.le_of_not_lt borrows)
    have difference := UInt64.toNat_sub_of_le _ _ notBelow
    refine ⟨lhs - rhs, 0, ?_, ?_, .inl rfl, ?_⟩
    · simp only [subFractional, overflowingSub, borrows, decide_false]
    · omega
    · have zero : Int64.toInt 0 = 0 := rfl
      omega

end Fractions

section Operators

open FixedWidth

theorem addInteger_eq_ok_iff {lhs rhs carry integer : Int64} :
    addInteger lhs rhs carry = .ok integer ↔
      -2 ^ 63 ≤ lhs.toInt + rhs.toInt ∧ lhs.toInt + rhs.toInt < 2 ^ 63 ∧
        integer.toInt = lhs.toInt + rhs.toInt + carry.toInt := by
  simp only [addInteger, Outcome.bind_eq_ok_iff, checkedAdd_eq_ok_iff, toInt_int64]
  constructor
  · rintro ⟨sum, summed, carried⟩
    have least := sum.le_toInt
    have greatest := sum.toInt_lt
    omega
  · rintro ⟨least, greatest, carried⟩
    have summed := toInt_ofInt_of_le least greatest
    exact ⟨Int64.ofInt (lhs.toInt + rhs.toInt), summed, by omega⟩

theorem subInteger_eq_ok_iff {lhs rhs carry integer : Int64} :
    subInteger lhs rhs carry = .ok integer ↔
      -2 ^ 63 ≤ lhs.toInt - rhs.toInt ∧ lhs.toInt - rhs.toInt < 2 ^ 63 ∧
        integer.toInt = lhs.toInt - rhs.toInt - carry.toInt := by
  simp only [subInteger, Outcome.bind_eq_ok_iff, checkedSub_eq_ok_iff, toInt_int64]
  constructor
  · rintro ⟨difference, subtracted, carried⟩
    have least := difference.le_toInt
    have greatest := difference.toInt_lt
    omega
  · rintro ⟨least, greatest, carried⟩
    have subtracted := toInt_ofInt_of_le least greatest
    exact ⟨Int64.ofInt (lhs.toInt - rhs.toInt), subtracted, by omega⟩

variable {lhs rhs : Decimal}

/-- A sum is returned exactly when it is exact and the integer parts can be added before the
carry is. -/
theorem add_eq_ok_iff {sum : Decimal} :
    lhs.add rhs = .ok sum ↔
      -2 ^ 63 ≤ lhs.integer.toInt + rhs.integer.toInt ∧
        lhs.integer.toInt + rhs.integer.toInt < 2 ^ 63 ∧ sum.value = lhs.value + rhs.value := by
  obtain ⟨fractional, carry, added, valid, carried, total⟩ :=
    addFractional_exact lhs.toNat_fractional_lt rhs.toNat_fractional_lt
  have sumValid := sum.toNat_fractional_lt
  simp only [add, added, Outcome.ok_bind, Outcome.bind_eq_ok_iff, addInteger_eq_ok_iff,
    new_eq_ok_iff, value, fractionalPartDenominator]
  constructor
  · rintro ⟨integer, ⟨least, greatest, summed⟩, rfl, rfl⟩
    omega
  · rintro ⟨least, greatest, exact_⟩
    have same : sum.fractional = fractional := by
      apply UInt64.toNat_inj.mp
      omega
    subst same
    exact ⟨sum.integer, ⟨least, greatest, by omega⟩, rfl, rfl⟩

theorem sub_eq_ok_iff {difference : Decimal} :
    lhs.sub rhs = .ok difference ↔
      -2 ^ 63 ≤ lhs.integer.toInt - rhs.integer.toInt ∧
        lhs.integer.toInt - rhs.integer.toInt < 2 ^ 63 ∧
        difference.value = lhs.value - rhs.value := by
  obtain ⟨fractional, carry, subtracted, valid, carried, total⟩ :=
    subFractional_exact lhs.toNat_fractional_lt rhs.toNat_fractional_lt
  have differenceValid := difference.toNat_fractional_lt
  simp only [sub, subtracted, Outcome.bind_eq_ok_iff, subInteger_eq_ok_iff,
    new_eq_ok_iff, value, fractionalPartDenominator]
  constructor
  · rintro ⟨integer, ⟨least, greatest, summed⟩, rfl, rfl⟩
    omega
  · rintro ⟨least, greatest, exact_⟩
    have same : difference.fractional = fractional := by
      apply UInt64.toNat_inj.mp
      omega
    subst same
    exact ⟨difference.integer, ⟨least, greatest, by omega⟩, rfl, rfl⟩

theorem neg_eq_ok_iff {decimal negated : Decimal} :
    decimal.neg = .ok negated ↔
      decimal.integer ≠ minValue ∧ negated.value = -decimal.value := by
  have least := decimal.integer.le_toInt
  have greatest := decimal.integer.toInt_lt
  have zero : default.value = 0 := by decide
  have start : default.integer.toInt = 0 := rfl
  have minimum : decimal.integer = minValue ↔ decimal.integer.toInt = -2 ^ 63 := by
    rw [← toInt_inj]
    rfl
  rw [neg, sub_eq_ok_iff, zero, start, Ne, minimum]
  omega

def Representable (number : Int) : Prop := min.value ≤ number ∧ number ≤ max.value

theorem representable_iff {number : Int} :
    Representable number ↔ -2 ^ 63 * 10 ^ 19 ≤ number ∧ number < 2 ^ 63 * 10 ^ 19 := by
  have least : min.value = -2 ^ 63 * 10 ^ 19 := by decide
  have greatest : max.value = 2 ^ 63 * 10 ^ 19 - 1 := by decide
  rw [Representable, least, greatest]
  omega

theorem exists_value_iff {number : Int} :
    (∃ decimal : Decimal, decimal.value = number) ↔ Representable number := by
  rw [representable_iff]
  constructor
  · rintro ⟨decimal, rfl⟩
    have fraction := decimal.toNat_fractional_lt
    have integerLeast := decimal.integer.le_toInt
    have integerGreatest := decimal.integer.toInt_lt
    unfold value fractionalPartDenominator
    omega
  · rintro ⟨notBelow, notAbove⟩
    have integer : (Int64.ofInt (number / 10 ^ 19)).toInt = number / 10 ^ 19 :=
      toInt_ofInt_of_le (by omega) (by omega)
    have fraction : (UInt64.ofNat (number % 10 ^ 19).toNat).toNat = (number % 10 ^ 19).toNat :=
      UInt64.toNat_ofNat_of_lt' (by simp only [UInt64.size]; omega)
    refine ⟨⟨Int64.ofInt (number / 10 ^ 19), UInt64.ofNat (number % 10 ^ 19).toNat, ?_⟩, ?_⟩
    · rw [fraction]
      unfold fractionalPartDenominator
      omega
    · rw [value, integer, fraction]
      unfold fractionalPartDenominator
      omega

theorem exists_neg {decimal : Decimal} (notMinimum : decimal.integer ≠ minValue) :
    ∃ negated, decimal.neg = .ok negated := by
  have valid := decimal.toNat_fractional_lt
  have least := decimal.integer.le_toInt
  have greatest := decimal.integer.toInt_lt
  have above : decimal.integer.toInt ≠ -2 ^ 63 := by
    intro minimum
    exact notMinimum (Int64.toInt_inj.mp minimum)
  have fits : Representable (-decimal.value) := by
    rw [representable_iff, value, fractionalPartDenominator]
    omega
  obtain ⟨negated, values⟩ := exists_value_iff.mpr fits
  exact ⟨negated, neg_eq_ok_iff.mpr ⟨notMinimum, values⟩⟩

theorem compare_int64 (left right : Int64) :
    compare left right = compare left.toInt right.toInt := by
  change compareOfLessAndEq left right = compareOfLessAndEq left.toInt right.toInt
  simp only [compareOfLessAndEq, Int64.lt_iff_toInt_lt, toInt_inj]

theorem compare_uint64 (left right : UInt64) :
    compare left right = compare left.toNat right.toNat := by
  change compareOfLessAndEq left right = compareOfLessAndEq left.toNat right.toNat
  simp only [compareOfLessAndEq, UInt64.lt_iff_toNat_lt, UInt64.toNat_inj]

/-- Fractions are below one, so that they decide only between equal integer parts. -/
theorem cmp_eq_compare_value (lhs rhs : Decimal) : lhs.cmp rhs = compare lhs.value rhs.value := by
  have lhsValid := lhs.toNat_fractional_lt
  have rhsValid := rhs.toNat_fractional_lt
  rw [cmp, compare_int64, compare_uint64, value, value, fractionalPartDenominator]
  rcases lt_trichotomy lhs.integer.toInt rhs.integer.toInt with below | same | above
  · rw [compare_lt_iff_lt.mpr below]
    exact (compare_lt_iff_lt.mpr (by omega)).symm
  · rw [compare_eq_iff_eq.mpr same, Ordering.eq_then, same]
    rcases lt_trichotomy lhs.fractional.toNat rhs.fractional.toNat with less | equal | more
    · rw [compare_lt_iff_lt.mpr less]
      exact (compare_lt_iff_lt.mpr (by omega)).symm
    · rw [compare_eq_iff_eq.mpr equal]
      exact (compare_eq_iff_eq.mpr (by omega)).symm
    · rw [compare_gt_iff_gt.mpr more]
      exact (compare_gt_iff_gt.mpr (by omega)).symm
  · rw [compare_gt_iff_gt.mpr above]
    exact (compare_gt_iff_gt.mpr (by omega)).symm

/-- The fraction of a sum and of a difference is computed without overflow, and an integer part
without overflow completes it to the exact result. -/
theorem arithmetic_exact (lhs rhs : Decimal) :
    (∃ fractional carry, addFractional lhs.fractional rhs.fractional = .ok (fractional, carry) ∧
      fractional.toNat < fractionalPartDenominator ∧
      (-2 ^ 63 ≤ lhs.integer.toInt + rhs.integer.toInt →
        lhs.integer.toInt + rhs.integer.toInt + carry.toInt < 2 ^ 63 →
        ∃ sum, lhs.add rhs = .ok sum ∧
          sum.integer.toInt = lhs.integer.toInt + rhs.integer.toInt + carry.toInt ∧
          sum.fractional = fractional ∧ sum.value = lhs.value + rhs.value)) ∧
    (∃ fractional carry, subFractional lhs.fractional rhs.fractional = (fractional, carry) ∧
      fractional.toNat < fractionalPartDenominator ∧
      (-2 ^ 63 ≤ lhs.integer.toInt - rhs.integer.toInt - carry.toInt →
        lhs.integer.toInt - rhs.integer.toInt < 2 ^ 63 →
        ∃ difference, lhs.sub rhs = .ok difference ∧
          difference.integer.toInt = lhs.integer.toInt - rhs.integer.toInt - carry.toInt ∧
          difference.fractional = fractional ∧ difference.value = lhs.value - rhs.value)) ∧
    lhs.cmp rhs = compare lhs.value rhs.value := by
  refine ⟨?_, ?_, cmp_eq_compare_value lhs rhs⟩
  · obtain ⟨fractional, carry, added, valid, carried, _⟩ :=
      addFractional_exact lhs.toNat_fractional_lt rhs.toNat_fractional_lt
    refine ⟨fractional, carry, added, valid, fun least greatest => ?_⟩
    obtain ⟨integer, held⟩ : ∃ integer : Int64, integer.toInt =
        lhs.integer.toInt + rhs.integer.toInt + carry.toInt :=
      ⟨_, toInt_ofInt_of_le (by omega) greatest⟩
    have summed := addInteger_eq_ok_iff.mpr ⟨least, by omega, held⟩
    have returned : lhs.add rhs = .ok ⟨integer, fractional, valid⟩ := by
      simp only [add, added, summed, Outcome.ok_bind, new_eq_ok_iff, and_self]
    exact ⟨_, returned, held, rfl, (add_eq_ok_iff.mp returned).2.2⟩
  · obtain ⟨fractional, carry, subtracted, valid, carried, _⟩ :=
      subFractional_exact lhs.toNat_fractional_lt rhs.toNat_fractional_lt
    refine ⟨fractional, carry, subtracted, valid, fun least greatest => ?_⟩
    obtain ⟨integer, held⟩ : ∃ integer : Int64, integer.toInt =
        lhs.integer.toInt - rhs.integer.toInt - carry.toInt :=
      ⟨_, toInt_ofInt_of_le least (by omega)⟩
    have computed := subInteger_eq_ok_iff.mpr ⟨by omega, greatest, held⟩
    have returned : lhs.sub rhs = .ok ⟨integer, fractional, valid⟩ := by
      simp only [sub, subtracted, computed, Outcome.ok_bind, new_eq_ok_iff, and_self]
    exact ⟨_, returned, held, rfl, (sub_eq_ok_iff.mp returned).2.2⟩

def Completes (outcome : Outcome Empty Decimal) : Prop := ∃ result, outcome = .ok result

theorem completes_iff {outcome : Outcome Empty Decimal} {integers exactValue : Int}
    (spec : ∀ {result}, outcome = .ok result ↔
      -2 ^ 63 ≤ integers ∧ integers < 2 ^ 63 ∧ result.value = exactValue)
    (fits : Representable exactValue) :
    Completes outcome ↔ -2 ^ 63 ≤ integers ∧ integers < 2 ^ 63 := by
  constructor
  · rintro ⟨result, returned⟩
    obtain ⟨notBelow, notAbove, _⟩ := spec.mp returned
    exact ⟨notBelow, notAbove⟩
  · rintro ⟨notBelow, notAbove⟩
    obtain ⟨result, exact_⟩ := exists_value_iff.mpr fits
    exact ⟨result, spec.mpr ⟨notBelow, notAbove, exact_⟩⟩

theorem completes_add_iff (fits : Representable (lhs.value + rhs.value)) :
    Completes (lhs.add rhs) ↔
      ¬ (lhs.integer.toInt + rhs.integer.toInt = -2 ^ 63 - 1 ∧
        10 ^ 19 ≤ lhs.fractional.toNat + rhs.fractional.toNat) := by
  have lhsValid := lhs.toNat_fractional_lt
  have rhsValid := rhs.toNat_fractional_lt
  rw [completes_iff add_eq_ok_iff fits]
  rw [representable_iff, value, value, fractionalPartDenominator] at fits
  omega

theorem completes_sub_iff (fits : Representable (lhs.value - rhs.value)) :
    Completes (lhs.sub rhs) ↔
      ¬ (lhs.integer.toInt - rhs.integer.toInt = 2 ^ 63 ∧
        lhs.fractional.toNat < rhs.fractional.toNat) := by
  have lhsValid := lhs.toNat_fractional_lt
  have rhsValid := rhs.toNat_fractional_lt
  rw [completes_iff sub_eq_ok_iff fits]
  rw [representable_iff, value, value, fractionalPartDenominator] at fits
  omega

theorem value_default : default.value = 0 := by decide

theorem representable_of_corner (integers : lhs.integer.toInt + rhs.integer.toInt = -2 ^ 63 - 1)
    (carries : 10 ^ 19 ≤ lhs.fractional.toNat + rhs.fractional.toNat) :
    Representable (lhs.value + rhs.value) := by
  have lhsValid := lhs.toNat_fractional_lt
  have rhsValid := rhs.toNat_fractional_lt
  rw [representable_iff, value, value, fractionalPartDenominator]
  omega

theorem representable_of_borrow (integers : lhs.integer.toInt - rhs.integer.toInt = 2 ^ 63)
    (borrows : lhs.fractional.toNat < rhs.fractional.toNat) :
    Representable (lhs.value - rhs.value) := by
  have lhsValid := lhs.toNat_fractional_lt
  have rhsValid := rhs.toNat_fractional_lt
  rw [representable_iff, value, value, fractionalPartDenominator]
  omega

/-- An operator fails on a representable result exactly where the carry would bring the integer
part back into its range. -/
theorem representable_results_iff (lhs rhs : Decimal) :
    ((Representable (lhs.value + rhs.value) → Completes (lhs.add rhs)) ↔
      ¬ (lhs.integer.toInt + rhs.integer.toInt = -2 ^ 63 - 1 ∧
        10 ^ 19 ≤ lhs.fractional.toNat + rhs.fractional.toNat)) ∧
    ((Representable (lhs.value - rhs.value) → Completes (lhs.sub rhs)) ↔
      ¬ (lhs.integer.toInt - rhs.integer.toInt = 2 ^ 63 ∧
        lhs.fractional.toNat < rhs.fractional.toNat)) ∧
    ((Representable (-lhs.value) → Completes lhs.neg) ↔
      ¬ (lhs.integer.toInt = -2 ^ 63 ∧ 0 < lhs.fractional.toNat)) := by
  have sub_ : ∀ first second : Decimal,
      (Representable (first.value - second.value) → Completes (first.sub second)) ↔
        ¬ (first.integer.toInt - second.integer.toInt = 2 ^ 63 ∧
          first.fractional.toNat < second.fractional.toNat) := by
    intro first second
    constructor
    · rintro completes ⟨integers, borrows⟩
      have fits := representable_of_borrow integers borrows
      exact (completes_sub_iff fits).mp (completes fits) ⟨integers, borrows⟩
    · intro inside fits
      exact (completes_sub_iff fits).mpr inside
  refine ⟨?_, sub_ lhs rhs, ?_⟩
  · constructor
    · rintro completes ⟨integers, carries⟩
      have fits := representable_of_corner integers carries
      exact (completes_add_iff fits).mp (completes fits) ⟨integers, carries⟩
    · intro inside fits
      exact (completes_add_iff fits).mpr inside
  · have negated := sub_ default lhs
    have integer : default.integer.toInt = 0 := rfl
    have fraction : default.fractional.toNat = 0 := rfl
    rw [value_default, integer, fraction, Int.zero_sub, Int.zero_sub] at negated
    rw [neg, negated]
    omega

theorem carry_comes_too_late :
    Representable ((⟨minValue, 5000000000000000000, by decide⟩ : Decimal).value +
      (⟨-1, 5000000000000000000, by decide⟩ : Decimal).value) ∧
    (⟨minValue, 5000000000000000000, by decide⟩ : Decimal).add
      ⟨-1, 5000000000000000000, by decide⟩ = .panicked ∧
    Representable (-(⟨minValue, 1, by decide⟩ : Decimal).value) ∧
    (⟨minValue, 1, by decide⟩ : Decimal).neg = .panicked := by
  refine ⟨by unfold Representable; decide, by decide, by unfold Representable; decide, by decide⟩

end Operators

def rational (decimal : Decimal) : Rat :=
  decimal.integer.toInt + decimal.fractional.toNat / fractionalPartDenominator

def writtenFraction (decimal : Decimal) : Nat × Nat :=
  if decimal.fractional = 0 then (0, 1)
  else stripZeros decimal.fractional.toNat fractionalPartDenominatorLog10

theorem writtenFraction_spec (decimal : Decimal) :
    decimal.writtenFraction.1 * 10 ^ 19 =
        decimal.fractional.toNat * 10 ^ decimal.writtenFraction.2 ∧
      0 < decimal.writtenFraction.2 ∧
      decimal.writtenFraction.1 < 10 ^ decimal.writtenFraction.2 := by
  unfold writtenFraction
  split
  · next whole => simp [whole]
  · next fractional =>
      have valid := decimal.toNat_fractional_lt
      have pos : 0 < decimal.fractional.toNat := by
        rw [Nat.pos_iff_ne_zero, Ne, ← UInt64.toNat_zero, UInt64.toNat_inj]
        exact fractional
      have scaled := stripZeros_value decimal.fractional.toNat fractionalPartDenominatorLog10
      unfold fractionalPartDenominatorLog10 at scaled ⊢
      refine ⟨scaled, ?_, ?_⟩
      · by_contra none
        have noPlaces : (stripZeros decimal.fractional.toNat 19).2 = 0 := by omega
        rw [noPlaces] at scaled
        omega
      · by_contra long
        have product := Nat.mul_le_mul (Nat.le_of_not_lt long) (Nat.le_refl (10 ^ 19))
        have strict := Nat.mul_lt_mul_of_pos_right valid
          (Nat.pow_pos (by decide) : 0 < 10 ^ (stripZeros decimal.fractional.toNat 19).2)
        rw [scaled, Nat.mul_comm] at product
        omega

theorem display_eq (decimal : Decimal) :
    decimal.display = (if decimal.integer.toInt < 0 then ['-'] else []) ++
      fixedPointText (decimal.integer.toInt.natAbs * 10 ^ decimal.writtenFraction.2 +
        decimal.writtenFraction.1) decimal.writtenFraction.2 := by
  obtain ⟨_, wide, fits⟩ := decimal.writtenFraction_spec
  rw [fixedPointText_parts wide fits]
  unfold display writtenFraction integerText
  split
  · simp [zeroPadded]
  · simp

/-- What the text denotes, in units of `10 ^ -19`: the fraction goes away from zero. -/
def printed (decimal : Decimal) : Int :=
  if decimal.integer.toInt < 0 then
    decimal.integer.toInt * fractionalPartDenominator - decimal.fractional.toNat
  else
    decimal.integer.toInt * fractionalPartDenominator + decimal.fractional.toNat

theorem denotes_display (decimal : Decimal) :
    Json.Denotes decimal.display (decimal.printed / fractionalPartDenominator) := by
  obtain ⟨scaled, wide, fits⟩ := decimal.writtenFraction_spec
  have ends : Json.Ends [] := by
    intro next begins
    cases begins
  have read := Json.numeral_fixedPointText (decide (decimal.integer.toInt < 0))
    (decimal.integer.toInt.natAbs * 10 ^ decimal.writtenFraction.2 + decimal.writtenFraction.1)
    decimal.writtenFraction.2 ends
  simp only [decide_eq_true_eq, List.append_nil] at read
  refine ⟨_, decimal.display_eq ▸ read, ?_⟩
  have power : (10 : Rat) ^ decimal.writtenFraction.2 ≠ 0 := pow_ne_zero _ (by norm_num)
  have unit : (fractionalPartDenominator : Rat) ≠ 0 := by norm_num [fractionalPartDenominator]
  have ratio : (decimal.writtenFraction.1 : Rat) / 10 ^ decimal.writtenFraction.2 =
      decimal.fractional.toNat / fractionalPartDenominator := by
    rw [div_eq_div_iff power unit]
    unfold fractionalPartDenominator
    exact_mod_cast scaled
  have magnitude : ((decimal.integer.toInt.natAbs * 10 ^ decimal.writtenFraction.2 +
      decimal.writtenFraction.1 : Nat) : Rat) * 10 ^ (-(decimal.writtenFraction.2 : Int)) =
      decimal.integer.toInt.natAbs + decimal.fractional.toNat / fractionalPartDenominator := by
    rw [← ratio, zpow_neg, zpow_natCast]
    push_cast
    field_simp
  simp only [Json.Numeral.rational, printed, decide_eq_true_eq]
  rw [mul_assoc, magnitude]
  by_cases below : decimal.integer.toInt < 0
  · have absolute : (decimal.integer.toInt.natAbs : Rat) = -decimal.integer.toInt := by
      have integers : (decimal.integer.toInt.natAbs : Int) = -decimal.integer.toInt := by omega
      rw [← Int.cast_natCast, integers, Int.cast_neg]
    rw [if_pos below, if_pos below, absolute]
    push_cast
    field_simp
    ring
  · have absolute : (decimal.integer.toInt.natAbs : Rat) = decimal.integer.toInt := by
      have integers : (decimal.integer.toInt.natAbs : Int) = decimal.integer.toInt := by omega
      rw [← Int.cast_natCast, integers]
    rw [if_neg below, if_neg below, absolute]
    push_cast
    field_simp

theorem rational_eq (decimal : Decimal) :
    decimal.rational = decimal.value / fractionalPartDenominator := by
  have unit : (fractionalPartDenominator : Rat) ≠ 0 := by norm_num [fractionalPartDenominator]
  unfold rational value
  push_cast
  field_simp

theorem denotes_display_iff {number : Int} :
    Json.Denotes decimal.display (number / fractionalPartDenominator) ↔
      decimal.printed = number := by
  have unit : (fractionalPartDenominator : Rat) ≠ 0 := by norm_num [fractionalPartDenominator]
  constructor
  · intro denotes
    have same := decimal.denotes_display.unique denotes
    rw [div_left_inj' unit] at same
    exact_mod_cast same
  · rintro rfl
    exact decimal.denotes_display

theorem opposite_texts_iff {negated : Decimal} (returned : decimal.neg = .ok negated) :
    (∃ number, Json.Denotes decimal.display number ∧ Json.Denotes negated.display (-number)) ↔
      decimal.fractional.toNat = 0 := by
  have opposite : (∃ number, Json.Denotes decimal.display number ∧
      Json.Denotes negated.display (-number)) ↔ negated.printed = -decimal.printed := by
    constructor
    · rintro ⟨number, denotes, denotesNegated⟩
      rw [← decimal.denotes_display.unique denotes, ← neg_div, ← Int.cast_neg,
        denotes_display_iff] at denotesNegated
      exact denotesNegated
    · intro same
      refine ⟨_, decimal.denotes_display, ?_⟩
      rw [← neg_div, ← Int.cast_neg, denotes_display_iff]
      exact same
  have values := (neg_eq_ok_iff.mp returned).2
  have valid := decimal.toNat_fractional_lt
  have negatedValid := negated.toNat_fractional_lt
  unfold value fractionalPartDenominator at values
  rw [opposite, printed, printed, fractionalPartDenominator]
  by_cases below : decimal.integer.toInt < 0 <;> by_cases negatedBelow : negated.integer.toInt < 0
  all_goals
    simp only [below, negatedBelow, if_true, if_false]
    omega

/-- The text is the value as long as no negative number has a fraction. No number with a fraction
and its negation have opposite texts: one of the two is negative. -/
theorem text_denotes_iff (decimal : Decimal) :
    (Json.Denotes decimal.display decimal.rational ↔
      0 ≤ decimal.integer.toInt ∨ decimal.fractional = 0) ∧
    ((∀ negated, decimal.neg = .ok negated →
        ∃ number, Json.Denotes decimal.display number ∧
          Json.Denotes negated.display (-number)) ↔
      decimal.fractional = 0 ∨ decimal.integer = minValue) := by
  have whole : decimal.fractional = 0 ↔ decimal.fractional.toNat = 0 := UInt64.toNat_inj.symm
  constructor
  · rw [rational_eq, denotes_display_iff, whole, printed, value, fractionalPartDenominator]
    split
    · omega
    · omega
  · constructor
    · intro opposites
      by_cases minimum : decimal.integer = minValue
      · exact .inr minimum
      · obtain ⟨negated, returned⟩ := exists_neg minimum
        exact .inl (whole.mpr ((opposite_texts_iff returned).mp (opposites negated returned)))
    · rintro (none | minimum) negated returned
      · exact (opposite_texts_iff returned).mpr (whole.mp none)
      · exact absurd minimum (neg_eq_ok_iff.mp returned).1

theorem minus_one_half_printed :
    (⟨-1, 5000000000000000000, by decide⟩ : Decimal).value * 2 = -fractionalPartDenominator ∧
    (⟨-1, 5000000000000000000, by decide⟩ : Decimal).display = "-1.5".toList ∧
    ¬ Json.Denotes (⟨-1, 5000000000000000000, by decide⟩ : Decimal).display
      (⟨-1, 5000000000000000000, by decide⟩ : Decimal).rational := by
  refine ⟨by decide, by decide, ?_⟩
  rw [rational_eq, denotes_display_iff]
  decide

end TypeDBDriver.Decimal
