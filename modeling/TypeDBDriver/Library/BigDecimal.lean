import Mathlib.Algebra.Order.Field.Rat
import Mathlib.Tactic.Ring
import TypeDBDriver.Library.JavaTime

/-! The `BigDecimal` of `java.math`: an integer and the number of its digits after the point. Where
a rounding mode is given, it is `UNNECESSARY`, which refuses to round. Scales beyond the range of
`int`, for which Java throws, are not refused. -/

namespace TypeDBDriver.Library

open JavaTime (JavaException)

structure BigDecimal where
  unscaledValue : Int
  scale : Int
  deriving DecidableEq, Repr

namespace BigDecimal

def value (number : BigDecimal) : Rat := number.unscaledValue * 10 ^ (-number.scale)

def ofInteger (integer : Int) : BigDecimal := ⟨integer, 0⟩

def ten : BigDecimal := ⟨10, 0⟩

def quotient (numerator denominator scale : Int) : Except JavaException BigDecimal :=
  if denominator ≠ 0 ∧ denominator ∣ numerator then .ok ⟨numerator / denominator, scale⟩
  else .error .arithmetic

def setScale (number : BigDecimal) (newScale : Int) : Except JavaException BigDecimal :=
  quotient (number.unscaledValue * 10 ^ (newScale - number.scale).toNat)
    (10 ^ (number.scale - newScale).toNat) newScale

def pow (number : BigDecimal) (exp : Nat) : Except JavaException BigDecimal :=
  if exp ≤ 999999999 then .ok ⟨number.unscaledValue ^ exp, number.scale * exp⟩
  else .error .arithmetic

/-- The quotient has the scale of the dividend. -/
def divide (number divisor : BigDecimal) : Except JavaException BigDecimal :=
  quotient (number.unscaledValue * 10 ^ divisor.scale.toNat)
    (divisor.unscaledValue * 10 ^ (-divisor.scale).toNat) number.scale

def add (number augend : BigDecimal) : BigDecimal where
  unscaledValue :=
    number.unscaledValue * 10 ^ (augend.scale - number.scale).toNat +
      augend.unscaledValue * 10 ^ (number.scale - augend.scale).toNat
  scale := max number.scale augend.scale

theorem quotient_mul {denominator : Int} (nonzero : denominator ≠ 0) (result scale : Int) :
    quotient (result * denominator) denominator scale = .ok ⟨result, scale⟩ := by
  rw [quotient, if_pos ⟨nonzero, Int.dvd_mul_left _ _⟩, Int.mul_ediv_cancel _ nonzero]

theorem setScale_ofInteger (integer : Int) (scale : Nat) :
    (ofInteger integer).setScale scale = .ok ⟨integer * 10 ^ scale, scale⟩ := by
  have zeros : ((scale : Int) - 0).toNat = scale := by omega
  have none : (0 - (scale : Int)).toNat = 0 := by omega
  have kept := quotient_mul Int.one_ne_zero (integer * 10 ^ scale) scale
  rw [Int.mul_one] at kept
  simp only [setScale, ofInteger, zeros, none, pow_zero, kept]

theorem pow_ten {exp : Nat} (few : exp ≤ 999999999) : ten.pow exp = .ok ⟨10 ^ exp, 0⟩ := by
  simp only [pow, if_pos few, ten, Int.zero_mul]

theorem divide_pow_ten (integer scale : Int) (exp : Nat) :
    divide ⟨integer * 10 ^ exp, scale⟩ ⟨10 ^ exp, 0⟩ = .ok ⟨integer, scale⟩ := by
  have nonzero : (10 : Int) ^ exp ≠ 0 := pow_ne_zero _ (by decide)
  simp only [divide, Int.neg_zero, Int.toNat_zero, pow_zero, Int.mul_one, quotient_mul nonzero]

theorem scaled (unscaled scale : Int) (zeros : Nat) :
    (unscaled * 10 ^ zeros : Rat) * 10 ^ (-(scale + zeros)) = unscaled * 10 ^ (-scale) := by
  have ten : (10 : Rat) ≠ 0 := by norm_num
  rw [mul_assoc, ← zpow_natCast, ← zpow_add₀ ten]
  congr 2
  omega

theorem value_add (number augend : BigDecimal) :
    (number.add augend).value = number.value + augend.value := by
  have first := scaled number.unscaledValue number.scale (augend.scale - number.scale).toNat
  have second := scaled augend.unscaledValue augend.scale (number.scale - augend.scale).toNat
  have firstScale : number.scale + (augend.scale - number.scale).toNat =
      max number.scale augend.scale := by omega
  have secondScale : augend.scale + (number.scale - augend.scale).toNat =
      max number.scale augend.scale := by omega
  rw [firstScale] at first
  rw [secondScale] at second
  unfold value
  rw [← first, ← second, ← add_mul]
  simp only [add]
  push_cast
  rfl

end BigDecimal

end TypeDBDriver.Library
