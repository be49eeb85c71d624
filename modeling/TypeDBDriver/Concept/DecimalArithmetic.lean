import TypeDBDriver.Concept.Concept
import TypeDBDriver.Library.FixedWidth

/-! The operators of `Decimal`. A decimal is the pair of the integer below it and the distance
from there in units of `10 ^ -19`, so that a negative number has a nonnegative fraction too. -/

namespace TypeDBDriver.Decimal

open Library
open FixedWidth (checkedAdd checkedSub)

def denominator : UInt64 := .ofNat fractionalPartDenominator

def min : Decimal := ⟨Int64.minValue, 0, by decide⟩

def max : Decimal := ⟨Int64.maxValue, denominator - 1, by decide⟩

def default : Decimal := ⟨0, 0, by decide⟩

def addFractional (lhs rhs : UInt64) : Outcome Empty (UInt64 × Int64) :=
  match overflowingAdd lhs rhs with
  | (frac, false) =>
    if frac < denominator then .ok (frac, 0)
    else do
      let fractional ← checkedSub frac denominator
      .ok (fractional, 1)
  | (frac, true) =>
    if frac < denominator then do
      -- `0u64.wrapping_sub` makes the second operand the distance from the denominator to 2^64
      let fractional ← checkedAdd frac (0 - denominator)
      .ok (fractional, 1)
    else .panicked -- unreachable!()

def addInteger (lhs rhs carry : Int64) : Outcome Empty Int64 := do
  let sum ← checkedAdd lhs rhs
  checkedAdd sum carry

def add (lhs rhs : Decimal) : Outcome Empty Decimal := do
  let (fractional, carry) ← addFractional lhs.fractional rhs.fractional
  let integer ← addInteger lhs.integer rhs.integer carry
  Decimal.new integer fractional

def subFractional (lhs rhs : UInt64) : UInt64 × Int64 :=
  match overflowingSub lhs rhs with
  | (frac, false) => (frac, 0)
  | (frac, true) => (frac + denominator, 1)

def subInteger (lhs rhs carry : Int64) : Outcome Empty Int64 := do
  let difference ← checkedSub lhs rhs
  checkedSub difference carry

def sub (lhs rhs : Decimal) : Outcome Empty Decimal := do
  let (fractional, carry) := subFractional lhs.fractional rhs.fractional
  let integer ← subInteger lhs.integer rhs.integer carry
  Decimal.new integer fractional

def neg (decimal : Decimal) : Outcome Empty Decimal := default.sub decimal

/-- The derived `Ord` compares field after field. -/
def cmp (lhs rhs : Decimal) : Ordering :=
  (compare lhs.integer rhs.integer).then (compare lhs.fractional rhs.fractional)

end TypeDBDriver.Decimal
