import Mathlib.Algebra.Order.Ring.Int
import TypeDBDriver.Library.Outcome

/-! Machine integers with overflow checks: an operation is carried out on integers, and a result
outside the type ends the running thread. -/

namespace TypeDBDriver.Library

/-- A machine integer type, by the interval of integers it holds. -/
class FixedWidth (α : Type) where
  toInt : α → Int
  ofInt : Int → α
  least : Int
  greatest : Int
  least_le (value : α) : least ≤ toInt value
  le_greatest (value : α) : toInt value ≤ greatest
  toInt_ofInt (number : Int) : least ≤ number → number ≤ greatest → toInt (ofInt number) = number
  ofInt_toInt (value : α) : ofInt (toInt value) = value

instance : FixedWidth UInt32 where
  toInt value := value.toNat
  ofInt number := UInt32.ofNat number.toNat
  least := 0
  greatest := 2 ^ 32 - 1
  least_le value := by omega
  le_greatest value := by
    have bound := value.toNat_lt
    omega
  toInt_ofInt number notBelow notAbove := by
    have fits : number.toNat < 2 ^ 32 := by omega
    rw [UInt32.toNat_ofNat_of_lt' fits]
    omega
  ofInt_toInt value := by simp

instance : FixedWidth UInt64 where
  toInt value := value.toNat
  ofInt number := UInt64.ofNat number.toNat
  least := 0
  greatest := 2 ^ 64 - 1
  least_le value := by omega
  le_greatest value := by
    have bound := value.toNat_lt
    omega
  toInt_ofInt number notBelow notAbove := by
    have fits : number.toNat < 2 ^ 64 := by omega
    rw [UInt64.toNat_ofNat_of_lt' fits]
    omega
  ofInt_toInt value := by simp

instance : FixedWidth Int32 where
  toInt := Int32.toInt
  ofInt := Int32.ofInt
  least := -2 ^ 31
  greatest := 2 ^ 31 - 1
  least_le := Int32.le_toInt
  le_greatest value := by
    have bound := value.toInt_lt
    omega
  toInt_ofInt number notBelow notAbove := Int32.toInt_ofInt_of_le notBelow (by omega)
  ofInt_toInt := Int32.ofInt_toInt

instance : FixedWidth Int64 where
  toInt := Int64.toInt
  ofInt := Int64.ofInt
  least := -2 ^ 63
  greatest := 2 ^ 63 - 1
  least_le := Int64.le_toInt
  le_greatest value := by
    have bound := value.toInt_lt
    omega
  toInt_ofInt number notBelow notAbove := Int64.toInt_ofInt_of_le notBelow (by omega)
  ofInt_toInt := Int64.ofInt_toInt

namespace FixedWidth

@[simp] theorem toInt_uint32 (value : UInt32) : toInt value = (value.toNat : Int) := rfl

@[simp] theorem toInt_uint64 (value : UInt64) : toInt value = (value.toNat : Int) := rfl

@[simp] theorem toInt_int64 (value : Int64) : toInt value = value.toInt := rfl

variable {ε α : Type} [FixedWidth α]

/-- The value of an operation whose result is this number. -/
def checked (number : Int) : Outcome ε α :=
  if least α ≤ number ∧ number ≤ greatest α then .ok (ofInt number) else .panicked

def checkedAdd (left right : α) : Outcome ε α := checked (toInt left + toInt right)

def checkedSub (left right : α) : Outcome ε α := checked (toInt left - toInt right)

def checkedMul (left right : α) : Outcome ε α := checked (toInt left * toInt right)

def addProduct (total number unit : α) : Outcome ε α := do
  let product ← checkedMul number unit
  checkedAdd total product

variable {number : Int} {value : α}

theorem checked_eq_ok_iff : (checked number : Outcome ε α) = .ok value ↔ toInt value = number := by
  unfold checked
  split
  · next fits =>
      rw [Outcome.ok.injEq]
      constructor
      · rintro rfl
        exact toInt_ofInt number fits.1 fits.2
      · rintro rfl
        exact ofInt_toInt value
  · next outside =>
      constructor
      · intro impossible
        cases impossible
      · rintro rfl
        exact absurd ⟨least_le value, le_greatest value⟩ outside

theorem checked_eq_panicked_iff :
    (checked number : Outcome ε α) = .panicked ↔ ¬ (least α ≤ number ∧ number ≤ greatest α) := by
  unfold checked
  split
  · next fits => simp [fits]
  · next outside => simp [outside]

variable {left right : α}

theorem checkedAdd_eq_ok_iff :
    (checkedAdd left right : Outcome ε α) = .ok value ↔ toInt value = toInt left + toInt right :=
  checked_eq_ok_iff

theorem checkedSub_eq_ok_iff :
    (checkedSub left right : Outcome ε α) = .ok value ↔ toInt value = toInt left - toInt right :=
  checked_eq_ok_iff

theorem checked_natCast_uint32 (number : Nat) :
    (checked (number : Int) : Outcome ε UInt32) =
      if number < 2 ^ 32 then .ok (.ofNat number) else .panicked := by
  split
  · next fits =>
      rw [checked_eq_ok_iff, toInt_uint32, UInt32.toNat_ofNat_of_lt' fits]
  · next outside =>
      rw [checked_eq_panicked_iff]
      change ¬ (0 ≤ (number : Int) ∧ (number : Int) ≤ 2 ^ 32 - 1)
      omega

theorem checked_natCast_uint64 (number : Nat) :
    (checked (number : Int) : Outcome ε UInt64) =
      if number < 2 ^ 64 then .ok (.ofNat number) else .panicked := by
  split
  · next fits =>
      rw [checked_eq_ok_iff, toInt_uint64, UInt64.toNat_ofNat_of_lt' fits]
  · next outside =>
      rw [checked_eq_panicked_iff]
      change ¬ (0 ≤ (number : Int) ∧ (number : Int) ≤ 2 ^ 64 - 1)
      omega

theorem checkedAdd_uint32 (left right : UInt32) :
    (checkedAdd left right : Outcome ε UInt32) =
      if left.toNat + right.toNat < 2 ^ 32 then .ok (.ofNat (left.toNat + right.toNat))
      else .panicked := by
  rw [← checked_natCast_uint32, Int.natCast_add]
  rfl

theorem checkedAdd_uint64 (left right : UInt64) :
    (checkedAdd left right : Outcome ε UInt64) =
      if left.toNat + right.toNat < 2 ^ 64 then .ok (.ofNat (left.toNat + right.toNat))
      else .panicked := by
  rw [← checked_natCast_uint64, Int.natCast_add]
  rfl

theorem addProduct_uint32 (total number unit : UInt32) :
    (addProduct total number unit : Outcome ε UInt32) =
      if total.toNat + number.toNat * unit.toNat < 2 ^ 32 then
        .ok (.ofNat (total.toNat + number.toNat * unit.toNat))
      else .panicked := by
  have product : (checkedMul number unit : Outcome ε UInt32) =
      if number.toNat * unit.toNat < 2 ^ 32 then .ok (.ofNat (number.toNat * unit.toNat))
      else .panicked := by
    rw [← checked_natCast_uint32, Int.natCast_mul]
    rfl
  rw [addProduct, product]
  split
  · next fits => rw [Outcome.ok_bind, checkedAdd_uint32, UInt32.toNat_ofNat_of_lt' fits]
  · next outside => rw [if_neg (by omega), Outcome.panicked_bind]

theorem addProduct_uint64 (total number unit : UInt64) :
    (addProduct total number unit : Outcome ε UInt64) =
      if total.toNat + number.toNat * unit.toNat < 2 ^ 64 then
        .ok (.ofNat (total.toNat + number.toNat * unit.toNat))
      else .panicked := by
  have product : (checkedMul number unit : Outcome ε UInt64) =
      if number.toNat * unit.toNat < 2 ^ 64 then .ok (.ofNat (number.toNat * unit.toNat))
      else .panicked := by
    rw [← checked_natCast_uint64, Int.natCast_mul]
    rfl
  rw [addProduct, product]
  split
  · next fits => rw [Outcome.ok_bind, checkedAdd_uint64, UInt64.toNat_ofNat_of_lt' fits]
  · next outside => rw [if_neg (by omega), Outcome.panicked_bind]

end FixedWidth

section Build

-- `checks` says whether the build has overflow checks; without them the operators wrap
variable {ε : Type} (checks : Bool)

def addIn (left right : UInt64) : Outcome ε UInt64 :=
  if checks then FixedWidth.checkedAdd left right else .ok (left + right)

def subIn (left right : UInt64) : Outcome ε UInt64 :=
  if checks then FixedWidth.checkedSub left right else .ok (left - right)

variable {checks} {left right : UInt64}

theorem addIn_exact_iff :
    (∃ value, (addIn checks left right : Outcome ε UInt64) = .ok value ∧
        value.toNat = left.toNat + right.toNat) ↔
      left.toNat + right.toNat < 2 ^ 64 := by
  constructor
  · rintro ⟨value, -, exactly⟩
    rw [← exactly]
    exact value.toNat_lt
  · intro fits
    refine ⟨left + right, ?_, ?_⟩
    · cases checks with
      | true =>
        rw [addIn, if_pos rfl, FixedWidth.checkedAdd_uint64, if_pos fits, UInt64.ofNat_add,
          UInt64.ofNat_toNat, UInt64.ofNat_toNat]
      | false => rfl
    · rw [UInt64.toNat_add, Nat.mod_eq_of_lt fits]

theorem subIn_exact_iff :
    (∃ value, (subIn checks left right : Outcome ε UInt64) = .ok value ∧
        value.toNat + right.toNat = left.toNat) ↔
      right.toNat ≤ left.toNat := by
  constructor
  · rintro ⟨value, -, exactly⟩
    omega
  · intro fits
    have difference : (left - right).toNat = left.toNat - right.toNat :=
      UInt64.toNat_sub_of_le _ _ (UInt64.le_iff_toNat_le.mpr fits)
    refine ⟨left - right, ?_, by omega⟩
    cases checks with
    | true =>
      rw [subIn, if_pos rfl, FixedWidth.checkedSub_eq_ok_iff]
      simp only [FixedWidth.toInt_uint64]
      omega
    | false => rfl

end Build

def overflowingAdd (left right : UInt64) : UInt64 × Bool :=
  (left + right, decide (2 ^ 64 ≤ left.toNat + right.toNat))

def overflowingSub (left right : UInt64) : UInt64 × Bool :=
  (left - right, decide (left.toNat < right.toNat))

end TypeDBDriver.Library
