import TypeDBDriver.Common.Float

/-! The operator `==` on doubles. -/

namespace TypeDBDriver

open Library
open Proto (F64)

namespace Proto.F64

def isNaN (double : F64) : Bool := decide (Binary64.infinity < double.ordinal)

/-- A NaN is equal to nothing, and the two zeros are equal. -/
def eq (first second : F64) : Bool :=
  !first.isNaN && !second.isNaN &&
    (first.bits == second.bits || (first.ordinal == 0 && second.ordinal == 0))

theorem eq_comm (first second : F64) : first.eq second = second.eq first := by
  simp only [eq, Bool.and_comm, Bool.beq_comm]

theorem eq_self {double : F64} (number : double.isNaN = false) : double.eq double = true := by
  simp [eq, number]

end Proto.F64

end TypeDBDriver
