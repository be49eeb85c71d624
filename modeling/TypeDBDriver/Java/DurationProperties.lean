import TypeDBDriver.Concept.DurationPattern
import TypeDBDriver.Java.Duration

/-! Which durations of the server the Java driver holds as they are, and which printed ones it
reads back. -/

namespace TypeDBDriver.Java

open Library
open JavaTime.Duration (nanosPerSecond ofNanos)

namespace Duration

def totalNanos (duration : Duration) : Int :=
  duration.getSeconds.toInt * 10 ^ 9 + duration.getNano

theorem toInt_ofInt_int32 {number : Nat} (fits : number < 2 ^ 32) :
    (Int32.ofInt number).toInt = if number < 2 ^ 31 then (number : Int) else number - 2 ^ 32 := by
  have size : Int32.size = 2 ^ 32 := rfl
  rw [Int32.toInt_ofInt, Int.bmod_def, size]
  split <;> split <;> omega

theorem toInt_ofInt_int64 {number : Nat} (fits : number < 2 ^ 64) :
    (Int64.ofInt number).toInt = if number < 2 ^ 63 then (number : Int) else number - 2 ^ 64 := by
  have size : Int64.size = 2 ^ 64 := rfl
  rw [Int64.toInt_ofInt, Int.bmod_def, size]
  split <;> split <;> omega

theorem total_ofNanos (nanos : Int64) :
    (ofNanos nanos).seconds.toInt * 10 ^ 9 +
      (ofNanos nanos).nanos = nanos.toInt := by
  have least := nanos.le_toInt
  have greatest := nanos.toInt_lt
  have seconds : (ofNanos nanos).seconds.toInt =
      nanos.toInt / nanosPerSecond :=
    Int64.toInt_ofInt_of_le (by unfold nanosPerSecond; omega)
      (by unfold nanosPerSecond; omega)
  rw [seconds]
  simp only [ofNanos, nanosPerSecond]
  omega

/-- A native duration keeps its magnitude exactly if the months and the days are in the range of
`int` and the nanoseconds in that of `long`; beyond, each of them becomes negative. -/
theorem ofNative_kept_iff (native : TypeDBDriver.Duration) :
    (∀ concept : Concept, concept.tryGetValue = some (.duration native) →
      tryGetDuration concept = some (ofNative native)) ∧
    ((ofNative native).getMonths.toInt = native.months.toNat ↔ native.months.toNat < 2 ^ 31) ∧
    ((ofNative native).getDays.toInt = native.days.toNat ↔ native.days.toNat < 2 ^ 31) ∧
    ((ofNative native).totalNanos = native.nanos.toNat ↔ native.nanos.toNat < 2 ^ 63) ∧
    ((ofNative native).getMonths.toInt < 0 ↔ 2 ^ 31 ≤ native.months.toNat) ∧
    ((ofNative native).getDays.toInt < 0 ↔ 2 ^ 31 ≤ native.days.toNat) ∧
    ((ofNative native).totalNanos < 0 ↔ 2 ^ 63 ≤ native.nanos.toNat) := by
  have months : (ofNative native).getMonths.toInt = if native.months.toNat < 2 ^ 31 then
      (native.months.toNat : Int) else native.months.toNat - 2 ^ 32 :=
    toInt_ofInt_int32 native.months.toNat_lt
  have days : (ofNative native).getDays.toInt = if native.days.toNat < 2 ^ 31 then
      (native.days.toNat : Int) else native.days.toNat - 2 ^ 32 :=
    toInt_ofInt_int32 native.days.toNat_lt
  have nanos : (ofNative native).totalNanos = if native.nanos.toNat < 2 ^ 63 then
      (native.nanos.toNat : Int) else native.nanos.toNat - 2 ^ 64 := by
    rw [← toInt_ofInt_int64 native.nanos.toNat_lt]
    exact total_ofNanos _
  have monthsFit := native.months.toNat_lt
  have daysFit := native.days.toNat_lt
  have nanosFit := native.nanos.toNat_lt
  refine ⟨fun concept holds => ?_, ?_, ?_, ?_, ?_, ?_, ?_⟩
  · rw [tryGetDuration, Concept.isType_of_tryGetValue holds, holds]
    rfl
  all_goals
    first | rw [months] | rw [days] | rw [nanos]
    split <;> omega

/-- The least durations that change. -/
theorem ofNative_not_kept :
    (ofNative ⟨2147483648, 0, 0⟩).getMonths.toInt = -2147483648 ∧
    (ofNative ⟨0, 2147483648, 0⟩).getDays.toInt = -2147483648 ∧
    (ofNative ⟨0, 0, 9223372036854775808⟩).totalNanos = -9223372036854775808 := by
  decide

end Duration

end TypeDBDriver.Java
