import Mathlib.Algebra.Ring.Nat

/-! The proleptic Gregorian calendar. A day has an ordinal, which is 1 for the first day of the
year 1. -/

namespace TypeDBDriver.Library.Gregorian

def isLeap (year : Nat) : Bool :=
  year % 4 == 0 && (year % 100 != 0 || year % 400 == 0)

def daysBeforeYear (year : Nat) : Nat :=
  (year - 1) * 365 + (year - 1) / 4 - (year - 1) / 100 + (year - 1) / 400

def daysInMonth (leap : Bool) : Nat → Nat
  | 1 | 3 | 5 | 7 | 8 | 10 | 12 => 31
  | 4 | 6 | 9 | 11 => 30
  | 2 => if leap then 29 else 28
  | _ => 0

def daysBeforeMonth (leap : Bool) (month : Nat) : Nat :=
  ((List.range month).map (daysInMonth leap)).sum

structure Date where
  year : Nat
  month : Nat
  day : Nat
  deriving DecidableEq, Repr

namespace Date

def Valid (date : Date) : Prop :=
  1 ≤ date.year ∧ (1 ≤ date.month ∧ date.month ≤ 12) ∧
    1 ≤ date.day ∧ date.day ≤ daysInMonth (isLeap date.year) date.month

instance (date : Date) : Decidable date.Valid := inferInstanceAs (Decidable (_ ∧ _))

def ordinal (date : Date) : Nat :=
  daysBeforeYear date.year + daysBeforeMonth (isLeap date.year) date.month + date.day

end Date

/-- The month and the day of a day of the year, counted from 0. The estimate of the month is exact
or one too great. -/
def ofDayOfYear (leap : Bool) (days : Nat) : Nat × Nat :=
  let month := (days + 50) / 32
  let month := if days < daysBeforeMonth leap month then month - 1 else month
  (month, days - daysBeforeMonth leap month + 1)

/-- The date with an ordinal, by cycles of 400, 100, 4 and 1 years. The last day of a leap year that
ends a cycle is an extra day. -/
def ofOrdinal (ordinal : Nat) : Date :=
  let days := ordinal - 1
  let cycles400 := days / 146097
  let days := days % 146097
  let cycles100 := days / 36524
  let days := days % 36524
  let cycles4 := days / 1461
  let days := days % 1461
  let years := days / 365
  let days := days % 365
  let year := cycles400 * 400 + cycles100 * 100 + cycles4 * 4 + years + 1
  if years = 4 ∨ cycles100 = 4 then ⟨year - 1, 12, 31⟩
  else
    let leap := decide (years = 3) && (decide (cycles4 ≠ 24) || decide (cycles100 = 3))
    let (month, day) := ofDayOfYear leap days
    ⟨year, month, day⟩

set_option maxRecDepth 4000 in
theorem ofDayOfYear_spec (leap : Bool) {days : Nat} (within : days < 365) :
    (1 ≤ (ofDayOfYear leap days).1 ∧ (ofDayOfYear leap days).1 ≤ 12) ∧
      (1 ≤ (ofDayOfYear leap days).2 ∧
        (ofDayOfYear leap days).2 ≤ daysInMonth leap (ofDayOfYear leap days).1) ∧
      daysBeforeMonth leap (ofDayOfYear leap days).1 + (ofDayOfYear leap days).2 = days + 1 := by
  revert days
  cases leap <;> decide +kernel

section Cycles

variable {cycles400 cycles100 cycles4 years : Nat}

theorem daysBeforeYear_of_cycles (hundreds : cycles100 ≤ 3) (fours : cycles4 ≤ 24)
    (ones : years ≤ 3) :
    daysBeforeYear (cycles400 * 400 + cycles100 * 100 + cycles4 * 4 + years + 1) =
      cycles400 * 146097 + cycles100 * 36524 + cycles4 * 1461 + years * 365 := by
  unfold daysBeforeYear
  omega

theorem isLeap_of_cycles (hundreds : cycles100 ≤ 3) (fours : cycles4 ≤ 24) (ones : years ≤ 3) :
    isLeap (cycles400 * 400 + cycles100 * 100 + cycles4 * 4 + years + 1) =
      (decide (years = 3) && (decide (cycles4 ≠ 24) || decide (cycles100 = 3))) := by
  rw [Bool.eq_iff_iff]
  simp only [isLeap, Bool.and_eq_true, Bool.or_eq_true, beq_iff_eq, bne_iff_ne, decide_eq_true_eq]
  omega

theorem lastDay_spec (hundreds : cycles100 ≤ 3) (fours : cycles4 ≤ 24)
    (leapYear : cycles4 ≠ 24 ∨ cycles100 = 3) :
    (⟨cycles400 * 400 + cycles100 * 100 + cycles4 * 4 + 3 + 1, 12, 31⟩ : Date).Valid ∧
      (⟨cycles400 * 400 + cycles100 * 100 + cycles4 * 4 + 3 + 1, 12, 31⟩ : Date).ordinal =
        cycles400 * 146097 + cycles100 * 36524 + cycles4 * 1461 + 1461 := by
  have leap := @isLeap_of_cycles cycles400 cycles100 cycles4 3 hundreds fours (Nat.le_refl 3)
  have isLeap : isLeap (cycles400 * 400 + cycles100 * 100 + cycles4 * 4 + 3 + 1) = true := by
    rw [leap]
    simpa using leapYear
  have before := @daysBeforeYear_of_cycles cycles400 cycles100 cycles4 3 hundreds fours
    (Nat.le_refl 3)
  have months : daysBeforeMonth true 12 = 335 := by decide
  constructor
  · simp [Date.Valid, daysInMonth]
  · simp only [Date.ordinal, isLeap, before, months]

end Cycles

theorem ofOrdinal_spec {ordinal : Nat} (pos : 1 ≤ ordinal) :
    (ofOrdinal ordinal).Valid ∧ (ofOrdinal ordinal).ordinal = ordinal := by
  unfold ofOrdinal
  dsimp only
  generalize quotient400 : (ordinal - 1) / 146097 = cycles400
  generalize rest400 : (ordinal - 1) % 146097 = days400
  generalize quotient100 : days400 / 36524 = cycles100
  generalize rest100 : days400 % 36524 = days100
  generalize quotient4 : days100 / 1461 = cycles4
  generalize rest4 : days100 % 1461 = days4
  generalize quotient1 : days4 / 365 = years
  generalize rest1 : days4 % 365 = days
  have whole : ordinal = cycles400 * 146097 + cycles100 * 36524 + cycles4 * 1461 + years * 365 +
      days + 1 := by omega
  have fours : cycles4 ≤ 24 := by omega
  have within : days < 365 := by omega
  split
  · next last =>
      rcases last with extra | extra
      · -- at the end of 4 years
        have hundreds : cycles100 ≤ 3 := by omega
        have leapYear : cycles4 ≠ 24 := by omega
        have none : days = 0 := by omega
        have spec := @lastDay_spec cycles400 cycles100 cycles4 hundreds fours (.inl leapYear)
        rw [extra]
        refine ⟨spec.1, spec.2.trans ?_⟩
        rw [whole, extra, none]
      · -- at the end of 400 years
        have none : cycles4 = 0 ∧ years = 0 ∧ days = 0 := by omega
        have spec := @lastDay_spec cycles400 3 24 (by decide) (by decide) (.inr rfl)
        have same : cycles400 * 400 + cycles100 * 100 + cycles4 * 4 + years + 1 - 1 =
            cycles400 * 400 + 3 * 100 + 24 * 4 + 3 + 1 := by omega
        rw [same]
        refine ⟨spec.1, spec.2.trans ?_⟩
        omega
  · next ordinary =>
      have hundreds : cycles100 ≤ 3 := by omega
      have ones : years ≤ 3 := by omega
      have leap := @isLeap_of_cycles cycles400 cycles100 cycles4 years hundreds fours ones
      rw [← leap]
      obtain ⟨month, day, count⟩ := ofDayOfYear_spec
        (isLeap (cycles400 * 400 + cycles100 * 100 + cycles4 * 4 + years + 1)) within
      refine ⟨⟨Nat.succ_le_succ (Nat.zero_le _), month, day⟩, ?_⟩
      rw [Date.ordinal, daysBeforeYear_of_cycles hundreds fours ones]
      dsimp only
      omega

theorem daysInMonth_le (leap : Bool) (month : Nat) : daysInMonth leap month ≤ 31 := by
  unfold daysInMonth
  split <;> cases leap <;> decide

theorem year_le_of_ordinal_le {date : Date} (valid : date.Valid) (last : date.ordinal ≤ 3652059) :
    date.year ≤ 9999 := by
  obtain ⟨-, -, day, -⟩ := valid
  refine Nat.le_of_not_lt fun later => ?_
  have before : 3652059 ≤ daysBeforeYear date.year := by
    unfold daysBeforeYear
    omega
  unfold Date.ordinal at last
  omega

end TypeDBDriver.Library.Gregorian
