import TypeDBDriver.Library.CivilTime

/-! Datetime values as texts in the C++ driver. -/

namespace TypeDBDriver.Cpp

open Library

structure DateTime where
  milliseconds : Int
  deriving DecidableEq, Repr

/-- The local zone of the process: how far ahead of UTC its standard time is, at a local time that
is given in seconds since the epoch as if it were in UTC. -/
structure LocalZone where
  standardOffset : Int → Int
  bounded : ∀ localTime, -604800 < standardOffset localTime ∧ standardOffset localTime < 604800

def LocalZone.ahead (seconds : Int) (bounded : -604800 < seconds ∧ seconds < 604800) : LocalZone :=
  ⟨fun _ => seconds, fun _ => bounded⟩

namespace DateTime

/-- The system clock counts nanoseconds in 64 bits, and `to_time_t` converts to them first. -/
def toTimeT (t : DateTime) : Int :=
  ((t.milliseconds * 1000000).bmod (2 ^ 64)).tdiv 1000000000

def truncated (t : DateTime) : DateTime := ⟨t.milliseconds.tdiv 1000 * 1000⟩

def Supported (t : DateTime) : Prop :=
  0 ≤ t.milliseconds ∧ t.milliseconds < 253402300800000

end DateTime

/-- `std::gmtime`, from the year 1 on. -/
def gmtime (epochSeconds : Int) : CivilTime :=
  .ofSeconds (719162 * 86400 + epochSeconds).toNat

/-- The broken-down time has `tm_isdst = 0`, so that it is in standard time also in summer. -/
def LocalZone.mktime (zone : LocalZone) (tm : CTime.Tm) : Int :=
  tm.seconds - zone.standardOffset tm.seconds

namespace Value

def formatDateTime (t : DateTime) : Text := (gmtime t.toTimeT).isoText

def parseDateTime (zone : LocalZone) (s : Text) : DateTime :=
  let format := if 'T' ∈ s then CTime.timeFormat else CTime.dateFormat
  ⟨zone.mktime (CTime.strptime format s {}) * 1000⟩

theorem gmtime_spec {epochSeconds : Int} (least : -(719162 * 86400) ≤ epochSeconds)
    (greatest : epochSeconds < 253402300800) :
    CTime.strptime CTime.timeFormat (gmtime epochSeconds).isoText {} =
        .ofCivil (gmtime epochSeconds) ∧
      (CTime.Tm.ofCivil (gmtime epochSeconds)).seconds = epochSeconds := by
  have pos : 1 ≤ (719162 * 86400 + epochSeconds).toNat / 86400 + 1 := Nat.le_add_left 1 _
  obtain ⟨valid, ordinal⟩ := Gregorian.ofOrdinal_spec pos
  have year : (gmtime epochSeconds).date.year ≤ 9999 :=
    Gregorian.year_le_of_ordinal_le valid (ordinal.le.trans (by omega))
  constructor
  · refine CTime.strptime_isoText valid year ?_ ?_ ?_
    all_goals
      simp only [gmtime, CivilTime.ofSeconds]
      omega
  · rw [CTime.Tm.seconds_ofCivil valid, gmtime, CivilTime.toSeconds_ofSeconds]
    omega

theorem toTimeT_of_lt {t : DateTime} (least : 0 ≤ t.milliseconds)
    (early : t.milliseconds < 9223372036855) : t.toTimeT = t.milliseconds.tdiv 1000 := by
  have fits : (t.milliseconds * 1000000).bmod (2 ^ 64) = t.milliseconds * 1000000 := by
    apply Int.bmod_eq_of_le <;> omega
  rw [DateTime.toTimeT, fits, Int.tdiv_eq_ediv_of_nonneg least,
    Int.tdiv_eq_ediv_of_nonneg (by omega)]
  omega

theorem tdiv_bounds (number : Int) :
    number / 1000000000 ≤ number.tdiv 1000000000 ∧
      number.tdiv 1000000000 ≤ number / 1000000000 + 1 := by
  rw [Int.tdiv_eq_ediv]
  split
  · omega
  · change _ ≤ _ + 1 ∧ _ + 1 ≤ _
    omega

theorem bmod_add_le {number : Int} (late : 2 ^ 63 ≤ number) :
    number.bmod (2 ^ 64) + 2 ^ 64 ≤ number := by
  rw [Int.bmod_def]
  split <;> omega

/-- A time that does not fit comes out whole turns of the clock too early. -/
theorem toTimeT_of_le {t : DateTime} (late : 9223372036855 ≤ t.milliseconds) :
    t.toTimeT + 604800 < t.milliseconds.tdiv 1000 := by
  have turned := @bmod_add_le (t.milliseconds * 1000000) (by omega)
  have bounds := tdiv_bounds ((t.milliseconds * 1000000).bmod (2 ^ 64))
  rw [DateTime.toTimeT, Int.tdiv_eq_ediv_of_nonneg (by omega : 0 ≤ t.milliseconds)]
  omega

theorem toTimeT_bounds (t : DateTime) : -9223372038 < t.toTimeT ∧ t.toTimeT < 9223372038 := by
  have clock := Int.bmod_def (t.milliseconds * 1000000) (2 ^ 64)
  have bounds := tdiv_bounds ((t.milliseconds * 1000000).bmod (2 ^ 64))
  rw [DateTime.toTimeT]
  split at clock <;> omega

/-- A text reads back as its time, up to the second, exactly if the nanoseconds of the time fit 64
bits and the standard time of the local zone is UTC. -/
theorem parseDateTime_formatDateTime_iff (zone : LocalZone) (t : DateTime)
    (supported : t.Supported) :
    parseDateTime zone (formatDateTime t) = t.truncated ↔
      t.milliseconds < 9223372036855 ∧ zone.standardOffset (t.milliseconds / 1000) = 0 := by
  obtain ⟨least, _⟩ := supported
  have bounds := toTimeT_bounds t
  obtain ⟨read, seconds⟩ := @gmtime_spec t.toTimeT (by omega) (by omega)
  have letter : 'T' ∈ formatDateTime t := by simp [formatDateTime, CivilTime.isoText]
  have parsed : parseDateTime zone (formatDateTime t) =
      ⟨(t.toTimeT - zone.standardOffset t.toTimeT) * 1000⟩ := by
    rw [parseDateTime, if_pos letter, formatDateTime, read, LocalZone.mktime, seconds]
  rw [parsed, DateTime.truncated, DateTime.mk.injEq]
  by_cases early : t.milliseconds < 9223372036855
  · have quotient : t.milliseconds.tdiv 1000 = t.milliseconds / 1000 :=
      Int.tdiv_eq_ediv_of_nonneg least
    rw [toTimeT_of_lt least early, quotient]
    omega
  · have wrapped := toTimeT_of_le (Int.not_lt.mp early)
    have offset := zone.bounded t.toTimeT
    omega

theorem parseDateTime_formatDateTime_utc :
    parseDateTime (.ahead 0 (by decide)) (formatDateTime ⟨951782400500⟩) = ⟨951782400000⟩ :=
  (parseDateTime_formatDateTime_iff _ ⟨951782400500⟩ ⟨by decide, by decide⟩).mpr
    ⟨by decide, rfl⟩

/-- One hour ahead of UTC, the epoch reads back an hour early. In UTC, the year 3000 reads back as
a time of the year 1830. -/
theorem parseDateTime_shifts :
    parseDateTime (.ahead 3600 (by decide)) (formatDateTime ⟨0⟩) = ⟨-3600000⟩ ∧
      (⟨0⟩ : DateTime).truncated = ⟨0⟩ ∧
      parseDateTime (.ahead 0 (by decide)) (formatDateTime ⟨32503680000000⟩) =
        ⟨-4389808147000⟩ ∧
      (⟨32503680000000⟩ : DateTime).truncated = ⟨32503680000000⟩ := by
  decide

end Value

end TypeDBDriver.Cpp
