import TypeDBDriver.Python.Datetime

/-! What the local zone of a Python process changes in dates and timestamps, and which instants
the driver takes for the same. -/

namespace TypeDBDriver.Python

open Library
open PythonTime (PythonException Zone ZoneInfo TzInfo Supported Date float_intCast maxOrdinal
  ordinal secondsInDay)
open Datetime (fromtimestamp totalSeconds utcfromtimestamp)

theorem map_some_eq_ok_iff {α : Type} {made : Except PythonException α} {value : α} :
    made.map some = .ok (some value) ↔ made = .ok value := by
  simp [PythonTime.map_eq_ok_iff]

theorem ordinal_conceptGetDateAsSeconds (date : NaiveDate) (shift : Int) :
    ordinal (conceptGetDateAsSeconds date + shift) =
      date.numDaysFromCe + shift / secondsInDay := by
  simp only [ordinal, conceptGetDateAsSeconds, secondsInDay]
  omega

variable {localZone : Zone} {concept : Concept}

theorem tryGetDate_eq_ok_iff {date : NaiveDate} {result : Date}
    (holds : concept.tryGetValue = some (.date date)) :
    tryGetDate localZone concept = .ok (some result) ↔
      result.ordinal = date.numDaysFromCe +
        localZone.offset (conceptGetDateAsSeconds date) / secondsInDay := by
  rw [tryGetDate, Concept.isType_of_tryGetValue holds, holds]
  change (PythonTime.Date.fromtimestamp _ _).map some = _ ↔ _
  rw [map_some_eq_ok_iff, PythonTime.Date.fromtimestamp_eq_ok_iff, Zone.reading,
    ordinal_conceptGetDateAsSeconds]

theorem tryGetDate_kept_iff {date : NaiveDate} (holds : concept.tryGetValue = some (.date date)) :
    (∃ result, tryGetDate localZone concept = .ok (some result) ∧
        result.ordinal = date.numDaysFromCe) ↔
      (1 ≤ date.numDaysFromCe ∧ date.numDaysFromCe ≤ maxOrdinal) ∧
      0 ≤ localZone.offset (conceptGetDateAsSeconds date) ∧
      localZone.offset (conceptGetDateAsSeconds date) < secondsInDay := by
  simp only [tryGetDate_eq_ok_iff holds]
  have sameDay : localZone.offset (conceptGetDateAsSeconds date) / secondsInDay = 0 ↔
      0 ≤ localZone.offset (conceptGetDateAsSeconds date) ∧
        localZone.offset (conceptGetDateAsSeconds date) < secondsInDay := by
    simp only [secondsInDay]
    omega
  rw [← sameDay]
  constructor
  · intro read
    obtain ⟨result, shown, same⟩ := read
    have valid := result.valid
    rw [same] at valid shown
    exact ⟨valid, by omega⟩
  · intro kept
    obtain ⟨valid, sameDay⟩ := kept
    refine ⟨⟨date.numDaysFromCe, valid⟩, ?_, rfl⟩
    rw [sameDay, Int.add_zero]

variable {seconds : Int} {datetime : Datetime}

theorem utcfromtimestamp_eq_ok_iff {zones : String → Option ZoneInfo} {subsecNanos : Int} :
    utcfromtimestamp zones seconds subsecNanos none none = .ok datetime ↔
      ∃ (supported : Supported seconds) (valid : 0 ≤ subsecNanos ∧ subsecNanos < nanosInSecond),
        datetime = ⟨none, none, ⟨seconds, false, none, supported⟩, subsecNanos, valid⟩ := by
  unfold utcfromtimestamp Datetime.init
  split
  · next valid =>
      rw [if_neg (by decide)]
      change (PythonTime.Datetime.utcfromtimestamp seconds >>= fun datetimeOfSeconds =>
        Except.ok (Datetime.mk none none datetimeOfSeconds subsecNanos valid)) = _ ↔ _
      unfold PythonTime.Datetime.utcfromtimestamp
      split
      · next supported =>
          constructor
          · intro made
            cases made
            exact ⟨supported, valid, rfl⟩
          · intro made
            obtain ⟨_, _, rfl⟩ := made
            rfl
      · next unsupported =>
          exact iff_of_false (fun made => by cases made) fun made => unsupported made.1
  · next invalid =>
      exact iff_of_false (fun made => by cases made) fun made => invalid made.2.1

theorem totalSeconds_eq_ok_iff (supported : Supported seconds)
    {valid : 0 ≤ (0 : Int) ∧ 0 < nanosInSecond} {result : Int} :
    totalSeconds localZone ⟨none, none, ⟨seconds, false, none, supported⟩, 0, valid⟩ =
      .ok (result : Rat) ↔ localZone.localToSeconds seconds false = .ok result := by
  have zero : PythonTime.float (((0 : Int) : Rat) / (nanosInSecond : Rat)) = 0 := by
    have none : PythonTime.float ((0 : Int) : Rat) = (0 : Int) :=
      float_intCast (by decide)
    simpa using none
  unfold totalSeconds PythonTime.Datetime.timestamp
  cases found : localZone.localToSeconds seconds false with
  | error exception => exact iff_of_false (fun same => by cases same) fun same => by cases same
  | ok instant =>
    have exact_ := float_intCast (Zone.localToSeconds_bound supported found)
    change Except.ok (PythonTime.float (PythonTime.float instant +
      PythonTime.float (((0 : Int) : Rat) / (nanosInSecond : Rat)))) = _ ↔ _
    rw [zero, add_zero, exact_, exact_, Except.ok.injEq, Except.ok.injEq, Rat.intCast_inj]

/-- Neither dates nor timestamps are independent of the local zone. A date is that of the server
exactly if the local clock is ahead of UTC at its midnight by less than a day. A timestamp comes
back exactly if the local clock shows UTC, and the offset of the day before does not lead to an
earlier instant with the same reading, or if the clock has been put forward from UTC and has
skipped the reading. -/
theorem local_zone_irrelevant_iff (localZone : Zone) (zones : String → Option ZoneInfo) :
    (∀ (concept : Concept) (date : NaiveDate), concept.tryGetValue = some (.date date) →
      ((∃ result, tryGetDate localZone concept = .ok (some result) ∧
          result.ordinal = date.numDaysFromCe) ↔
        (1 ≤ date.numDaysFromCe ∧ date.numDaysFromCe ≤ maxOrdinal) ∧
        0 ≤ localZone.offset (conceptGetDateAsSeconds date) ∧
        localZone.offset (conceptGetDateAsSeconds date) < 86400)) ∧
    (∀ seconds : Int,
      (∃ datetime, utcfromtimestamp zones seconds 0 none none = .ok datetime ∧
          datetime.totalSeconds localZone = .ok (seconds : Rat)) ↔
        (localZone.offset seconds = 0 ∧ Supported seconds ∧
          Supported (localZone.reading (seconds - 86400)) ∧
          (localZone.offset (seconds - 86400) = 0 ∨
            Supported (localZone.reading (seconds - localZone.offset (seconds - 86400))) ∧
              localZone.reading (seconds - localZone.offset (seconds - 86400)) ≠ seconds)) ∨
        (0 < localZone.offset seconds ∧ Supported (localZone.reading seconds) ∧
          Supported (seconds - localZone.offset seconds) ∧
          localZone.offset (seconds - localZone.offset seconds) = 0)) := by
  refine ⟨fun concept date holds => tryGetDate_kept_iff holds, fun seconds => ?_⟩
  refine Iff.trans ?_ Zone.localToSeconds_eq_self_iff
  constructor
  · intro returned
    obtain ⟨datetime, made, total⟩ := returned
    obtain ⟨supported, _, rfl⟩ := utcfromtimestamp_eq_ok_iff.mp made
    exact (totalSeconds_eq_ok_iff supported).mp total
  · intro found
    have supported : Supported seconds := by
      rcases Zone.localToSeconds_eq_self_iff.mp found with shown | skipped
      · exact shown.2.1
      · obtain ⟨ahead, later, earlier, -⟩ := skipped
        exact PythonTime.supported_of_between earlier later (by omega)
          (by unfold Zone.reading; omega)
    exact ⟨_, utcfromtimestamp_eq_ok_iff.mpr ⟨supported, by decide, rfl⟩,
      (totalSeconds_eq_ok_iff supported).mpr found⟩

/-- The first day of 1970 and the epoch, five hours west of Greenwich. -/
theorem local_zone_relevant :
    tryGetDate ⟨fun _ => -18000⟩ (.value (.date ⟨719163⟩)) = .ok (some ⟨719162, by decide⟩) ∧
    ∃ datetime, utcfromtimestamp (fun _ => none) 0 0 none none = .ok datetime ∧
      datetime.totalSeconds ⟨fun _ => -18000⟩ = .ok 18000 := by
  refine ⟨by decide, _, rfl, ?_⟩
  decide +kernel

variable {zones : String → Option ZoneInfo}

theorem fromtimestamp_inversion {subsecNanos : Int} {tzName : Option String}
    {offsetSeconds : Option Int} {tzinfo : Except PythonException TzInfo}
    (given : Datetime.timezoneInfo zones tzName offsetSeconds = tzinfo.map some)
    (made : fromtimestamp zones seconds subsecNanos tzName offsetSeconds = .ok datetime) :
    ∃ tz, tzinfo = .ok tz ∧ datetime.datetimeOfSeconds.tzinfo = some tz ∧
      datetime.datetimeOfSeconds.reading = (tz.fromutc seconds).1 ∧
      datetime.nanos = subsecNanos := by
  unfold fromtimestamp Datetime.init at made
  rw [given] at made
  split at made
  · cases made
  · split at made
    · split at made
      · cases made
      · cases tzinfo with
        | error exception => cases made
        | ok tz =>
          obtain ⟨timezoneInfo, found, made⟩ := PythonTime.bind_eq_ok_iff.mp made
          cases found
          obtain ⟨datetimeOfSeconds, held, made⟩ := PythonTime.bind_eq_ok_iff.mp made
          cases made
          obtain ⟨zoned, reading⟩ := PythonTime.Datetime.fromtimestamp_inversion held
          exact ⟨tz, rfl, zoned, reading, rfl⟩
    · cases made

def tzInfo (zones : String → Option ZoneInfo) : TimeZone → Except PythonException TzInfo
  | .iana tz => TzInfo.ofKey zones tz.name
  | .fixed offset => TzInfo.ofOffset offset.localMinusUtc

theorem tryGetDatetimeTz_inversion {native : DateTime}
    (holds : concept.tryGetValue = some (.datetimeTZ native))
    (built : tryGetDatetimeTz zones concept = .ok (some datetime)) :
    ∃ tz, tzInfo zones native.timezone = .ok tz ∧
      datetime.datetimeOfSeconds.tzinfo = some tz ∧
      datetime.datetimeOfSeconds.reading = (tz.fromutc native.utc.seconds).1 ∧
      datetime.nanos = native.utc.nanos := by
  rw [tryGetDatetimeTz, Concept.isType_of_tryGetValue holds, holds] at built
  obtain ⟨utc, timezone⟩ := native
  cases timezone with
  | iana tz =>
    change (fromtimestamp zones utc.seconds utc.nanos (some tz.name) none).map some = _
      at built
    have given : Datetime.timezoneInfo zones (some tz.name) none =
      (TzInfo.ofKey zones tz.name).map some := rfl
    exact fromtimestamp_inversion given (map_some_eq_ok_iff.mp built)
  | fixed offset =>
    change (fromtimestamp zones utc.seconds utc.nanos none
      (some offset.localMinusUtc)).map some = _ at built
    have given : Datetime.timezoneInfo zones none (some offset.localMinusUtc) =
      (TzInfo.ofOffset offset.localMinusUtc).map some := rfl
    exact fromtimestamp_inversion given (map_some_eq_ok_iff.mp built)

def zonedDatetime (name : String) (info : ZoneInfo) (seconds nanos : Int)
    (valid : 0 ≤ nanos ∧ nanos < nanosInSecond)
    (supported : Supported (info.zone.reading seconds)) :
    Datetime :=
  ⟨some name, none, ⟨info.zone.reading seconds, info.fold seconds, some (.zoneInfo name info),
    supported⟩, nanos, valid⟩

theorem tryGetDatetimeTz_of_iana {utc : NaiveDateTime} {tz : Tz} {info : ZoneInfo}
    (holds : concept.tryGetValue = some (.datetimeTZ ⟨utc, .iana tz⟩))
    (known : zones tz.name = some info) (valid : 0 ≤ (utc.nanos : Int) ∧ utc.nanos < nanosInSecond)
    (utcSupported : Supported utc.seconds) (supported : Supported (info.zone.reading utc.seconds)) :
    tryGetDatetimeTz zones concept =
      .ok (some (zonedDatetime tz.name info utc.seconds utc.nanos valid supported)) := by
  have found : Datetime.timezoneInfo zones (some tz.name) none =
      .ok (some (.zoneInfo tz.name info)) := by
    rw [Datetime.timezoneInfo, TzInfo.ofKey, known]
    rfl
  have held : PythonTime.Datetime.fromtimestamp utc.seconds (.zoneInfo tz.name info) =
      .ok ⟨info.zone.reading utc.seconds, info.fold utc.seconds, some (.zoneInfo tz.name info),
        supported⟩ := by
    rw [PythonTime.Datetime.fromtimestamp, if_pos utcSupported]
    exact dif_pos supported
  have made : fromtimestamp zones utc.seconds utc.nanos (some tz.name) none =
      .ok (zonedDatetime tz.name info utc.seconds utc.nanos valid supported) := by
    rw [fromtimestamp, if_neg (by simp), Datetime.init, dif_pos valid, if_neg (by simp),
      found]
    change (PythonTime.Datetime.fromtimestamp utc.seconds (.zoneInfo tz.name info) >>= _) = _
    rw [held]
    rfl
  rw [tryGetDatetimeTz, Concept.isType_of_tryGetValue holds, holds]
  change (fromtimestamp zones utc.seconds utc.nanos (some tz.name) none).map some = _
  rw [made]
  rfl

theorem eq_iff_reading {first second : Concept} {x y : DateTime}
    {firstDatetime secondDatetime : Datetime}
    (firstHolds : first.tryGetValue = some (.datetimeTZ x))
    (secondHolds : second.tryGetValue = some (.datetimeTZ y)) (sameZone : x.timezone = y.timezone)
    (firstBuilt : tryGetDatetimeTz zones first = .ok (some firstDatetime))
    (secondBuilt : tryGetDatetimeTz zones second = .ok (some secondDatetime)) :
    ∃ tz, tzInfo zones x.timezone = .ok tz ∧
      (firstDatetime.eq secondDatetime = true ↔
        (tz.fromutc x.utc.seconds).1 = (tz.fromutc y.utc.seconds).1 ∧
          x.utc.nanos = y.utc.nanos) := by
  obtain ⟨tz, found, firstZone, firstReading, firstNanos⟩ :=
    tryGetDatetimeTz_inversion firstHolds firstBuilt
  obtain ⟨other, foundOther, secondZone, secondReading, secondNanos⟩ :=
    tryGetDatetimeTz_inversion secondHolds secondBuilt
  rw [← sameZone, found] at foundOther
  cases foundOther
  refine ⟨tz, found, ?_⟩
  rw [Datetime.eq, Bool.and_eq_true, beq_iff_eq,
    PythonTime.Datetime.eq_iff_of_tzinfo firstZone secondZone, firstReading, secondReading,
    firstNanos, secondNanos, Int.ofNat_inj]

/-- In a zone with a fixed offset equality is that of the instants. In a named zone it is exactly
if the two instants, unless they are the same, have different readings of the clock: an hour that
is repeated when the clock is put back counts once. -/
theorem datetimeTz_eq_iff (zones : String → Option ZoneInfo) (first second : Concept)
    (x y : DateTime) (firstDatetime secondDatetime : Datetime)
    (firstHolds : first.tryGetValue = some (.datetimeTZ x))
    (secondHolds : second.tryGetValue = some (.datetimeTZ y)) (sameZone : x.timezone = y.timezone)
    (firstBuilt : tryGetDatetimeTz zones first = .ok (some firstDatetime))
    (secondBuilt : tryGetDatetimeTz zones second = .ok (some secondDatetime)) :
    (∀ offset, x.timezone = .fixed offset →
      (firstDatetime.eq secondDatetime = true ↔
        x.utc.seconds = y.utc.seconds ∧ x.utc.nanos = y.utc.nanos)) ∧
    (∀ tz info, x.timezone = .iana tz → zones tz.name = some info →
      ((firstDatetime.eq secondDatetime = true ↔
          x.utc.seconds = y.utc.seconds ∧ x.utc.nanos = y.utc.nanos) ↔
        ¬ (x.utc.seconds ≠ y.utc.seconds ∧ x.utc.nanos = y.utc.nanos ∧
          x.utc.seconds + info.zone.offset x.utc.seconds =
            y.utc.seconds + info.zone.offset y.utc.seconds))) := by
  obtain ⟨tz, found, equal⟩ :=
    eq_iff_reading firstHolds secondHolds sameZone firstBuilt secondBuilt
  rw [equal]
  constructor
  · intro offset fixed
    have shifted : tz = .timezone offset.localMinusUtc := by
      rw [fixed, tzInfo, TzInfo.ofOffset] at found
      split at found
      · exact (Except.ok.inj found).symm
      · cases found
    rw [shifted, TzInfo.fromutc, TzInfo.fromutc]
    refine and_congr_left fun _ => ?_
    omega
  · intro named info iana known
    have zoned : tz = .zoneInfo named.name info := by
      rw [iana, tzInfo, TzInfo.ofKey, known] at found
      exact (Except.ok.inj found).symm
    rw [zoned, TzInfo.fromutc, TzInfo.fromutc, Zone.reading, Zone.reading]
    constructor
    · intro law repeated
      exact repeated.1 (law.mp ⟨repeated.2.2, repeated.2.1⟩).1
    · intro distinct
      refine ⟨fun same => ⟨?_, same.2⟩, fun same => ⟨by rw [same.1], same.2⟩⟩
      by_contra apart
      exact distinct ⟨apart, same.2, same.1⟩

/-- The rules of London in 2024 from the summer on: an hour ahead until the clock is put back. -/
def london : ZoneInfo where
  zone := ⟨fun instant => if instant < 1729990800 then 3600 else 0⟩
  fold instant := 1729990800 ≤ instant ∧ instant < 1729994400
  utcoffset reading fold :=
    if reading < 1729990800 ∨ reading < 1729994400 ∧ fold = false then 3600 else 0

def inLondon (seconds : Int) : DateTime := ⟨⟨seconds, 0⟩, .iana ⟨"Europe/London"⟩⟩

theorem tryGetDatetimeTz_inLondon (utcSupported : Supported seconds)
    (supported : Supported (london.zone.reading seconds)) :
    tryGetDatetimeTz (fun _ => some london) (.value (.datetimeTZ (inLondon seconds))) =
      .ok (some (zonedDatetime "Europe/London" london seconds 0 (by decide) supported)) := by
  have holds : (Concept.value (.datetimeTZ (inLondon seconds))).tryGetValue =
      some (.datetimeTZ ⟨⟨seconds, 0⟩, .iana ⟨"Europe/London"⟩⟩) := rfl
  have valid : 0 ≤ (0 : Int) ∧ 0 < nanosInSecond := by decide
  exact tryGetDatetimeTz_of_iana holds rfl valid utcSupported supported

/-- An hour before the change and an hour after it, which differ. -/
theorem datetimeTz_eq_iff_london :
    ∃ firstDatetime secondDatetime,
      tryGetDatetimeTz (fun _ => some london) (.value (.datetimeTZ (inLondon 1729987200))) =
        .ok (some firstDatetime) ∧
      tryGetDatetimeTz (fun _ => some london) (.value (.datetimeTZ (inLondon 1729994400))) =
        .ok (some secondDatetime) ∧
      firstDatetime.eq secondDatetime = false := by
  have firstBuilt := tryGetDatetimeTz_inLondon (by decide : Supported 1729987200) (by decide)
  have secondBuilt := tryGetDatetimeTz_inLondon (by decide : Supported 1729994400) (by decide)
  have law := (datetimeTz_eq_iff _ _ _ (inLondon 1729987200) (inLondon 1729994400) _ _ rfl rfl rfl
    firstBuilt secondBuilt).2 ⟨"Europe/London"⟩ london rfl rfl
  refine ⟨_, _, firstBuilt, secondBuilt, Bool.eq_false_iff.mpr fun equal => ?_⟩
  have same := (law.mpr (by decide)).mp equal
  exact absurd same.1 (by decide)

/-- Half past one in the morning of 27 October 2024, before and after the clock is put back. -/
theorem repeated_hour_equal :
    ∃ firstDatetime secondDatetime,
      tryGetDatetimeTz (fun _ => some london) (.value (.datetimeTZ (inLondon 1729989000))) =
        .ok (some firstDatetime) ∧
      tryGetDatetimeTz (fun _ => some london) (.value (.datetimeTZ (inLondon 1729992600))) =
        .ok (some secondDatetime) ∧
      firstDatetime.eq secondDatetime = true :=
  ⟨_, _, tryGetDatetimeTz_inLondon (by decide) (by decide),
    tryGetDatetimeTz_inLondon (by decide) (by decide), by decide⟩

end TypeDBDriver.Python
