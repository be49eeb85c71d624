import TypeDBDriver.Concept.Getters
import TypeDBDriver.Library.PythonTime

/-! The dates and the `Datetime` objects of the Python driver. -/

namespace TypeDBDriver.Python

open Library
open PythonTime (PythonException Zone ZoneInfo TzInfo)

/-- `concept_get_date_as_seconds`: the midnight of UTC with which the date begins. -/
def conceptGetDateAsSeconds (date : NaiveDate) : Int :=
  (date.numDaysFromCe - PythonTime.epochOrdinal) * PythonTime.secondsInDay

structure DatetimeInNanos where
  seconds : Int
  subsecNanos : Nat
  deriving DecidableEq, Repr

def DatetimeInNanos.new (datetime : NaiveDateTime) : DatetimeInNanos :=
  ⟨datetime.seconds, datetime.nanos⟩

structure DatetimeAndTimeZone where
  datetimeInNanos : DatetimeInNanos
  zoneName : String
  localMinusUtcOffset : Int
  isFixedOffset : Bool
  deriving DecidableEq, Repr

def DatetimeAndTimeZone.new (datetimeTz : DateTime) : DatetimeAndTimeZone :=
  match datetimeTz.timezone with
  | .iana tz => ⟨.new datetimeTz.utc, tz.name, 0, false⟩
  | .fixed offset => ⟨.new datetimeTz.utc, "", offset.localMinusUtc, true⟩

def nanosInSecond : Int := 1000000000

structure Datetime where
  tzName : Option String
  offsetSeconds : Option Int
  datetimeOfSeconds : PythonTime.Datetime
  nanos : Int
  nanos_valid : 0 ≤ nanos ∧ nanos < nanosInSecond

namespace Datetime

def timezoneInfo (zones : String → Option ZoneInfo) (tzName : Option String)
    (offsetSeconds : Option Int) : Except PythonException (Option TzInfo) :=
  match offsetSeconds, tzName with
  | some offset, _ => (TzInfo.ofOffset offset).map some
  | none, some name => (TzInfo.ofKey zones name).map some
  | none, none => .ok none

def ofSeconds (timestampSeconds : Int) (timezoneInfo : Option TzInfo) (tzAdjustTimestamp : Bool) :
    Except PythonException PythonTime.Datetime :=
  match timezoneInfo with
  | some tz =>
    if tzAdjustTimestamp then PythonTime.Datetime.fromtimestamp timestampSeconds tz
    else (PythonTime.Datetime.utcfromtimestamp timestampSeconds).map (·.replaceTzinfo tz)
  | none => PythonTime.Datetime.utcfromtimestamp timestampSeconds

def init (zones : String → Option ZoneInfo) (timestampSeconds subsecNanos : Int)
    (tzName : Option String) (offsetSeconds : Option Int) (tzAdjustTimestamp : Bool) :
    Except PythonException Datetime :=
  if valid : 0 ≤ subsecNanos ∧ subsecNanos < nanosInSecond then
    if offsetSeconds.isSome ∧ tzName.isSome then
      .error <| .valueError <|
        "Either 'tz_name' or 'offset_seconds' should be used to set time zone info. " ++
          "Please, provide a single parameter."
    else do
      let timezoneInfo ← timezoneInfo zones tzName offsetSeconds
      let datetimeOfSeconds ← ofSeconds timestampSeconds timezoneInfo tzAdjustTimestamp
      .ok ⟨tzName, offsetSeconds, datetimeOfSeconds, subsecNanos, valid⟩
  else .error (.valueError "subsec_nanos must be between 0 and 999,999,999")

def utcfromtimestamp (zones : String → Option ZoneInfo) (timestampSeconds subsecNanos : Int)
    (tzName : Option String) (offsetSeconds : Option Int) : Except PythonException Datetime :=
  init zones timestampSeconds subsecNanos tzName offsetSeconds false

def fromtimestamp (zones : String → Option ZoneInfo) (timestampSeconds subsecNanos : Int)
    (tzName : Option String) (offsetSeconds : Option Int) : Except PythonException Datetime :=
  if tzName.isNone ∧ offsetSeconds.isNone then
    .error <| .valueError <|
      "Either 'tz_name' or 'offset_seconds' should be provided. " ++
        "Consider using 'utcfromtimestamp' for naive datetime."
  else init zones timestampSeconds subsecNanos tzName offsetSeconds true

def totalSeconds (localZone : Zone) (datetime : Datetime) : Except PythonException Rat := do
  let seconds ← datetime.datetimeOfSeconds.timestamp localZone
  .ok (PythonTime.float (seconds + PythonTime.float (datetime.nanos / nanosInSecond)))

def eq (datetime other : Datetime) : Bool :=
  datetime.datetimeOfSeconds.eq other.datetimeOfSeconds && datetime.nanos == other.nanos

end Datetime

def tryGetDate (localZone : Zone) (concept : Concept) :
    Except PythonException (Option PythonTime.Date) :=
  if concept.isType then .ok none
  else
    match concept.tryGetValue with
    | some (.date date) =>
      (PythonTime.Date.fromtimestamp localZone (conceptGetDateAsSeconds date)).map some
    | _ => .ok none

def tryGetDatetimeTz (zones : String → Option ZoneInfo) (concept : Concept) :
    Except PythonException (Option Datetime) :=
  if concept.isType then .ok none
  else
    match concept.tryGetValue with
    | some (.datetimeTZ datetimeTz) =>
      let nativeDatetimeTz := DatetimeAndTimeZone.new datetimeTz
      let nativeDatetime := nativeDatetimeTz.datetimeInNanos
      if nativeDatetimeTz.isFixedOffset then
        (Datetime.fromtimestamp zones nativeDatetime.seconds nativeDatetime.subsecNanos none
          (some nativeDatetimeTz.localMinusUtcOffset)).map some
      else
        (Datetime.fromtimestamp zones nativeDatetime.seconds nativeDatetime.subsecNanos
          (some nativeDatetimeTz.zoneName) none).map some
    | _ => .ok none

end TypeDBDriver.Python
