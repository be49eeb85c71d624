import TypeDBDriver.Concept.Concept
import TypeDBDriver.Library.DecimalText

/-! The texts of the values that have no kind of JSON value of their own: decimals, dates,
date-times and durations. -/

namespace TypeDBDriver

open Library

structure ChronoFormat where
  /-- `%Y-%m-%d` -/
  date : NaiveDate → Text
  /-- `%FT%T%.9f` -/
  datetime : NaiveDateTime → Text
  /-- `%FT%T%.9f`, in the time of the zone -/
  datetimeTZ : DateTime → Text
  /-- `%FT%T%.9f%:z` -/
  datetimeTZWithOffset : DateTime → Text

namespace Decimal

def fractionalPartDenominatorLog10 : Nat := 19

/-- `fmt::Display for Decimal`. The zeros at the end of the fraction are not written. -/
def display (decimal : Decimal) : Text :=
  if decimal.fractional = 0 then integerText decimal.integer.toInt ++ ['.', '0']
  else
    let stripped := stripZeros decimal.fractional.toNat fractionalPartDenominatorLog10
    integerText decimal.integer.toInt ++ '.' :: zeroPadded stripped.2 stripped.1

end Decimal

namespace Duration

def nanosPerSec : Nat := 1000000000
def nanosPerMinute : Nat := 60 * nanosPerSec
def nanosPerHour : Nat := 60 * 60 * nanosPerSec
def monthsPerYear : Nat := 12

def isEmpty (duration : Duration) : Bool :=
  duration.months == 0 && duration.days == 0 && duration.nanos == 0

/-- A component is written only when it is not zero. -/
def component (amount : Nat) (designator : Char) : Text :=
  if 0 < amount then Nat.toDigits 10 amount ++ [designator] else []

def dateText (duration : Duration) : Text :=
  if 0 < duration.months ∨ 0 < duration.days then
    component (duration.months.toNat / monthsPerYear) 'Y' ++
      component (duration.months.toNat % monthsPerYear) 'M' ++ component duration.days.toNat 'D'
  else
    []

def secondsText (seconds nanos : Nat) : Text :=
  if 0 < seconds ∧ nanos = 0 then Nat.toDigits 10 seconds ++ ['S']
  else if 0 < nanos then Nat.toDigits 10 seconds ++ '.' :: zeroPadded 9 nanos ++ ['S']
  else []

def timeText (duration : Duration) : Text :=
  let nanos := duration.nanos.toNat
  if 0 < duration.nanos then
    'T' :: component (nanos / nanosPerHour) 'H' ++
      component (nanos % nanosPerHour / nanosPerMinute) 'M' ++
      secondsText (nanos % nanosPerMinute / nanosPerSec) (nanos % nanosPerSec)
  else
    []

def display (duration : Duration) : Text :=
  if duration.isEmpty then ['P', 'T', '0', 'S']
  else 'P' :: duration.dateText ++ duration.timeText

end Duration

/-- `fmt::Display for Value` on a date-time with a zone. -/
def DateTime.display (format : ChronoFormat) (datetime : DateTime) : Text :=
  match datetime.timezone with
  | .iana tz => format.datetimeTZ datetime ++ ' ' :: tz.name.toList
  | .fixed _ => format.datetimeTZWithOffset datetime

end TypeDBDriver
