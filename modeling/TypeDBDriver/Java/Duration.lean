import TypeDBDriver.Concept.Getters
import TypeDBDriver.Library.JavaTime

/-! The `Duration` of the Java driver, made from a native duration or from a text. -/

namespace TypeDBDriver.Java

open Library
open JavaTime (JavaException)

structure Duration where
  datePart : JavaTime.Period
  timePart : JavaTime.Duration
  deriving DecidableEq, Repr

namespace Duration

def monthsInYear : Int32 := 12

/-- `Duration(com.typedb.driver.jni.Duration)`. The casts to `int` and `longValue` keep the low
bits. -/
def ofNative (nativeDuration : TypeDBDriver.Duration) : Duration where
  datePart := ⟨0, Int32.ofInt nativeDuration.months.toNat, Int32.ofInt nativeDuration.days.toNat⟩
  timePart := .ofNanos (Int64.ofInt nativeDuration.nanos.toNat)

def ofParts (datePart : JavaTime.Period) (timePart : JavaTime.Duration) : Duration where
  datePart := ⟨0, datePart.years * monthsInYear + datePart.months, datePart.days⟩
  timePart

def getMonths (duration : Duration) : Int32 := duration.datePart.months

def getDays (duration : Duration) : Int32 := duration.datePart.days

def getSeconds (duration : Duration) : Int64 := duration.timePart.seconds

def getNano (duration : Duration) : Nat := duration.timePart.nanos

def parts (separator : Char) : Text → List Text
  | [] => [[]]
  | char :: rest =>
    if char = separator then [] :: parts separator rest
    else
      match parts separator rest with
      | [] => [[char]]
      | first :: others => (char :: first) :: others

/-- `String.split`: empty parts at the end are left out, unless there is no separator. -/
def split (separator : Char) (text : Text) : List Text :=
  if separator ∈ text then ((parts separator text).reverse.dropWhile (·.isEmpty)).reverse
  else [text]

def parse (durationString : Text) : Except JavaException Duration :=
  match split 'T' durationString with
  | [] => .error .arrayIndexOutOfBounds
  | [date] => do
      let period ← JavaTime.Period.parse date
      .ok (ofParts period (.ofNanos 0))
  | date :: time :: _ => do
      let period ← JavaTime.Period.parse date
      let duration ← JavaTime.Duration.parse ('P' :: 'T' :: time)
      .ok (ofParts period duration)

end Duration

def tryGetDuration (concept : Concept) : Option Duration :=
  if concept.isType then none
  else
    match concept.tryGetValue with
    | some (.duration value) => some (.ofNative value)
    | _ => none

end TypeDBDriver.Java
