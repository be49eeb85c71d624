import TypeDBDriver.Library.FixedWidth
import TypeDBDriver.Library.Regex

/-! The date-based and the time-based amounts of `java.time`, and the texts that they are parsed
from. An operation of `Math` named exact throws where the result is out of range. -/

namespace TypeDBDriver.Library.JavaTime

open Regex

inductive JavaException where
  | numberFormat
  | arithmetic
  | dateTimeParse (message : String) (parsedData : Text)
  | arrayIndexOutOfBounds
  deriving DecidableEq, Repr

theorem ok_bind {α β : Type} (value : α) (next : α → Except JavaException β) :
    (Except.ok value >>= next) = next value := rfl

def inRange (α : Type) [FixedWidth α] (exception : JavaException) (number : Int) :
    Except JavaException α :=
  if FixedWidth.least α ≤ number ∧ number ≤ FixedWidth.greatest α then
    .ok (FixedWidth.ofInt number)
  else .error exception

def rethrow {α : Type} (message : String) (text : Text) (body : Except JavaException α) :
    Except JavaException α :=
  match body with
  | .ok value => .ok value
  | .error _ => .error (.dateTimeParse message text)

def isSign (char : Char) : Bool := char == '-' || char == '+'

def integer : Regex := .seq (.optional (.one isSign)) (.repeated Char.isDigit 1 none)

def integerValue : Text → Int
  | '-' :: digits => -(Nat.ofDigitChars 10 digits 0)
  | '+' :: digits => Nat.ofDigitChars 10 digits 0
  | digits => Nat.ofDigitChars 10 digits 0

/-- `Integer.parseInt` and `Long.parseLong` on a group, which counts as 0 if it is absent. -/
def parseNumber (α : Type) [FixedWidth α] (captures : Captures) (index : Nat) :
    Except JavaException α :=
  (captures index).elim (.ok (FixedWidth.ofInt 0)) fun text =>
    inRange α .numberFormat (integerValue text)

def negates (captures : Captures) : Bool := captures 1 == some ['-']

structure Period where
  years : Int32
  months : Int32
  days : Int32
  deriving DecidableEq, Repr

namespace Period

/-- `([-+]?)P(?:([-+]?[0-9]+)Y)?(?:([-+]?[0-9]+)M)?(?:([-+]?[0-9]+)W)?(?:([-+]?[0-9]+)D)?`,
ignoring case. -/
def pattern : Regex :=
  .seq (.group 1 (.optional (.one isSign)))
    (.seq (.one (literal true 'P'))
      (.seq (numbered integer 2 (literal true 'Y'))
        (.seq (numbered integer 3 (literal true 'M'))
          (.seq (numbered integer 4 (literal true 'W'))
            (numbered integer 5 (literal true 'D'))))))

def message : String := "Text cannot be parsed to a Period"

def signed (text : Text) (captures : Captures) (index : Nat) : Except JavaException Int32 :=
  rethrow message text do
    let value ← parseNumber Int32 captures index
    inRange Int32 .arithmetic (if negates captures then -value.toInt else value.toInt)

/-- The sum of weeks and days is not guarded. -/
def ofCaptures (text : Text) (captures : Captures) : Except JavaException Period := do
  let years ← signed text captures 2
  let months ← signed text captures 3
  let weeks ← signed text captures 4
  let days ← signed text captures 5
  let weekDays ← inRange Int32 .arithmetic (weeks.toInt * 7)
  let days ← inRange Int32 .arithmetic (days.toInt + weekDays.toInt)
  .ok ⟨years, months, days⟩

def parse (text : Text) : Except JavaException Period :=
  match pattern.fullMatch text with
  | some captures =>
    if [2, 3, 4, 5].any fun index => (captures index).isSome then ofCaptures text captures
    else .error (.dateTimeParse message text)
  | none => .error (.dateTimeParse message text)

end Period

structure Duration where
  seconds : Int64
  nanos : Nat
  nanos_lt : nanos < 10 ^ 9
  deriving DecidableEq, Repr

namespace Duration

def nanosPerSecond : Int := 1000000000

/-- The amount of this many nanoseconds, which `create` takes apart with `floorDiv` and
`floorMod`. -/
def ofTotal (total : Int) : Except JavaException Duration := do
  let seconds ← inRange Int64 .arithmetic (total / nanosPerSecond)
  .ok ⟨seconds, (total % nanosPerSecond).toNat, by unfold nanosPerSecond; omega⟩

def ofNanos (nanos : Int64) : Duration where
  seconds := Int64.ofInt (nanos.toInt / nanosPerSecond)
  nanos := (nanos.toInt % nanosPerSecond).toNat
  nanos_lt := by
    unfold nanosPerSecond
    omega

def total (duration : Duration) : Int := duration.seconds.toInt * nanosPerSecond + duration.nanos

/-- `([-+]?)P(?:([-+]?[0-9]+)D)?` and then `(T...)?` with the hours, minutes and seconds, ignoring
case. The fraction is `(?:[.,]([0-9]{0,9}))?`. -/
def pattern : Regex :=
  .seq (.group 1 (.optional (.one isSign)))
    (.seq (.one (literal true 'P'))
      (.seq (numbered integer 2 (literal true 'D'))
        (.optional (.group 3 (.seq (.one (literal true 'T'))
          (timePattern true integer (fun char => char == '.' || char == ',') Char.isDigit 0
            (some 9)))))))

def message : String := "Text cannot be parsed to a Duration"

def sectionSeconds (text : Text) (captures : Captures) (index : Nat) (unit : Int)
    (errorText : String) : Except JavaException Int64 :=
  rethrow (message ++ ": " ++ errorText) text do
    let value ← parseNumber Int64 captures index
    inRange Int64 .arithmetic (value.toInt * unit)

/-- `parseFraction`. Fewer than nine digits are filled with zeros. -/
def fraction (captures : Captures) : Nat :=
  (captures 7).elim 0 fun text => Nat.ofDigitChars 10 text 0 * 10 ^ (9 - text.length)

def create (negate : Bool) (days hours minutes seconds : Int64) (nanos : Int) :
    Except JavaException Duration := do
  let sum ← inRange Int64 .arithmetic (minutes.toInt + seconds.toInt)
  let sum ← inRange Int64 .arithmetic (hours.toInt + sum.toInt)
  let sum ← inRange Int64 .arithmetic (days.toInt + sum.toInt)
  let duration ← ofTotal (sum.toInt * nanosPerSecond + nanos)
  if negate then ofTotal (-duration.total) else .ok duration

def ofCaptures (text : Text) (captures : Captures) : Except JavaException Duration := do
  let days ← sectionSeconds text captures 2 86400 "days"
  let hours ← sectionSeconds text captures 4 3600 "hours"
  let minutes ← sectionSeconds text captures 5 60 "minutes"
  let seconds ← sectionSeconds text captures 6 1 "seconds"
  let negativeSeconds := (captures 6).any fun text => text.head? == some '-'
  let nanos : Int := if negativeSeconds then -(fraction captures) else fraction captures
  rethrow (message ++ ": overflow") text
    (create (negates captures) days hours minutes seconds nanos)

def parse (text : Text) : Except JavaException Duration :=
  match pattern.fullMatch text with
  | some captures =>
    -- the letter without a section of time
    if captures 3 = some ['T'] then .error (.dateTimeParse message text)
    else if [2, 4, 5, 6].any fun index => (captures index).isSome then ofCaptures text captures
    else .error (.dateTimeParse message text)
  | none => .error (.dateTimeParse message text)

end Duration

end TypeDBDriver.Library.JavaTime
