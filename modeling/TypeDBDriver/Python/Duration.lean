import TypeDBDriver.Concept.DurationPattern

/-! How the Python driver reads the text of a duration. -/

namespace TypeDBDriver.Python

open Library Library.Regex

/-- The characters that `\d` matches and `int` reads, with their values. Beyond ASCII they are
the decimal digits of Unicode. -/
structure DecimalDigits where
  value : Char → Option Nat
  ascii : ∀ char : Char, char.toNat < 128 →
    value char = if char.isDigit then some (char.toNat - '0'.toNat) else none

namespace DecimalDigits

variable (digits : DecimalDigits)

def isDecimal (char : Char) : Bool := (digits.value char).isSome

def int (text : Text) : Nat :=
  text.foldl (fun number char => 10 * number + (digits.value char).getD 0) 0

def asciiOnly : DecimalDigits where
  value char := if char.isDigit then some (char.toNat - '0'.toNat) else none
  ascii _ _ := rfl

end DecimalDigits

structure Duration where
  months : Nat
  days : Nat
  nanos : Nat
  deriving DecidableEq, Repr

namespace Duration

def monthsInYear : Nat := 12
def daysInWeek : Nat := 7
def minutesInHour : Nat := 60
def secondsInMinute : Nat := 60
def nanosInSecond : Nat := 1000000000

/-- `ValueError(f"Incorrect format for duration string: '...'")` -/
inductive ValueError where
  | incorrectFormat (durationStr : Text)
  deriving DecidableEq, Repr

section

variable (digits : DecimalDigits)

def integer : Regex := .repeated digits.isDecimal 1 none

def datetimeRegex : Regex :=
  .seq (.one (literal false 'P'))
    (.seq (numbered (integer digits) 1 (literal false 'Y'))
      (.seq (numbered (integer digits) 2 (literal false 'M'))
        (.seq (numbered (integer digits) 3 (literal false 'D'))
          (.seq (.one (literal false 'T'))
            (timePattern false (integer digits) (· == '.') digits.isDecimal
              1 none)))))

def weekRegex : Regex :=
  .seq (.one (literal false 'P'))
    (.seq (.group 1 (integer digits)) (.one (literal false 'W')))

def group? (captures : Captures) (index : Nat) : Option Text :=
  (captures index).filter (!·.isEmpty)

def number (captures : Captures) (index : Nat) : Nat := (group? captures index).elim 0 digits.int

def ljust (text : Text) (width : Nat) (fill : Char) : Text :=
  text ++ List.replicate (width - text.length) fill

/-- `int((match.group(7) or '0').ljust(9, '0')[:9])` -/
def fraction (captures : Captures) : Nat :=
  digits.int ((ljust ((group? captures 7).getD ['0']) 9 '0').take 9)

def ofDatetime (captures : Captures) : Duration :=
  let years := number digits captures 1
  let months := number digits captures 2
  let days := number digits captures 3
  let hours := number digits captures 4
  let minutes := number digits captures 5
  let seconds := number digits captures 6
  let nanos := fraction digits captures
  let months := months + years * monthsInYear
  let minutes := minutes + hours * minutesInHour
  let seconds := seconds + minutes * secondsInMinute
  let nanos := nanos + seconds * nanosInSecond
  ⟨months, days, nanos⟩

def fromstring (durationStr : Text) : Except ValueError Duration :=
  match (datetimeRegex digits).fullMatch durationStr with
  | some captures => .ok (ofDatetime digits captures)
  | none =>
    match (weekRegex digits).fullMatch durationStr with
    | some captures => .ok ⟨0, number digits captures 1 * daysInWeek, 0⟩
    | none => .error (.incorrectFormat durationStr)

end

end Duration

end TypeDBDriver.Python
