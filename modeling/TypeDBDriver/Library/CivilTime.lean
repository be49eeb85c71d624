import TypeDBDriver.Library.DecimalText
import TypeDBDriver.Library.Gregorian

/-! The date and the time of day of a second, counted from the start of the year 1, and the
functions of the C library that print and read them. -/

namespace TypeDBDriver.Library

structure CivilTime where
  date : Gregorian.Date
  hour : Nat
  minute : Nat
  second : Nat
  deriving DecidableEq, Repr

namespace CivilTime

def ofSeconds (seconds : Nat) : CivilTime where
  date := Gregorian.ofOrdinal (seconds / 86400 + 1)
  hour := seconds % 86400 / 3600
  minute := seconds % 3600 / 60
  second := seconds % 60

def toSeconds (time : CivilTime) : Nat :=
  (time.date.ordinal - 1) * 86400 + time.hour * 3600 + time.minute * 60 + time.second

theorem toSeconds_ofSeconds (seconds : Nat) : (ofSeconds seconds).toSeconds = seconds := by
  have ordinal : (Gregorian.ofOrdinal (seconds / 86400 + 1)).ordinal = seconds / 86400 + 1 :=
    (Gregorian.ofOrdinal_spec (Nat.le_add_left 1 _)).2
  simp only [toSeconds, ofSeconds, ordinal]
  omega

theorem ofSeconds_inj {first second : Nat} :
    ofSeconds first = ofSeconds second ↔ first = second := by
  constructor
  · intro same
    rw [← toSeconds_ofSeconds first, same, toSeconds_ofSeconds]
  · intro same
    rw [same]

def isoText (time : CivilTime) : Text :=
  zeroPadded 1 time.date.year ++ '-' :: zeroPadded 2 time.date.month ++
    '-' :: zeroPadded 2 time.date.day ++ 'T' :: zeroPadded 2 time.hour ++
    ':' :: zeroPadded 2 time.minute ++ ':' :: zeroPadded 2 time.second

end CivilTime

namespace CTime

/-- Years count from 1900 and months from 0. -/
structure Tm where
  year : Int := 0
  mon : Int := 0
  mday : Int := 0
  hour : Int := 0
  min : Int := 0
  sec : Int := 0
  deriving DecidableEq, Repr

inductive Conversion where
  | year
  | month
  | day
  | hour
  | minute
  | second
  | literal (char : Char)
  deriving DecidableEq, Repr

def dateFormat : List Conversion :=
  [.year, .literal '-', .month, .literal '-', .day]

def timeFormat : List Conversion :=
  dateFormat ++ [.literal 'T', .hour, .literal ':', .minute, .literal ':', .second]

/-- The digits that are left to read, at most `width` of them and none once the number would pass
`greatest`. -/
def readDigits (greatest : Nat) : Nat → Nat → Text → Nat × Text
  | width + 1, number, char :: rest =>
    if char.isDigit = true ∧ number * 10 ≤ greatest then
      readDigits greatest width (10 * number + (char.toNat - '0'.toNat)) rest
    else (number, char :: rest)
  | _, number, text => (number, text)

def isSpace (char : Char) : Bool :=
  [' ', '\t', '\n', '\x0b', '\x0c', '\r'].contains char

def getNumber (least greatest width : Nat) (text : Text) : Option (Nat × Text) :=
  match text.dropWhile isSpace with
  | [] => none
  | char :: rest =>
    if char.isDigit = true then
      let (number, rest) := readDigits greatest width 0 (char :: rest)
      if least ≤ number ∧ number ≤ greatest then some (number, rest) else none
    else none

def Conversion.read (tm : Tm) (text : Text) : Conversion → Option (Tm × Text)
  | .year => (getNumber 0 9999 4 text).map fun (number, rest) =>
    ({ tm with year := (number : Int) - 1900 }, rest)
  | .month => (getNumber 1 12 2 text).map fun (number, rest) =>
    ({ tm with mon := (number : Int) - 1 }, rest)
  | .day => (getNumber 1 31 2 text).map fun (number, rest) => ({ tm with mday := number }, rest)
  | .hour => (getNumber 0 23 2 text).map fun (number, rest) => ({ tm with hour := number }, rest)
  | .minute => (getNumber 0 59 2 text).map fun (number, rest) => ({ tm with min := number }, rest)
  | .second => (getNumber 0 61 2 text).map fun (number, rest) => ({ tm with sec := number }, rest)
  | .literal char =>
    match text with
    | [] => none
    | first :: rest => if first = char then some (tm, rest) else none

/-- What `strptime` leaves in `tm`, also where it fails. -/
def strptime : List Conversion → Text → Tm → Tm
  | [], _, tm => tm
  | conversion :: format, text, tm =>
    match conversion.read tm text with
    | some (tm, rest) => strptime format rest tm
    | none => tm

def daysBeforeYear (year : Int) : Int :=
  (year - 1) * 365 + (year - 1) / 4 - (year - 1) / 100 + (year - 1) / 400

def isLeap (year : Int) : Bool :=
  year % 4 == 0 && (year % 100 != 0 || year % 400 == 0)

def Tm.seconds (tm : Tm) : Int :=
  let year := 1900 + tm.year + tm.mon / 12
  let days := daysBeforeYear year +
    Gregorian.daysBeforeMonth (isLeap year) ((tm.mon % 12).toNat + 1) + tm.mday - 719163
  days * 86400 + tm.hour * 3600 + tm.min * 60 + tm.sec

def Tm.ofCivil (time : CivilTime) : Tm where
  year := (time.date.year : Int) - 1900
  mon := (time.date.month : Int) - 1
  mday := time.date.day
  hour := time.hour
  min := time.minute
  sec := time.second

theorem Tm.seconds_ofCivil {time : CivilTime} (valid : time.date.Valid) :
    (Tm.ofCivil time).seconds = (time.toSeconds : Int) - 719162 * 86400 := by
  obtain ⟨year, ⟨leastMonth, greatestMonth⟩, day, -⟩ := valid
  have sameYear : 1900 + ((time.date.year : Int) - 1900) + ((time.date.month : Int) - 1) / 12 =
      time.date.year := by omega
  have sameMonth : (((time.date.month : Int) - 1) % 12).toNat + 1 = time.date.month := by omega
  have sameDays : daysBeforeYear time.date.year = Gregorian.daysBeforeYear time.date.year := by
    unfold daysBeforeYear Gregorian.daysBeforeYear
    omega
  have sameLeap : isLeap time.date.year = Gregorian.isLeap time.date.year := by
    rw [Bool.eq_iff_iff]
    simp only [isLeap, Gregorian.isLeap, Bool.and_eq_true, Bool.or_eq_true, beq_iff_eq, bne_iff_ne]
    omega
  simp only [Tm.seconds, Tm.ofCivil, sameYear, sameMonth, sameDays, sameLeap, CivilTime.toSeconds,
    Gregorian.Date.ordinal]
  omega

def Stops (rest : Text) : Prop := ∀ char ∈ rest.head?, char.isDigit = false

theorem readDigits_append {greatest width number : Nat} {digits rest : Text}
    (numeric : ∀ char ∈ digits, char.isDigit = true) (fits : digits.length ≤ width)
    (small : Nat.ofDigitChars 10 digits number ≤ greatest) (stops : Stops rest) :
    readDigits greatest width number (digits ++ rest) =
      (Nat.ofDigitChars 10 digits number, rest) := by
  induction digits generalizing width number with
  | nil =>
    cases width with
    | zero => rfl
    | succ width =>
      cases rest with
      | nil => rfl
      | cons char rest =>
        have other : char.isDigit = false := stops char rfl
        simp [readDigits, other]
  | cons char digits ih =>
    obtain ⟨width, rfl⟩ : ∃ smaller, width = smaller + 1 :=
      ⟨width - 1, by rw [List.length_cons] at fits; omega⟩
    rw [Nat.ofDigitChars_cons] at small ⊢
    have grows : 10 * number ≤ Nat.ofDigitChars 10 digits
        (10 * number + (char.toNat - '0'.toNat)) := by
      rw [Nat.ofDigitChars_eq_ofDigitChars_zero]
      have power : 0 < 10 ^ digits.length := Nat.pow_pos (by decide)
      calc 10 * number ≤ 10 * number + (char.toNat - '0'.toNat) := Nat.le_add_right _ _
        _ ≤ 10 ^ digits.length * (10 * number + (char.toNat - '0'.toNat)) :=
          Nat.le_mul_of_pos_left _ power
        _ ≤ _ := Nat.le_add_right _ _
    have below : number * 10 ≤ greatest := by omega
    simp only [List.cons_append, readDigits, numeric char List.mem_cons_self, below, and_self,
      if_true]
    exact ih (fun other listed => numeric other (List.mem_cons_of_mem _ listed))
      (by rw [List.length_cons] at fits; omega) small

theorem getNumber_zeroPadded {least greatest width padding number : Nat} {rest : Text}
    (fits : (zeroPadded padding number).length ≤ width)
    (within : least ≤ number ∧ number ≤ greatest) (stops : Stops rest) :
    getNumber least greatest width (zeroPadded padding number ++ rest) = some (number, rest) := by
  have numeric : ∀ char ∈ zeroPadded padding number, char.isDigit = true :=
    fun _ => isDigit_zeroPadded
  have value := ofDigitChars_zeroPadded padding number
  have some_ : zeroPadded padding number ≠ [] := by
    rw [zeroPadded]
    simp
  generalize zeroPadded padding number = digits at fits numeric value some_
  obtain ⟨first, others, rfl⟩ := List.exists_cons_of_ne_nil some_
  have digit := numeric first List.mem_cons_self
  have solid : isSpace first = false := by
    rw [Bool.eq_false_iff]
    intro space
    have listed := List.contains_iff_mem.mp space
    simp only [List.mem_cons, List.not_mem_nil, or_false] at listed
    rcases listed with rfl | rfl | rfl | rfl | rfl | rfl <;> exact absurd digit (by decide)
  have small : Nat.ofDigitChars 10 (first :: others) 0 ≤ greatest := value ▸ within.2
  have read := readDigits_append numeric fits small stops
  rw [value, List.cons_append] at read
  rw [List.cons_append]
  simp [getNumber, solid, digit, read, within]

theorem stops_literal {char : Char} (other : char.isDigit = false) (rest : Text) :
    Stops (char :: rest) := by
  intro first found
  cases found
  exact other

theorem strptime_isoText {time : CivilTime} (valid : time.date.Valid) (year : time.date.year ≤ 9999)
    (hour : time.hour < 24) (minute : time.minute < 60) (second : time.second < 60) :
    strptime timeFormat time.isoText {} = .ofCivil time := by
  obtain ⟨-, month, leastDay, greatestDay⟩ := valid
  have day : time.date.day ≤ 31 := greatestDay.trans (Gregorian.daysInMonth_le _ _)
  have twoDigits : ∀ number < 10 ^ 2, (zeroPadded 2 number).length ≤ 2 :=
    fun number small => (length_zeroPadded (by decide) small).le
  have fourDigits : (zeroPadded 1 time.date.year).length ≤ 4 := by
    have short := (Nat.length_toDigits_le_iff (by decide) (by decide)).mpr
      (show time.date.year < 10 ^ 4 by omega)
    have some_ : 0 < (Nat.toDigits 10 time.date.year).length := Nat.length_toDigits_pos
    rw [zeroPadded, List.length_append, List.length_replicate]
    omega
  have dash := stops_literal (show '-'.isDigit = false from rfl)
  have letter := stops_literal (show 'T'.isDigit = false from rfl)
  have colon := stops_literal (show ':'.isDigit = false from rfl)
  have readYear := fun rest => getNumber_zeroPadded fourDigits ⟨Nat.zero_le _, year⟩ (dash rest)
  have readMonth := fun rest => getNumber_zeroPadded (twoDigits _ (by omega)) month (dash rest)
  have readDay := fun rest =>
    getNumber_zeroPadded (twoDigits _ (by omega)) ⟨leastDay, day⟩ (letter rest)
  have readHour := fun rest => getNumber_zeroPadded (twoDigits _ (by omega))
    ⟨Nat.zero_le _, Nat.le_of_lt_succ hour⟩ (colon rest)
  have readMinute := fun rest => getNumber_zeroPadded (twoDigits _ (by omega))
    ⟨Nat.zero_le _, Nat.le_of_lt_succ minute⟩ (colon rest)
  have readSecond : getNumber 0 61 2 (zeroPadded 2 time.second) = some (time.second, []) := by
    have stops : Stops [] := by
      intro char first
      cases first
    have read := getNumber_zeroPadded (twoDigits _ (by omega))
      ⟨Nat.zero_le _, show time.second ≤ 61 by omega⟩ stops
    rwa [List.append_nil] at read
  simp only [CivilTime.isoText, timeFormat, dateFormat, List.append_assoc, List.cons_append,
    List.nil_append, strptime, Conversion.read, readYear, readMonth, readDay, readHour, readMinute,
    readSecond, Option.map_some, if_true]
  rfl

end CTime

end TypeDBDriver.Library
