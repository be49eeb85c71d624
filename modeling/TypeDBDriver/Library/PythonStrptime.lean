import TypeDBDriver.Library.DecimalText
import TypeDBDriver.Library.Gregorian
import TypeDBDriver.Library.PythonTime

/-! The texts of Python's dates and times: `datetime.isoformat`, and `datetime.strptime` for the
formats whose directives are all numbers. -/

namespace TypeDBDriver.Library.PythonTime

def civilDate (reading : Int) : Gregorian.Date := Gregorian.ofOrdinal (ordinal reading).toNat

def timeOfDay (reading : Int) : Nat := (reading % secondsInDay).toNat

/-- The format `%04d-%02d-%02dT%02d:%02d:%02d`. -/
def isoText (date : Gregorian.Date) (time : Nat) : Text :=
  zeroPadded 4 date.year ++ '-' :: (zeroPadded 2 date.month ++ '-' :: (zeroPadded 2 date.day ++
    'T' :: (zeroPadded 2 (time / 3600) ++ ':' :: (zeroPadded 2 (time / 60 % 60) ++
      ':' :: zeroPadded 2 (time % 60)))))

/-- The seconds of an offset are printed only where there are any. -/
def offsetText (offset : Int) : Text :=
  let seconds := offset.natAbs
  (if offset < 0 then '-' else '+') :: (zeroPadded 2 (seconds / 3600) ++
    ':' :: (zeroPadded 2 (seconds / 60 % 60) ++
      if seconds % 60 = 0 then [] else ':' :: zeroPadded 2 (seconds % 60)))

def localText (reading : Int) : Text := isoText (civilDate reading) (timeOfDay reading)

def Datetime.isoformat (datetime : Datetime) : Except PythonException Text :=
  match datetime.tzinfo with
  | none => .ok (localText datetime.reading)
  | some tz =>
    let offset := tz.utcoffset datetime.reading datetime.fold
    if -secondsInDay < offset ∧ offset < secondsInDay then
      .ok (localText datetime.reading ++ offsetText offset)
    else .error .offsetOutOfRange

inductive Directive where
  | year
  | month
  | day
  | hour
  | minute
  | second
  | microsecond
  deriving DecidableEq, Repr

inductive Token where
  | directive (directive : Directive)
  | literal (char : Char)
  /-- A run of white space, which matches any run. -/
  | blank
  deriving DecidableEq, Repr

def Token.directive? : Token → Option Directive
  | .directive field => some field
  | _ => none

def isAsciiSpace (char : Char) : Bool :=
  char == ' ' || ('\t' ≤ char && char ≤ '\r') ||
    ('\x1c' ≤ char && char ≤ '\x1f')

/-- What the patterns leave to the regular expressions: the characters of `\d` with their values,
the characters of `\s`, and the characters that a literal matches when case is ignored. -/
structure PatternCharacters where
  digit : Char → Option Nat
  isSpace : Char → Bool
  matchesLiteral : Char → Char → Bool
  digit_ascii : ∀ char : Char, char.toNat < 128 →
    digit char = if char.isDigit then some (char.toNat - '0'.toNat) else none
  digit_lt : ∀ char value, digit char = some value → value < 10
  isSpace_ascii : ∀ char : Char, char.toNat < 128 →
    isSpace char = isAsciiSpace char
  matchesLiteral_self : ∀ char, matchesLiteral char char = true

def asciiDigit (char : Char) : Option Nat :=
  if char.isDigit then some (char.toNat - '0'.toNat) else none

def PatternCharacters.asciiOnly : PatternCharacters where
  digit := asciiDigit
  isSpace := isAsciiSpace
  matchesLiteral expected char := expected.toLower == char.toLower
  digit_ascii _ _ := rfl
  digit_lt char value found := by
    unfold asciiDigit at found
    split at found
    · next numeric =>
        cases found
        have bounds := Char.isDigit_iff_toNat.mp numeric
        have nine : '9'.toNat = 57 := rfl
        have zero : '0'.toNat = 48 := rfl
        omega
    · cases found
  isSpace_ascii _ _ := rfl
  matchesLiteral_self _ := beq_self_eq_true _

inductive CharacterClass where
  | digit
  | between (first last : Char)
  deriving DecidableEq, Repr

/-- The alternatives of the pattern of a directive, in the order in which they are tried. -/
def Directive.pattern : Directive → List (List CharacterClass)
  | .year => [[.digit, .digit, .digit, .digit]]
  | .month => [[.between '1' '1', .between '0' '2'], [.between '0' '0', .between '1' '9'],
      [.between '1' '9']]
  | .day => [[.between '3' '3', .between '0' '1'], [.between '1' '2', .digit],
      [.between '0' '0', .between '1' '9'], [.between '1' '9'],
      [.between ' ' ' ', .between '1' '9']]
  | .hour => [[.between '2' '2', .between '0' '3'], [.between '0' '1', .digit], [.digit]]
  | .minute => [[.between '0' '5', .digit], [.digit]]
  | .second => [[.between '6' '6', .between '0' '1'], [.between '0' '5', .digit], [.digit]]
  | .microsecond => [6, 5, 4, 3, 2, 1].map (List.replicate · (.between '0' '9'))

def Directive.ofLetter : Char → Option Directive
  | 'Y' => some .year
  | 'm' => some .month
  | 'd' => some .day
  | 'H' => some .hour
  | 'M' => some .minute
  | 'S' => some .second
  | 'f' => some .microsecond
  | _ => none

/-- A datetime without a zone, with its microseconds. -/
structure Parsed where
  reading : Int
  microsecond : Nat
  supported : Supported reading
  microsecond_lt : microsecond < 1000000
  deriving DecidableEq, Repr

/-- `replace(tzinfo=timezone.utc).timestamp()` -/
def Parsed.utcTimestamp (parsed : Parsed) : Rat :=
  float ((parsed.reading * 1000000 + parsed.microsecond : Int) / 1000000)

/-- `int` of a float -/
def truncate (number : Rat) : Int := number.num.tdiv number.den

section Matching

variable (chars : PatternCharacters)

/-- `none` for a format with other directives. -/
def tokens : Text → Option (List Token)
  | [] => some []
  | ['%'] => none
  | '%' :: letter :: rest =>
    if letter = '%' then (tokens rest).map (.literal '%' :: ·)
    else (Directive.ofLetter letter).bind fun directive =>
      (tokens rest).map (.directive directive :: ·)
  | char :: rest =>
    (tokens rest).map fun tokens =>
      if chars.isSpace char then
        if tokens.head? = some .blank then tokens else .blank :: tokens
      else .literal char :: tokens

/-- The formats in which no directive is repeated. -/
def Distinct (tokens : List Token) : Prop := (tokens.filterMap Token.directive?).Nodup

instance (tokens : List Token) : Decidable (Distinct tokens) :=
  inferInstanceAs (Decidable (List.Nodup _))

def CharacterClass.accepts (char : Char) : CharacterClass → Bool
  | .digit => (chars.digit char).isSome
  | .between first last => first ≤ char && char ≤ last

/-- What a sequence of classes matches, and the rest of the text. -/
def matchClasses : List CharacterClass → Text → Option (Text × Text)
  | [], text => some ([], text)
  | _ :: _, [] => none
  | expected :: classes, char :: text =>
    if expected.accepts chars char then
      (matchClasses classes text).map fun (found, rest) => (char :: found, rest)
    else none

def Directive.matches (directive : Directive) (text : Text) : List (Text × Text) :=
  directive.pattern.filterMap fun classes => matchClasses chars classes text

/-- Every match of a format at the beginning of a text, in the order in which the regular
expression comes across them, with the fields and the rest of the text. -/
def formatMatches : List Token → Text → List (List (Directive × Text) × Text)
  | [], text => [([], text)]
  | .directive directive :: tokens, text =>
    (directive.matches chars text).flatMap fun (found, rest) =>
      (formatMatches tokens rest).map fun (fields, rest) => ((directive, found) :: fields, rest)
  | .literal _ :: _, [] => []
  | .literal expected :: tokens, char :: rest =>
    if chars.matchesLiteral expected char then formatMatches tokens rest else []
  | .blank :: tokens, text =>
    let spaces := (text.takeWhile chars.isSpace).length
    ((List.range spaces).map (spaces - ·)).flatMap fun taken =>
      formatMatches tokens (text.drop taken)

def number (text : Text) : Nat :=
  text.foldl (fun number char => 10 * number + (chars.digit char).getD 0) 0

def fieldNumber (fields : List (Directive × Text)) (directive : Directive) (default : Nat) : Nat :=
  (fields.lookup directive).elim default (number chars)

def fieldMicrosecond (fields : List (Directive × Text)) : Nat :=
  (fields.lookup .microsecond).elim 0 fun found =>
    number chars (found ++ List.replicate (6 - found.length) '0')

/-- What the constructor of `datetime` makes of the fields. -/
def ofFields (fields : List (Directive × Text)) : Option Parsed :=
  let date : Gregorian.Date := ⟨fieldNumber chars fields .year 1900,
    fieldNumber chars fields .month 1, fieldNumber chars fields .day 1⟩
  let hour := fieldNumber chars fields .hour 0
  let minute := fieldNumber chars fields .minute 0
  let second := fieldNumber chars fields .second 0
  let microsecond := fieldMicrosecond chars fields
  let reading := (date.ordinal - epochOrdinal) * secondsInDay +
    (hour * 3600 + minute * 60 + second : Nat)
  if valid : (date.Valid ∧ hour < 24 ∧ minute < 60 ∧ second < 60) ∧
      Supported reading ∧ microsecond < 1000000 then
    some ⟨reading, microsecond, valid.2.1, valid.2.2⟩
  else none

/-- `none` stands for a `ValueError`. The match that is found first must be the whole text. -/
def strptimeNumeric (tokens : List Token) (text : Text) : Option Parsed :=
  match (formatMatches chars tokens text).head? with
  | some (fields, []) => ofFields chars fields
  | _ => none

end Matching

section Matched

variable (chars : PatternCharacters)

theorem PatternCharacters.digit_of_isDigit {char : Char} (numeric : char.isDigit = true) :
    chars.digit char = some (char.toNat - '0'.toNat) := by
  have ascii : char.toNat < 128 := by
    have bounds := Char.isDigit_iff_toNat.mp numeric
    have nine : '9'.toNat = 57 := rfl
    omega
  rw [chars.digit_ascii char ascii, if_pos numeric]

theorem CharacterClass.accepts_of_isDigit (expected : CharacterClass) {char : Char}
    (numeric : char.isDigit = true) :
    expected.accepts chars char = expected.accepts .asciiOnly char := by
  cases expected with
  | digit => rw [accepts, accepts, chars.digit_of_isDigit numeric,
      PatternCharacters.asciiOnly.digit_of_isDigit numeric]
  | between first last => rfl

/-- Digits of ASCII are matched alike by every library, whatever text follows them. -/
theorem matchClasses_append {classes : List CharacterClass} {text : Text}
    (short : classes.length ≤ text.length)
    (numeric : ∀ char ∈ text, char.isDigit = true) (rest : Text) :
    matchClasses chars classes (text ++ rest) =
      (matchClasses .asciiOnly classes text).map fun found => (found.1, found.2 ++ rest) := by
  induction classes generalizing text with
  | nil => rfl
  | cons expected classes ih =>
    cases text with
    | nil => exact absurd short (by simp)
    | cons char text =>
      have others := ih (Nat.le_of_succ_le_succ short)
        fun other listed => numeric other (List.mem_cons_of_mem _ listed)
      rw [List.cons_append, matchClasses, matchClasses,
        expected.accepts_of_isDigit chars (numeric char List.mem_cons_self), others]
      split
      · rw [Option.map_map, Option.map_map]
        rfl
      · rfl

theorem Directive.matches_append {directive : Directive} {text : Text}
    (short : ∀ classes ∈ directive.pattern, classes.length ≤ text.length)
    (numeric : ∀ char ∈ text, char.isDigit = true) (rest : Text) :
    directive.matches chars (text ++ rest) =
      (directive.matches .asciiOnly text).map fun found => (found.1, found.2 ++ rest) := by
  rw [Directive.matches, Directive.matches, List.map_filterMap]
  exact List.filterMap_congr fun classes listed =>
    matchClasses_append chars (short classes listed) numeric rest

/-- A directive reads a number of two digits. -/
structure Directive.TwoDigits (directive : Directive) (value : Nat) : Prop where
  short : ∀ classes ∈ directive.pattern, classes.length ≤ 2
  fits : value < 100
  first : (directive.matches .asciiOnly (zeroPadded 2 value)).head? = some (zeroPadded 2 value, [])

theorem Directive.TwoDigits.head?_matches {directive : Directive} {value : Nat}
    (twoDigits : directive.TwoDigits value) (rest : Text) :
    (directive.matches chars (zeroPadded 2 value ++ rest)).head? =
      some (zeroPadded 2 value, rest) := by
  have length : (zeroPadded 2 value).length = 2 := length_zeroPadded (by decide) twoDigits.fits
  have short : ∀ classes ∈ directive.pattern, classes.length ≤ (zeroPadded 2 value).length := by
    rw [length]
    exact twoDigits.short
  rw [Directive.matches_append chars short (fun _ => isDigit_zeroPadded) rest, List.head?_map,
    twoDigits.first]
  rfl

theorem twoDigits_month {month : Nat} (least : 1 ≤ month) (greatest : month ≤ 12) :
    Directive.month.TwoDigits month := by
  have each : ∀ month < 13, 1 ≤ month → (Directive.month.matches .asciiOnly
      (zeroPadded 2 month)).head? = some (zeroPadded 2 month, []) := by decide
  exact ⟨by decide, by omega, each month (by omega) least⟩

theorem twoDigits_day {day : Nat} (least : 1 ≤ day) (greatest : day ≤ 31) :
    Directive.day.TwoDigits day := by
  have each : ∀ day < 32, 1 ≤ day → (Directive.day.matches .asciiOnly
      (zeroPadded 2 day)).head? = some (zeroPadded 2 day, []) := by decide
  exact ⟨by decide, by omega, each day (by omega) least⟩

theorem twoDigits_hour {hour : Nat} (within : hour < 24) : Directive.hour.TwoDigits hour := by
  have each : ∀ hour < 24, (Directive.hour.matches .asciiOnly
      (zeroPadded 2 hour)).head? = some (zeroPadded 2 hour, []) := by decide
  exact ⟨by decide, by omega, each hour within⟩

theorem twoDigits_minute {minute : Nat} (within : minute < 60) :
    Directive.minute.TwoDigits minute := by
  have each : ∀ minute < 60, (Directive.minute.matches .asciiOnly
      (zeroPadded 2 minute)).head? = some (zeroPadded 2 minute, []) := by decide
  exact ⟨by decide, by omega, each minute within⟩

theorem twoDigits_second {second : Nat} (within : second < 60) :
    Directive.second.TwoDigits second := by
  have each : ∀ second < 60, (Directive.second.matches .asciiOnly
      (zeroPadded 2 second)).head? = some (zeroPadded 2 second, []) := by decide
  exact ⟨by decide, by omega, each second within⟩

theorem year_head?_matches {year : Nat} (fits : year ≤ 9999) (rest : Text) :
    (Directive.year.matches chars (zeroPadded 4 year ++ rest)).head? =
      some (zeroPadded 4 year, rest) := by
  have length : (zeroPadded 4 year).length = 4 := length_zeroPadded (by decide) (by omega)
  have numeric : ∀ char ∈ zeroPadded 4 year, char.isDigit = true :=
    fun _ => isDigit_zeroPadded
  generalize zeroPadded 4 year = text at length numeric
  obtain ⟨first, second, third, fourth, rfl⟩ := List.length_eq_four.mp length
  have digits : ∀ char ∈ [first, second, third, fourth],
      (chars.digit char).isSome = true := by
    intro char listed
    rw [chars.digit_of_isDigit (numeric char listed)]
    rfl
  simp only [List.mem_cons, List.not_mem_nil, or_false, forall_eq_or_imp, forall_eq] at digits
  simp [Directive.matches, Directive.pattern, matchClasses, CharacterClass.accepts, digits]

theorem number_zeroPadded (width value : Nat) : number chars (zeroPadded width value) = value := by
  have numeric : ∀ char ∈ zeroPadded width value, char.isDigit = true :=
    fun _ => isDigit_zeroPadded
  have read := ofDigitChars_zeroPadded width value
  generalize zeroPadded width value = text at numeric read
  have folded : ∀ start, text.foldl (fun number char =>
      10 * number + (chars.digit char).getD 0) start = Nat.ofDigitChars 10 text start := by
    clear read
    induction text with
    | nil => exact fun _ => rfl
    | cons char rest ih =>
      intro start
      rw [List.foldl_cons, Nat.ofDigitChars_cons,
        chars.digit_of_isDigit (numeric char List.mem_cons_self), Option.getD_some]
      exact ih (fun other listed => numeric other (List.mem_cons_of_mem _ listed)) _
  rw [number, folded, read]

variable {chars} {tokens : List Token} {text middle rest : Text}
  {fields : List (Directive × Text)}

/-- The first match of the first directive is kept where the rest of the format matches. -/
theorem head?_formatMatches_directive {directive : Directive} {found : Text}
    (first : (directive.matches chars text).head? = some (found, middle))
    (others : (formatMatches chars tokens middle).head? = some (fields, rest)) :
    (formatMatches chars (.directive directive :: tokens) text).head? =
      some ((directive, found) :: fields, rest) := by
  obtain ⟨alternatives, listed⟩ := List.head?_eq_some_iff.mp first
  rw [formatMatches, listed, List.flatMap_cons, List.head?_append, List.head?_map, others]
  rfl

theorem head?_formatMatches_literal {char : Char}
    (others : (formatMatches chars tokens text).head? = some (fields, rest)) :
    (formatMatches chars (.literal char :: tokens) (char :: text)).head? =
      some (fields, rest) := by
  rw [formatMatches, if_pos (chars.matchesLiteral_self char), others]

def isoTokens : List Token :=
  [.directive .year, .literal '-', .directive .month, .literal '-', .directive .day,
    .literal 'T', .directive .hour, .literal ':', .directive .minute, .literal ':',
    .directive .second]

variable (chars)

theorem tokens_iso :
    PythonTime.tokens chars ['%', 'Y', '-', '%', 'm', '-', '%', 'd', 'T', '%', 'H', ':', '%',
      'M', ':', '%', 'S'] = some isoTokens := by
  have dash : chars.isSpace '-' = false := chars.isSpace_ascii '-' (by decide)
  have letter : chars.isSpace 'T' = false := chars.isSpace_ascii 'T' (by decide)
  have colon : chars.isSpace ':' = false := chars.isSpace_ascii ':' (by decide)
  simp [PythonTime.tokens, Directive.ofLetter, dash, letter, colon, isoTokens]

theorem head?_formatMatches_isoText {date : Gregorian.Date} (valid : date.Valid)
    (fits : date.year ≤ 9999) {time : Nat} (within : time < 86400) :
    (formatMatches chars isoTokens (isoText date time)).head? =
      some ([(.year, zeroPadded 4 date.year), (.month, zeroPadded 2 date.month),
        (.day, zeroPadded 2 date.day), (.hour, zeroPadded 2 (time / 3600)),
        (.minute, zeroPadded 2 (time / 60 % 60)), (.second, zeroPadded 2 (time % 60))], []) := by
  obtain ⟨-, ⟨leastMonth, greatestMonth⟩, leastDay, greatestDay⟩ := valid
  have month := twoDigits_month leastMonth greatestMonth
  have day := twoDigits_day leastDay (greatestDay.trans (Gregorian.daysInMonth_le _ _))
  have hour := twoDigits_hour (show time / 3600 < 24 by omega)
  have minute := twoDigits_minute (show time / 60 % 60 < 60 by omega)
  have second := (twoDigits_second (show time % 60 < 60 by omega)).head?_matches chars []
  rw [List.append_nil] at second
  apply head?_formatMatches_directive (year_head?_matches chars fits _)
  apply head?_formatMatches_literal
  apply head?_formatMatches_directive (month.head?_matches chars _)
  apply head?_formatMatches_literal
  apply head?_formatMatches_directive (day.head?_matches chars _)
  apply head?_formatMatches_literal
  apply head?_formatMatches_directive (hour.head?_matches chars _)
  apply head?_formatMatches_literal
  apply head?_formatMatches_directive (minute.head?_matches chars _)
  apply head?_formatMatches_literal
  exact head?_formatMatches_directive second rfl

theorem civilDate_spec {reading : Int} (supported : Supported reading) :
    (civilDate reading).Valid ∧ (civilDate reading).year ≤ 9999 ∧
      ((civilDate reading).ordinal : Int) = ordinal reading := by
  have bounds : 1 ≤ ordinal reading ∧ ordinal reading ≤ 3652059 := supported
  obtain ⟨valid, same⟩ := @Gregorian.ofOrdinal_spec (ordinal reading).toNat (by omega)
  have last : (civilDate reading).ordinal ≤ 3652059 := by
    rw [civilDate, same]
    omega
  refine ⟨valid, Gregorian.year_le_of_ordinal_le valid last, ?_⟩
  rw [civilDate, same]
  omega

theorem ofFields_eq_some {date : Gregorian.Date} {hour minute second : Nat} {reading : Int}
    (year : fieldNumber chars fields .year 1900 = date.year)
    (month : fieldNumber chars fields .month 1 = date.month)
    (day : fieldNumber chars fields .day 1 = date.day)
    (hours : fieldNumber chars fields .hour 0 = hour)
    (minutes : fieldNumber chars fields .minute 0 = minute)
    (seconds : fieldNumber chars fields .second 0 = second)
    (microsecond : fieldMicrosecond chars fields = 0)
    (valid : date.Valid ∧ hour < 24 ∧ minute < 60 ∧ second < 60)
    (whole : (date.ordinal - epochOrdinal) * secondsInDay +
      (hour * 3600 + minute * 60 + second : Nat) = reading) (supported : Supported reading) :
    ofFields chars fields = some ⟨reading, 0, supported, by decide⟩ := by
  subst whole
  unfold ofFields
  simp only [year, month, day, hours, minutes, seconds, microsecond]
  rw [dif_pos ⟨valid, supported, by decide⟩]

/-- `strptime` is the inverse of `isoformat`. -/
theorem strptimeNumeric_localText {reading : Int} (supported : Supported reading) :
    strptimeNumeric chars isoTokens (localText reading) =
      some ⟨reading, 0, supported, by decide⟩ := by
  obtain ⟨valid, fits, same⟩ := civilDate_spec supported
  have within : timeOfDay reading < 86400 := by
    simp only [timeOfDay, secondsInDay]
    omega
  have whole : ((civilDate reading).ordinal - epochOrdinal) * secondsInDay +
      (timeOfDay reading / 3600 * 3600 + timeOfDay reading / 60 % 60 * 60 +
        timeOfDay reading % 60 : Nat) = reading := by
    rw [same]
    simp only [ordinal, timeOfDay, epochOrdinal, secondsInDay]
    omega
  have time : timeOfDay reading / 3600 < 24 ∧ timeOfDay reading / 60 % 60 < 60 ∧
      timeOfDay reading % 60 < 60 := by omega
  rw [strptimeNumeric, localText, head?_formatMatches_isoText chars valid fits within]
  refine @ofFields_eq_some chars _ (civilDate reading) _ _ _ reading ?_ ?_ ?_ ?_ ?_ ?_ rfl
    ⟨valid, time⟩ whole supported
  · exact number_zeroPadded chars 4 _
  all_goals exact number_zeroPadded chars 2 _

end Matched

/-- The timestamp of whole seconds is exact. -/
theorem truncate_utcTimestamp {parsed : Parsed} (whole : parsed.microsecond = 0) :
    truncate parsed.utcTimestamp = parsed.reading := by
  have bounds := supported_bounds parsed.supported
  have fits : parsed.reading.natAbs < 2 ^ 53 := by omega
  have exact_ : ((parsed.reading * 1000000 + (0 : Nat) : Int) : Rat) / 1000000 =
      (parsed.reading : Rat) := by
    push_cast
    rw [add_zero, mul_div_cancel_right₀ _ (by decide)]
  rw [Parsed.utcTimestamp, whole, exact_, float_intCast fits, truncate, Rat.num_intCast,
    Rat.den_intCast]
  exact Int.tdiv_one _

end TypeDBDriver.Library.PythonTime
