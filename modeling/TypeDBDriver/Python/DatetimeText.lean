import TypeDBDriver.Library.PythonStrptime
import TypeDBDriver.Python.DatetimeProperties

/-! The texts of the Python driver's `Datetime`: `isoformat`, `utcfromstring` and `fromstring`. -/

namespace TypeDBDriver.Python

open Library
open PythonTime (PythonException ZoneInfo TzInfo Supported Parsed PatternCharacters Distinct isoText
  localText number_zeroPadded offsetText secondsInDay strptimeNumeric truncate)
open List (replicate)

/-- What the driver takes from the standard library to read texts. The numeric formats of
`strptime` are pinned down, and `int` for texts of nine digits. -/
structure StandardLibrary where
  chars : PatternCharacters
  strptime : Text → Text → Except PythonException Parsed
  strptime_accepts : ∀ text format tokens parsed,
    PythonTime.tokens chars format = some tokens → Distinct tokens →
      strptimeNumeric chars tokens text = some parsed →
        strptime text format = .ok parsed
  strptime_rejects : ∀ text format tokens,
    PythonTime.tokens chars format = some tokens → Distinct tokens →
      strptimeNumeric chars tokens text = none →
        ∃ message, strptime text format = .error (.valueError message)
  int : Text → Except PythonException Int
  int_digits : ∀ text : Text, text.length = 9 →
    (∀ char ∈ text, (chars.digit char).isSome = true) →
      int text = .ok (PythonTime.number chars text)

/-- The numeric formats alone, with the characters of ASCII. -/
def StandardLibrary.numericOnly : StandardLibrary where
  chars := .asciiOnly
  strptime text format :=
    match PythonTime.tokens .asciiOnly format with
    | some tokens =>
      match strptimeNumeric .asciiOnly tokens text with
      | some parsed => .ok parsed
      | none => .error (.valueError "time data does not match format")
    | none => .error (.valueError "bad directive in format")
  strptime_accepts text format tokens parsed known _ found := by simp only [known, found]
  strptime_rejects text format tokens known _ missed := by
    simp only [known, missed]
    exact ⟨_, rfl⟩
  int text := .ok (PythonTime.number .asciiOnly text)
  int_digits _ _ _ := rfl

namespace Datetime

def nanosDigits : Nat := 9

def isoTzLen : Nat := 6

def isoformat (datetime : Datetime) : Except PythonException Text :=
  datetime.datetimeOfSeconds.isoformat.map fun datetimePart =>
    let nanos := zeroPadded nanosDigits datetime.nanos.toNat
    if datetime.tzName.isSome ∨ datetime.offsetSeconds.isSome then
      let cut := datetimePart.length - isoTzLen
      datetimePart.take cut ++ '.' :: (nanos ++ datetimePart.drop cut)
    else datetimePart ++ '.' :: nanos

/-- The text before the dot and the text after it. -/
def datetimeAndSubsecParts (datetimeStr : Text) : Except PythonException (Text × Text) :=
  if '.' ∈ datetimeStr then
    match datetimeStr.splitOn '.' with
    | [datetimePart, subsecPart] => .ok (datetimePart, subsecPart)
    | _ => .error (.valueError "too many values to unpack (expected 2)")
  else .ok (datetimeStr, ['0'])

def defaultFmt : Text :=
  ['%', 'Y', '-', '%', 'm', '-', '%', 'd', 'T', '%', 'H', ':', '%', 'M', ':', '%', 'S']

section

variable (library : StandardLibrary) (zones : String → Option ZoneInfo)

def secondsAndNanosFromString (datetimeStr datetimeFmt : Text) :
    Except PythonException (Int × Int) := do
  let (datetimePart, subsecPart) ← datetimeAndSubsecParts datetimeStr
  let parsed ← library.strptime datetimePart datetimeFmt
  let seconds := truncate parsed.utcTimestamp
  let nanos ← library.int ((subsecPart ++ replicate nanosDigits '0').take nanosDigits)
  .ok (seconds, nanos)

def utcfromstring (datetimeStr : Text) (tzName : Option String) (offsetSeconds : Option Int)
    (datetimeFmt : Text) : Except PythonException Datetime := do
  let (seconds, nanos) ← secondsAndNanosFromString library datetimeStr datetimeFmt
  utcfromtimestamp zones seconds nanos tzName offsetSeconds

end

end Datetime

variable {zones : String → Option ZoneInfo} {timestampSeconds subsecNanos : Int}
  {tzName : Option String} {offsetSeconds : Option Int} {tzAdjustTimestamp : Bool}
  {datetime : Datetime}

variable {timezoneInfo : Option TzInfo}

theorem timezoneInfo_isSome
    (found : Datetime.timezoneInfo zones tzName offsetSeconds = .ok timezoneInfo) :
    timezoneInfo.isSome = true ↔ tzName.isSome ∨ offsetSeconds.isSome := by
  cases offsetSeconds with
  | some offset =>
    obtain ⟨tz, -, rfl⟩ := PythonTime.map_eq_ok_iff.mp found
    simp
  | none =>
    cases tzName with
    | none =>
      cases found
      simp
    | some name =>
      obtain ⟨tz, -, rfl⟩ := PythonTime.map_eq_ok_iff.mp found
      simp

theorem ofSeconds_tzinfo {held : PythonTime.Datetime}
    (made : Datetime.ofSeconds timestampSeconds timezoneInfo tzAdjustTimestamp = .ok held) :
    held.tzinfo = timezoneInfo := by
  cases timezoneInfo with
  | none =>
    simp only [Datetime.ofSeconds, PythonTime.Datetime.utcfromtimestamp] at made
    split at made <;> cases made
    rfl
  | some tz =>
    cases tzAdjustTimestamp with
    | true => exact (PythonTime.Datetime.fromtimestamp_inversion made).1
    | false =>
      obtain ⟨utc, -, rfl⟩ := PythonTime.map_eq_ok_iff.mp made
      rfl

theorem init_tzinfo_isSome
    (made : Datetime.init zones timestampSeconds subsecNanos tzName offsetSeconds
      tzAdjustTimestamp = .ok datetime) :
    datetime.datetimeOfSeconds.tzinfo.isSome = true ↔
      datetime.tzName.isSome ∨ datetime.offsetSeconds.isSome := by
  unfold Datetime.init at made
  split at made
  · split at made
    · cases made
    · obtain ⟨timezoneInfo, found, made⟩ := PythonTime.bind_eq_ok_iff.mp made
      obtain ⟨held, holds, made⟩ := PythonTime.bind_eq_ok_iff.mp made
      cases made
      rw [ofSeconds_tzinfo holds]
      exact timezoneInfo_isSome found
  · cases made

variable {offset : Int}

theorem length_offsetText
    (within : -secondsInDay < offset ∧ offset < secondsInDay)
    (minutes : offset % 60 = 0) : (offsetText offset).length = Datetime.isoTzLen := by
  have bounds : -86400 < offset ∧ offset < 86400 := within
  have hours : offset.natAbs / 3600 < 10 ^ 2 := by omega
  have whole : offset.natAbs % 60 = 0 := by omega
  have rest : offset.natAbs / 60 % 60 < 10 ^ 2 := by omega
  simp [offsetText, whole, length_zeroPadded (by decide : 0 < 2) hours,
    length_zeroPadded (by decide : 0 < 2) rest, Datetime.isoTzLen]

/-- An offset with seconds is longer than the part that is cut off. -/
theorem length_offsetText_of_seconds
    (within : -secondsInDay < offset ∧ offset < secondsInDay) (seconds : offset % 60 ≠ 0) :
    (offsetText offset).length = Datetime.isoTzLen + 3 := by
  have bounds : -86400 < offset ∧ offset < 86400 := within
  have hours : offset.natAbs / 3600 < 10 ^ 2 := by omega
  have uneven : offset.natAbs % 60 ≠ 0 := by omega
  have rest : offset.natAbs / 60 % 60 < 10 ^ 2 := by omega
  have last : offset.natAbs % 60 < 10 ^ 2 := by omega
  simp [offsetText, uneven, length_zeroPadded (by decide : 0 < 2) hours,
    length_zeroPadded (by decide : 0 < 2) rest, length_zeroPadded (by decide : 0 < 2) last,
    Datetime.isoTzLen]

theorem head?_offsetText (offset : Int) : (offsetText offset).head? ≠ some '.' := by
  simp only [offsetText, List.head?_cons]
  split <;> decide

theorem nanosText_spec (datetime : Datetime) :
    (zeroPadded Datetime.nanosDigits datetime.nanos.toNat).length = 9 ∧
      (∀ char ∈ zeroPadded Datetime.nanosDigits datetime.nanos.toNat,
        char.isDigit = true) ∧
      (Nat.ofDigitChars 10 (zeroPadded Datetime.nanosDigits datetime.nanos.toNat) 0 : Int) =
        datetime.nanos := by
  have bounds : 0 ≤ datetime.nanos ∧ datetime.nanos < 1000000000 := datetime.nanos_valid
  have fits : datetime.nanos.toNat < 10 ^ 9 := by omega
  refine ⟨length_zeroPadded (by decide) fits, fun _ => isDigit_zeroPadded, ?_⟩
  rw [ofDigitChars_zeroPadded]
  omega

theorem isoformat_naive (naive : datetime.datetimeOfSeconds.tzinfo = none)
    (unnamed : ¬ (datetime.tzName.isSome ∨ datetime.offsetSeconds.isSome)) :
    datetime.isoformat = .ok (localText datetime.datetimeOfSeconds.reading ++
      '.' :: zeroPadded Datetime.nanosDigits datetime.nanos.toNat) := by
  rw [Datetime.isoformat, PythonTime.Datetime.isoformat, naive]
  exact congrArg Except.ok (if_neg unnamed)

/-- Where the text with an offset is cut, by how much longer the offset is than the part that is
cut off. -/
theorem isoformat_zoned {shown : Text} {excess : Nat}
    (printed : datetime.datetimeOfSeconds.isoformat = .ok (shown ++ offsetText offset))
    (named : datetime.tzName.isSome ∨ datetime.offsetSeconds.isSome)
    (length : (offsetText offset).length = Datetime.isoTzLen + excess) :
    datetime.isoformat = .ok (shown ++ ((offsetText offset).take excess ++
      '.' :: (zeroPadded Datetime.nanosDigits datetime.nanos.toNat ++
        (offsetText offset).drop excess))) := by
  have cut : (shown ++ offsetText offset).length - Datetime.isoTzLen =
      shown.length + excess := by
    rw [List.length_append, length]
    omega
  rw [Datetime.isoformat, printed]
  refine congrArg Except.ok ((if_pos named).trans ?_)
  rw [cut]
  dsimp only
  rw [List.take_length_add_append, List.drop_length_add_append, List.append_assoc]

/-- The text is that of the whole seconds with nine digits of nanoseconds put before the offset,
exactly if the offset is one that the standard library prints at all and has no seconds. -/
theorem isoformat_wellFormed_iff (zones : String → Option ZoneInfo)
    (timestampSeconds subsecNanos : Int) (tzName : Option String) (offsetSeconds : Option Int)
    (tzAdjustTimestamp : Bool) (datetime : Datetime)
    (made : Datetime.init zones timestampSeconds subsecNanos tzName offsetSeconds
      tzAdjustTimestamp = .ok datetime) :
    (∃ nanos offset : Text,
      (nanos.length = 9 ∧ (∀ char ∈ nanos, char.isDigit = true) ∧
        (Nat.ofDigitChars 10 nanos 0 : Int) = datetime.nanos) ∧
      datetime.datetimeOfSeconds.isoformat =
        .ok (localText datetime.datetimeOfSeconds.reading ++ offset) ∧
      (datetime.datetimeOfSeconds.tzinfo = none → offset = []) ∧
      datetime.isoformat = .ok (localText datetime.datetimeOfSeconds.reading ++
        '.' :: (nanos ++ offset))) ↔
    ∀ tz, datetime.datetimeOfSeconds.tzinfo = some tz →
      (-86400 < tz.utcoffset datetime.datetimeOfSeconds.reading datetime.datetimeOfSeconds.fold ∧
        tz.utcoffset datetime.datetimeOfSeconds.reading datetime.datetimeOfSeconds.fold < 86400) ∧
      tz.utcoffset datetime.datetimeOfSeconds.reading datetime.datetimeOfSeconds.fold % 60 = 0 := by
  have named := init_tzinfo_isSome made
  have digits := nanosText_spec datetime
  cases zoned : datetime.datetimeOfSeconds.tzinfo with
  | none =>
    have unnamed : ¬ (datetime.tzName.isSome ∨ datetime.offsetSeconds.isSome) := by
      rw [← named, zoned]
      decide
    have printed : datetime.datetimeOfSeconds.isoformat =
        .ok (localText datetime.datetimeOfSeconds.reading ++ []) := by
      rw [PythonTime.Datetime.isoformat, zoned, List.append_nil]
    have text := isoformat_naive zoned unnamed
    rw [← List.append_nil (zeroPadded _ _)] at text
    exact iff_of_true ⟨_, [], digits, printed, fun _ => rfl, text⟩ (fun _ same => by cases same)
  | some tz =>
    have named := named.mp (by rw [zoned]; rfl)
    generalize shifted : tz.utcoffset datetime.datetimeOfSeconds.reading
      datetime.datetimeOfSeconds.fold = offset
    have library : datetime.datetimeOfSeconds.isoformat =
        if -secondsInDay < offset ∧ offset < secondsInDay then
          .ok (localText datetime.datetimeOfSeconds.reading ++
            offsetText offset)
        else .error .offsetOutOfRange := by
      rw [PythonTime.Datetime.isoformat, zoned, ← shifted]
    have condition : (∀ other, some tz = some other →
        (-86400 < other.utcoffset datetime.datetimeOfSeconds.reading
            datetime.datetimeOfSeconds.fold ∧
          other.utcoffset datetime.datetimeOfSeconds.reading
            datetime.datetimeOfSeconds.fold < 86400) ∧
        other.utcoffset datetime.datetimeOfSeconds.reading
          datetime.datetimeOfSeconds.fold % 60 = 0) ↔
        (-secondsInDay < offset ∧ offset < secondsInDay) ∧
          offset % 60 = 0 := by
      simp only [Option.some.injEq, forall_eq', shifted, secondsInDay]
    rw [condition]
    split at library
    · next within =>
        rw [and_iff_right within]
        constructor
        · intro wellFormed
          obtain ⟨nanos, other, -, whole, -, text⟩ := wellFormed
          by_contra seconds
          have length := length_offsetText_of_seconds within seconds
          rw [isoformat_zoned library named length] at text
          have same := List.append_cancel_left (Except.ok.inj text)
          have first := congrArg List.head? same
          rw [List.head?_append, List.head?_take] at first
          cases begins : (offsetText offset).head? with
          | none =>
            rw [List.head?_eq_none_iff] at begins
            rw [begins] at length
            cases length
          | some sign =>
            rw [begins] at first
            exact head?_offsetText offset (begins.trans first)
        · intro minutes
          have length := length_offsetText within minutes
          have text := @isoformat_zoned _ _ _ 0 library named length
          exact ⟨_, _, digits, library, (fun same => by cases same), text⟩
    · next outside =>
        refine iff_of_false ?_ fun both => outside both.1
        intro wellFormed
        obtain ⟨nanos, other, -, whole, -⟩ := wellFormed
        rw [library] at whole
        cases whole

/-- An hour, two minutes and three seconds ahead of UTC. -/
theorem isoformat_splits_offset :
    ∃ datetime, Datetime.init (fun _ => none) 0 0 none (some 3723) false = .ok datetime ∧
      datetime.datetimeOfSeconds.isoformat = .ok "1970-01-01T00:00:00+01:02:03".toList ∧
      datetime.isoformat = .ok "1970-01-01T00:00:00+01.000000000:02:03".toList := by
  exact ⟨_, rfl, by decide, by decide⟩

/-- An hour and two minutes behind UTC. -/
theorem isoformat_wellFormed_iff_minutes :
    ∃ datetime, Datetime.init (fun _ => none) 0 5 none (some (-3720)) false = .ok datetime ∧
      datetime.isoformat = .ok "1970-01-01T00:00:00.000000005-01:02".toList ∧
      ∃ nanos offset : Text,
        (nanos.length = 9 ∧ (∀ char ∈ nanos, char.isDigit = true) ∧
          (Nat.ofDigitChars 10 nanos 0 : Int) = datetime.nanos) ∧
        datetime.datetimeOfSeconds.isoformat =
          .ok (localText datetime.datetimeOfSeconds.reading ++ offset) ∧
        (datetime.datetimeOfSeconds.tzinfo = none → offset = []) ∧
        datetime.isoformat = .ok (localText datetime.datetimeOfSeconds.reading ++
          '.' :: (nanos ++ offset)) := by
  refine ⟨_, rfl, by decide, ?_⟩
  refine (isoformat_wellFormed_iff (fun _ => none) 0 5 none (some (-3720)) false _ rfl).mpr ?_
  intro tz zoned
  cases zoned
  decide

section Parts

variable {text fraction : Text}

theorem parts_of_no_dot (dotless : '.' ∉ text) :
    Datetime.datetimeAndSubsecParts text = .ok (text, ['0']) := if_neg dotless

theorem splitOn_of_no_dot (dotless : '.' ∉ text) : text.splitOn '.' = [text] := by
  apply List.splitOnP_eq_singleton
  intro char listed
  rw [beq_eq_false_iff_ne]
  exact fun same => dotless (same ▸ listed)

theorem splitOn_append_dot (before after : Text) :
    (before ++ '.' :: after).splitOn '.' = before.splitOn '.' ++ after.splitOn '.' :=
  List.splitOnP_append_cons before after (beq_self_eq_true '.')

theorem parts_append (dotless : '.' ∉ text) (fractionDotless : '.' ∉ fraction) :
    Datetime.datetimeAndSubsecParts (text ++ '.' :: fraction) = .ok (text, fraction) := by
  have dot : '.' ∈ text ++ '.' :: fraction := by simp
  rw [Datetime.datetimeAndSubsecParts, if_pos dot, splitOn_append_dot, splitOn_of_no_dot dotless,
    splitOn_of_no_dot fractionDotless]
  rfl

/-- A text that has dots of its own is cut into too many parts by one more. -/
theorem parts_of_dots (dot : '.' ∈ text) :
    Datetime.datetimeAndSubsecParts (text ++ '.' :: fraction) =
      .error (.valueError "too many values to unpack (expected 2)") := by
  obtain ⟨before, after, rfl⟩ := List.append_of_mem dot
  obtain ⟨first, others, firstSplit⟩ := List.exists_cons_of_ne_nil
    (List.splitOn_ne_nil '.' before)
  obtain ⟨second, more, secondSplit⟩ := List.exists_cons_of_ne_nil
    (List.splitOn_ne_nil '.' after)
  obtain ⟨third, last, thirdSplit⟩ := List.exists_cons_of_ne_nil
    (List.splitOn_ne_nil '.' fraction)
  have present : '.' ∈ before ++ '.' :: after ++ '.' :: fraction := by simp
  have long : (first :: others ++ second :: more ++ third :: last).length ≠ 2 := by
    simp
    omega
  rw [Datetime.datetimeAndSubsecParts, if_pos present, splitOn_append_dot, splitOn_append_dot,
    firstSplit, secondSplit, thirdSplit]
  split
  · next parts =>
      rw [parts] at long
      exact absurd rfl long
  · rfl

end Parts

section Reading

variable (library : StandardLibrary)

theorem number_lt (text : Text) : PythonTime.number library.chars text < 10 ^ text.length := by
  have folded : ∀ start, text.foldl (fun number char =>
      10 * number + (library.chars.digit char).getD 0) start <
        (start + 1) * 10 ^ text.length := by
    induction text with
    | nil => intro start; simp
    | cons char rest ih =>
      intro start
      have digit : (library.chars.digit char).getD 0 < 10 := by
        cases read : library.chars.digit char with
        | none => decide
        | some value => exact library.chars.digit_lt char value read
      rw [List.foldl_cons, List.length_cons, Nat.pow_succ']
      refine Nat.lt_of_lt_of_le (ih _) ?_
      rw [← Nat.mul_assoc]
      exact Nat.mul_le_mul_right _ (by omega)
  simpa [PythonTime.number] using folded 0

theorem int_padded {fraction : Text}
    (numeric : ∀ char ∈ fraction, (library.chars.digit char).isSome = true) :
    library.int ((fraction ++ replicate Datetime.nanosDigits '0').take Datetime.nanosDigits) =
        .ok (PythonTime.number library.chars
          ((fraction ++ replicate 9 '0').take 9)) ∧
      PythonTime.number library.chars ((fraction ++ replicate 9 '0').take 9) <
        10 ^ 9 := by
  have length : ((fraction ++ replicate 9 '0').take 9).length = 9 := by simp
  have zero : (library.chars.digit '0').isSome = true := by
    rw [library.chars.digit_of_isDigit (by decide)]
    rfl
  constructor
  · apply library.int_digits _ length
    intro char listed
    rcases List.mem_append.mp (List.mem_of_mem_take listed) with given | padding
    · exact numeric char given
    · rw [(List.mem_replicate.mp padding).2]
      exact zero
  · have bound := number_lt library ((fraction ++ replicate 9 '0').take 9)
    rwa [length] at bound

theorem ok_bind {α β : Type} (value : α) (next : α → Except PythonException β) :
    (Except.ok value >>= next) = next value := rfl

/-- What is made of a text whose parts and whole seconds are known. -/
theorem utcfromstring_eq_ok_iff {text datetimePart subsecPart format : Text} {parsed : Parsed}
    {result : Datetime}
    (parts : Datetime.datetimeAndSubsecParts text = .ok (datetimePart, subsecPart))
    (accepted : library.strptime datetimePart format = .ok parsed)
    (numeric : ∀ char ∈ subsecPart, (library.chars.digit char).isSome = true) :
    Datetime.utcfromstring library zones text none none format = .ok result ↔
      ∃ (supported : Supported (truncate parsed.utcTimestamp))
        (valid : 0 ≤ (PythonTime.number library.chars
            ((subsecPart ++ replicate 9 '0').take 9) : Int) ∧
          (PythonTime.number library.chars
            ((subsecPart ++ replicate 9 '0').take 9) : Int) < nanosInSecond),
        result = ⟨none, none, ⟨truncate parsed.utcTimestamp, false, none, supported⟩,
          PythonTime.number library.chars ((subsecPart ++ replicate 9 '0').take 9),
          valid⟩ := by
  have read : Datetime.secondsAndNanosFromString library text format =
      .ok (truncate parsed.utcTimestamp, PythonTime.number library.chars
        ((subsecPart ++ replicate 9 '0').take 9)) := by
    rw [Datetime.secondsAndNanosFromString, parts, ok_bind]
    dsimp only
    rw [accepted, ok_bind, (int_padded library numeric).1, ok_bind]
  rw [Datetime.utcfromstring, read, ok_bind]
  exact utcfromtimestamp_eq_ok_iff

end Reading

section Documented

variable {library : StandardLibrary}

theorem digit_dot (library : StandardLibrary) : library.chars.digit '.' = none :=
  library.chars.digit_ascii '.' (by decide)

theorem zero_numeric (library : StandardLibrary) :
    ∀ char ∈ ['0'], (library.chars.digit char).isSome = true := by
  intro char listed
  rw [List.mem_singleton.mp listed, library.chars.digit_of_isDigit (by decide)]
  rfl

variable {fraction : Text}

theorem dotless_of_numeric
    (numeric : ∀ char ∈ fraction, (library.chars.digit char).isSome = true) : '.' ∉ fraction := by
  intro dot
  have digit := numeric '.' dot
  rw [digit_dot] at digit
  cases digit

/-- A fraction that consists of zeros. -/
theorem number_zeros (library : StandardLibrary) :
    PythonTime.number library.chars ((['0'] ++ replicate 9 '0').take 9) = 0 :=
  number_zeroPadded library.chars 9 0

variable {text format : Text}

theorem utcfromstring_of_dots {result : Datetime} (dot : '.' ∈ text) :
    Datetime.utcfromstring library zones (text ++ '.' :: fraction) none none
      format ≠ .ok result := by
  intro read
  rw [Datetime.utcfromstring, Datetime.secondsAndNanosFromString, parts_of_dots dot] at read
  cases read

/-- The result for a text that is accepted has its seconds and the nanoseconds of the fraction
exactly if the whole seconds of the timestamp are the seconds of the text. -/
theorem utcfromstring_yields_iff {datetimePart subsecPart : Text} {parsed : Parsed}
    (parts : Datetime.datetimeAndSubsecParts text = .ok (datetimePart, subsecPart))
    (accepted : library.strptime datetimePart format = .ok parsed)
    (numeric : ∀ char ∈ subsecPart, (library.chars.digit char).isSome = true) :
    (∃ datetime, Datetime.utcfromstring library zones text none none format = .ok datetime ∧
      datetime.datetimeOfSeconds.tzinfo = none ∧
      datetime.datetimeOfSeconds.reading = parsed.reading ∧
      datetime.nanos = PythonTime.number library.chars
        ((subsecPart ++ replicate 9 '0').take 9)) ↔
      truncate parsed.utcTimestamp = parsed.reading := by
  constructor
  · intro yields
    obtain ⟨datetime, read, -, reading, -⟩ := yields
    obtain ⟨_, _, rfl⟩ := (utcfromstring_eq_ok_iff library parts accepted numeric).mp read
    exact reading
  · intro whole
    have supported : Supported (truncate parsed.utcTimestamp) := by
      rw [whole]
      exact parsed.supported
    have bound := (int_padded library numeric).2
    have read := (@utcfromstring_eq_ok_iff zones library _ _ _ _ _ _ parts accepted numeric).mpr
      ⟨supported, ⟨Int.natCast_nonneg _, Int.ofNat_lt.mpr bound⟩, rfl⟩
    exact ⟨_, read, rfl, whole, rfl⟩

theorem dotless_localText (reading : Int) : '.' ∉ localText reading := by
  intro dot
  have digits : ∀ {width number : Nat}, '.' ∉ zeroPadded width number := by
    intro width number listed
    exact absurd (isDigit_zeroPadded listed) (by decide)
  simp [localText, isoText, digits] at dot

/-- The driver reads back what it prints of a datetime without a zone. -/
theorem utcfromstring_isoformat
    (made : Datetime.init zones timestampSeconds subsecNanos none none tzAdjustTimestamp =
      .ok datetime) :
    ∃ text result, datetime.isoformat = .ok text ∧
      Datetime.utcfromstring library zones text none none Datetime.defaultFmt = .ok result ∧
      result.eq datetime = true := by
  have made : Datetime.utcfromtimestamp zones timestampSeconds subsecNanos none none =
      .ok datetime := made
  obtain ⟨supported, valid, rfl⟩ := utcfromtimestamp_eq_ok_iff.mp made
  have printed := @isoformat_naive ⟨none, none, ⟨timestampSeconds, false, none, supported⟩,
    subsecNanos, valid⟩ rfl (by simp)
  obtain ⟨length, decimal, value⟩ := nanosText_spec ⟨none, none,
    ⟨timestampSeconds, false, none, supported⟩, subsecNanos, valid⟩
  dsimp only at printed length decimal value
  have numeric : ∀ char ∈ zeroPadded Datetime.nanosDigits subsecNanos.toNat,
      (library.chars.digit char).isSome = true := by
    intro char listed
    rw [library.chars.digit_of_isDigit (decimal char listed)]
    rfl
  have parts := parts_append (dotless_localText timestampSeconds) (dotless_of_numeric numeric)
  have accepted := library.strptime_accepts _ Datetime.defaultFmt _ _
    (PythonTime.tokens_iso library.chars) (by decide)
    (PythonTime.strptimeNumeric_localText library.chars supported)
  obtain ⟨result, read, naive, reading, nanos⟩ := (@utcfromstring_yields_iff zones library _ _ _ _ _
    parts accepted numeric).mpr (PythonTime.truncate_utcTimestamp rfl)
  refine ⟨_, result, printed, read, ?_⟩
  have padded : (zeroPadded Datetime.nanosDigits subsecNanos.toNat ++ replicate 9 '0').take 9 =
      zeroPadded Datetime.nanosDigits subsecNanos.toNat := List.take_left' length
  have kept : result.nanos = subsecNanos := by
    have bounds := valid.1
    rw [nanos, padded, number_zeroPadded]
    omega
  rw [Datetime.eq, PythonTime.Datetime.eq, naive]
  simp [reading, kept]

end Documented

/-- A text that a format accepts yields its seconds, with and without a fraction, exactly if it has
no dot of its own and its whole seconds are those of its timestamp, which is a float truncated
towards zero. A printed datetime without a zone is always read back. -/
theorem utcfromstring_documented_iff (library : StandardLibrary)
    (zones : String → Option ZoneInfo) :
    (∀ (format text : Text) (parsed : Parsed), library.strptime text format = .ok parsed →
      (((∃ datetime, Datetime.utcfromstring library zones text none none format = .ok datetime ∧
            datetime.datetimeOfSeconds.tzinfo = none ∧
            datetime.datetimeOfSeconds.reading = parsed.reading ∧ datetime.nanos = 0) ∧
          ∀ fraction : Text, fraction ≠ [] →
            (∀ char ∈ fraction, (library.chars.digit char).isSome = true) →
            ∃ datetime, Datetime.utcfromstring library zones (text ++ '.' :: fraction) none none
                format = .ok datetime ∧
              datetime.datetimeOfSeconds.tzinfo = none ∧
              datetime.datetimeOfSeconds.reading = parsed.reading ∧
              datetime.nanos = PythonTime.number library.chars
                ((fraction ++ replicate 9 '0').take 9)) ↔
        '.' ∉ text ∧ (parsed.microsecond = 0 ∨
          truncate (PythonTime.float
            ((parsed.reading * 1000000 + parsed.microsecond : Int) / 1000000)) =
              parsed.reading))) ∧
    (∀ (timestampSeconds subsecNanos : Int) (tzAdjustTimestamp : Bool) (datetime : Datetime),
      Datetime.init zones timestampSeconds subsecNanos none none tzAdjustTimestamp = .ok datetime →
      ∃ text result, datetime.isoformat = .ok text ∧
        Datetime.utcfromstring library zones text none none Datetime.defaultFmt = .ok result ∧
        result.eq datetime = true) := by
  refine ⟨fun format text parsed accepted => ?_, fun _ _ _ _ made => utcfromstring_isoformat made⟩
  constructor
  · intro documented
    obtain ⟨whole, fractions⟩ := documented
    have dotless : '.' ∉ text := by
      intro dot
      obtain ⟨datetime, read, -⟩ := fractions ['0'] (by decide) (zero_numeric library)
      exact utcfromstring_of_dots dot read
    refine ⟨dotless, .inr ?_⟩
    refine Eq.trans (b := truncate parsed.utcTimestamp) rfl ?_
    rw [← @utcfromstring_yields_iff zones library _ _ _ _ _ (parts_of_no_dot dotless) accepted
      (zero_numeric library), number_zeros]
    exact whole
  · intro condition
    obtain ⟨dotless, seconds⟩ := condition
    have whole : truncate parsed.utcTimestamp = parsed.reading :=
      seconds.elim PythonTime.truncate_utcTimestamp id
    constructor
    · have yields := (@utcfromstring_yields_iff zones library _ _ _ _ _ (parts_of_no_dot dotless)
        accepted (zero_numeric library)).mpr whole
      rw [number_zeros] at yields
      exact yields
    · intro fraction _ numeric
      exact (utcfromstring_yields_iff (parts_append dotless (dotless_of_numeric numeric)) accepted
        numeric).mpr whole

/-- A date with dots of its own, which the format accepts. -/
theorem utcfromstring_rejects_dots :
    (∃ parsed, StandardLibrary.numericOnly.strptime "01.02.2024".toList "%d.%m.%Y".toList =
      .ok parsed ∧ parsed.reading = 1706745600) ∧
    Datetime.utcfromstring .numericOnly (fun _ => none) "01.02.2024".toList none none
      "%d.%m.%Y".toList = .error (.valueError "too many values to unpack (expected 2)") := by
  refine ⟨⟨_, rfl, by decide⟩, ?_⟩
  have parts : Datetime.datetimeAndSubsecParts "01.02.2024".toList =
      .error (.valueError "too many values to unpack (expected 2)") := by decide
  rw [Datetime.utcfromstring, Datetime.secondsAndNanosFromString, parts]
  rfl

end TypeDBDriver.Python
