import TypeDBDriver.Java.DurationProperties

/-! The Java driver reads the text of a duration: it splits the text at the `T` and leaves the
halves to the parsers of `java.time`. -/

namespace TypeDBDriver.Java

open Library Library.Regex JavaTime
open TypeDBDriver.Duration (recorded recordedSeconds recorded_of_ne timeCaptures timeComponents
  timeCaptures_fraction Holds holds_recorded holds_timeCaptures component nanosPerSec
  nanosPerMinute nanosPerHour IntegerReader Follows dateText_eq display display_of_date
  display_of_nanos follows_nil isAlpha_plain isDigit_toDigits isEmpty monthsPerYear
  not_mem_dateText recordedSeconds_of_lt timeComponents_ne_nil)
open JavaTime.Duration (nanosPerSecond ofCaptures ofNanos ofTotal pattern sectionSeconds)

theorem not_isSign {accepts : Char → Bool} {char : Char} (accepted : accepts char = true)
    (minus : accepts '-' = false) (plus : accepts '+' = false) : isSign char = false := by
  have differs : ∀ {other : Char}, accepts other = false → char ≠ other := by
    intro other rejected same
    rw [same, rejected] at accepted
    cases accepted
  simp [isSign, differs minus, differs plus]

theorem integerReader : IntegerReader Char.isDigit JavaTime.integer where
  decimal _ numeric := numeric
  letter char alpha := by
    rcases alpha with alpha | rfl
    · exact (isAlpha_plain alpha).2
    · decide
  reads text plain := by
    intro α captures further
    have unsigned : (Regex.one isSign).matchWith text captures (fun rest captures =>
        (Regex.repeated Char.isDigit 1 none).matchWith rest captures further) = none := by
      cases text with
      | nil => rfl
      | cons char rest =>
        refine matchWith_one_of_neg ?_
        by_cases numeric : char.isDigit = true
        · exact not_isSign numeric (by decide) (by decide)
        · have begins : leading Char.isDigit (char :: rest) = some char := by
            rw [leading, List.dropWhile_cons_of_neg numeric, List.head?_cons]
          rcases plain char begins with alpha | rfl
          · exact not_isSign alpha (by decide) (by decide)
          · decide
    rw [JavaTime.integer, matchWith_seq, matchWith_optional, unsigned, Option.none_or]

theorem integerValue_toDigits (number : Nat) : integerValue (Nat.toDigits 10 number) = number := by
  have digits : ∀ char ∈ Nat.toDigits 10 number, char.isDigit = true :=
    isDigit_toDigits
  unfold integerValue
  split
  · next same =>
      rw [same] at digits
      cases digits '-' List.mem_cons_self
  · next same =>
      rw [same] at digits
      cases digits '+' List.mem_cons_self
  · rw [Nat.ofDigitChars_ten_toDigits]

variable {number : Int}

theorem inRange_eq {α : Type} [FixedWidth α] (exception : JavaException)
    (least : FixedWidth.least α ≤ number) (greatest : number ≤ FixedWidth.greatest α) :
    inRange α exception number = .ok (FixedWidth.ofInt number) := by
  rw [inRange, if_pos ⟨least, greatest⟩]

variable {amount : Nat}

theorem bounds_int32 (fits : amount < 2 ^ 31) :
    FixedWidth.least Int32 ≤ amount ∧ (amount : Int) ≤ FixedWidth.greatest Int32 := by
  have least : FixedWidth.least Int32 = -2 ^ 31 := rfl
  have greatest : FixedWidth.greatest Int32 = 2 ^ 31 - 1 := rfl
  omega

theorem bounds_int64 {amount : Int} (nonnegative : 0 ≤ amount) (fits : amount < 2 ^ 63) :
    FixedWidth.least Int64 ≤ amount ∧ amount ≤ FixedWidth.greatest Int64 := by
  have least : FixedWidth.least Int64 = -2 ^ 63 := rfl
  have greatest : FixedWidth.greatest Int64 = 2 ^ 63 - 1 := rfl
  omega

theorem toInt_ofInt_of_lt (nonnegative : 0 ≤ number) (fits : number < 2 ^ 63) :
    (Int64.ofInt number).toInt = number :=
  Int64.toInt_ofInt_of_le (by omega) (by omega)

theorem inRange_bind {β : Type} {exception : JavaException} {next : Int64 → Except JavaException β}
    (nonnegative : 0 ≤ number) (fits : number < 2 ^ 63) :
    (inRange Int64 exception number >>= next) = next (Int64.ofInt number) := by
  have bounds := bounds_int64 nonnegative fits
  rw [inRange_eq _ bounds.1 bounds.2]
  rfl

variable {captures : Captures} {index : Nat}

theorem parseNumber_eq {α : Type} [FixedWidth α] (holds : Holds captures index amount)
    (least : FixedWidth.least α ≤ amount) (greatest : (amount : Int) ≤ FixedWidth.greatest α) :
    parseNumber α captures index = .ok (FixedWidth.ofInt amount) := by
  rcases holds with written | ⟨rfl, absent⟩
  · rw [parseNumber, written, Option.elim_some, integerValue_toDigits, inRange_eq _ least greatest]
  · rw [parseNumber, absent]
    rfl

def unsignedCaptures : Captures := Function.update (fun _ => none) 1 (some [])

theorem matchWith_sign {α : Type} {rest : Text} {further : Text → Captures → Option α} :
    (Regex.group 1 (.optional (.one isSign))).matchWith ('P' :: rest) (fun _ => none) further =
      further ('P' :: rest) unsignedCaptures := by
  have taken : ('P' :: rest).take (('P' :: rest).length - ('P' :: rest).length) = [] := by
    rw [Nat.sub_self, List.take_zero]
  rw [matchWith, matchWith_optional, matchWith_one_of_neg (by decide), Option.none_or, taken]
  rfl

def periodCaptures (years months days : Nat) : Captures :=
  recorded (recorded (recorded (recorded unsignedCaptures 2 years) 3 months) 4 0) 5 days

theorem fullMatch_period (years months days : Nat) :
    Period.pattern.fullMatch ('P' :: (component years 'Y' ++ (component months 'M' ++
      component days 'D'))) = some (periodCaptures years months days) := by
  have reader := integerReader
  have dayFollows := reader.follows_component (by decide : 'D'.isAlpha = true) days
    follows_nil
  have monthFollows := reader.follows_component (by decide : 'M'.isAlpha = true) months dayFollows
  -- the group of the weeks is skipped as a component that is zero
  rw [← List.append_nil (component days 'D')]
  change Period.pattern.fullMatch ('P' :: (component years 'Y' ++ (component months 'M' ++
    (component 0 'W' ++ (component days 'D' ++ []))))) = _
  rw [fullMatch, Period.pattern, matchWith_seq, matchWith_sign, matchWith_seq,
    matchWith_one_of_pos (by decide), matchWith_seq]
  refine reader.matchWith_component true years (by decide) monthFollows (by decide) ?_
  refine reader.matchWith_component true months (by decide) dayFollows (by decide) ?_
  refine reader.matchWith_component true 0 (by decide) dayFollows (by decide) ?_
  exact reader.matchWith_component true days (by decide) follows_nil
    (by decide) (if_pos rfl)

theorem signed_eq {text : Text} (holds : Holds captures index amount)
    (unsigned : negates captures = false) (fits : amount < 2 ^ 31) :
    Period.signed text captures index = .ok (Int32.ofInt amount) := by
  have bounds := bounds_int32 fits
  have kept : (Int32.ofInt amount).toInt = amount := by
    rw [Duration.toInt_ofInt_int32 (by omega), if_pos fits]
  rw [Period.signed, parseNumber_eq holds bounds.1 bounds.2]
  change rethrow _ _ (inRange Int32 .arithmetic (if negates captures then
    -(Int32.ofInt amount).toInt else (Int32.ofInt amount).toInt)) = _
  rw [unsigned, kept, if_neg Bool.false_ne_true, inRange_eq _ bounds.1 bounds.2]
  rfl

theorem negates_periodCaptures (years months days : Nat) :
    negates (periodCaptures years months days) = false := by
  simp [negates, periodCaptures, unsignedCaptures]

theorem holds_periodCaptures (years months days : Nat) :
    Holds (periodCaptures years months days) 2 years ∧
    Holds (periodCaptures years months days) 3 months ∧
    Holds (periodCaptures years months days) 4 0 ∧
    Holds (periodCaptures years months days) 5 days := by
  have year : Holds (recorded unsignedCaptures 2 years) 2 years :=
    holds_recorded years (by decide)
  have month : Holds (recorded (recorded unsignedCaptures 2 years) 3 months) 3 months :=
    holds_recorded months (by simp [unsignedCaptures])
  refine ⟨((year.recorded _ (by decide)).recorded _ (by decide)).recorded _ (by decide),
    (month.recorded _ (by decide)).recorded _ (by decide), ?_, ?_⟩
  · exact (holds_recorded 0 (by simp [unsignedCaptures])).recorded _ (by decide)
  · exact holds_recorded days (by simp [unsignedCaptures])

variable {years months days : Nat}

theorem ofCaptures_period (text : Text) (yearsFit : years < 2 ^ 31) (monthsFit : months < 2 ^ 31)
    (daysFit : days < 2 ^ 31) :
    Period.ofCaptures text (periodCaptures years months days) =
      .ok ⟨Int32.ofInt years, Int32.ofInt months, Int32.ofInt days⟩ := by
  obtain ⟨year, month, week, day⟩ := holds_periodCaptures years months days
  have unsigned := negates_periodCaptures years months days
  have kept : (Int32.ofInt days).toInt = days := by
    rw [Duration.toInt_ofInt_int32 (by omega), if_pos daysFit]
  have sum : inRange Int32 .arithmetic ((Int32.ofInt days).toInt + 0) = .ok (Int32.ofInt days) := by
    rw [Int.add_zero, kept, inRange_eq _ (bounds_int32 daysFit).1 (bounds_int32 daysFit).2]
    rfl
  rw [Period.ofCaptures, signed_eq year unsigned yearsFit, signed_eq month unsigned monthsFit,
    signed_eq week unsigned (by decide), signed_eq day unsigned daysFit]
  change (inRange Int32 .arithmetic ((Int32.ofInt days).toInt + 0) >>= fun sum =>
    Except.ok (Period.mk (Int32.ofInt years) (Int32.ofInt months) sum)) = _
  rw [sum]
  rfl

/-- A period is parsed exactly if one of its components is written. -/
theorem parse_period (yearsFit : years < 2 ^ 31) (monthsFit : months < 2 ^ 31)
    (daysFit : days < 2 ^ 31) :
    Period.parse ('P' :: (component years 'Y' ++ (component months 'M' ++ component days 'D'))) =
      if 0 < years ∨ 0 < months ∨ 0 < days then
        .ok ⟨Int32.ofInt years, Int32.ofInt months, Int32.ofInt days⟩
      else .error (.dateTimeParse Period.message ['P']) := by
  obtain ⟨year, month, -, day⟩ := holds_periodCaptures years months days
  split
  · next written =>
      have present : ([2, 3, 4, 5].any fun index =>
          (periodCaptures years months days index).isSome) = true := by
        by_contra absent
        simp only [List.any_cons, List.any_nil, Bool.or_false, Bool.not_eq_true,
          Bool.or_eq_false_iff] at absent
        have noYear := year.eq_zero absent.1
        have noMonth := month.eq_zero absent.2.1
        have noDay := day.eq_zero absent.2.2.2
        omega
      rw [Period.parse, fullMatch_period]
      exact (if_pos present).trans (ofCaptures_period _ yearsFit monthsFit daysFit)
  · next unwritten =>
      have zero : years = 0 ∧ months = 0 ∧ days = 0 := by omega
      rw [zero.1, zero.2.1, zero.2.2]
      rfl

def durationCaptures (nanos : Nat) : Captures :=
  Function.update (timeCaptures unsignedCaptures nanos) 3 (some ('T' :: timeComponents nanos))

theorem fullMatch_duration (nanos : Nat) :
    JavaTime.Duration.pattern.fullMatch ('P' :: 'T' :: timeComponents nanos) =
      some (durationCaptures nanos) := by
  have reader := integerReader
  have timeFollows :
      Follows Char.isDigit ['T'] ('T' :: timeComponents nanos) :=
    reader.follows_cons (by decide)
  change JavaTime.Duration.pattern.fullMatch
    ('P' :: (component 0 'D' ++ 'T' :: timeComponents nanos)) = _
  rw [fullMatch, pattern, matchWith_seq, matchWith_sign, matchWith_seq,
    matchWith_one_of_pos (by decide), matchWith_seq]
  refine reader.matchWith_component true 0 (by decide) timeFollows (by decide) ?_
  rw [matchWith_optional, Option.or_eq_some_iff]
  refine .inl ?_
  rw [matchWith, matchWith_seq, matchWith_one_of_pos (by decide)]
  refine reader.matchWith_timePattern (by decide) (by decide) (by decide) (by simp) ?_
  simp only [List.length_nil, Nat.sub_zero, List.take_length, if_true]
  rfl

theorem negates_durationCaptures (nanos : Nat) : negates (durationCaptures nanos) = false := by
  rw [negates, durationCaptures, Function.update_of_ne (by decide), timeCaptures,
    recordedSeconds_of_lt (by decide) (by decide)]
  simp [unsignedCaptures]

theorem holds_durationCaptures (nanos : Nat) :
    Holds (durationCaptures nanos) 2 0 ∧
    Holds (durationCaptures nanos) 4 (nanos / nanosPerHour) ∧
    Holds (durationCaptures nanos) 5 (nanos % nanosPerHour / nanosPerMinute) ∧
    Holds (durationCaptures nanos) 6 (nanos % nanosPerMinute / nanosPerSec) := by
  have fresh : ∀ index, 3 < index → unsignedCaptures index = none := by
    intro index later
    exact Function.update_of_ne (by omega) _ _
  have time := holds_timeCaptures fresh nanos
  unfold Holds at time ⊢
  refine ⟨.inr ⟨rfl, ?_⟩, ?_⟩
  · rw [durationCaptures, Function.update_of_ne (by decide), timeCaptures,
      recordedSeconds_of_lt (by decide) (by decide)]
    simp [unsignedCaptures]
  · simpa [durationCaptures] using time

theorem fraction_durationCaptures (nanos : Nat) :
    JavaTime.Duration.fraction (durationCaptures nanos) = nanos % nanosPerSec := by
  have fits : nanos % nanosPerSec < 10 ^ 9 := Nat.mod_lt nanos (by decide)
  have seventh : durationCaptures nanos 7 = timeCaptures unsignedCaptures nanos 7 :=
    Function.update_of_ne (by decide) _ _
  rw [JavaTime.Duration.fraction, seventh, timeCaptures_fraction (by decide)]
  split
  · rw [Option.elim_some, length_zeroPadded (by decide) fits, ofDigitChars_zeroPadded]
    exact Nat.mul_one _
  · next zero => exact (Nat.eq_zero_of_not_pos zero).symm

theorem positive_of_holds (holds : Holds captures index amount) :
    ((captures index).any fun text => text.head? == some '-') = false := by
  rcases holds with written | ⟨-, absent⟩
  · rw [written, Option.any_some, beq_eq_false_iff_ne]
    intro minus
    have digit := isDigit_toDigits '-' (List.mem_of_head? minus)
    cases digit
  · rw [absent]
    rfl

theorem sectionSeconds_eq {text : Text} {unit : Int} {errorText : String}
    (holds : Holds captures index amount) (least : 1 ≤ unit) (fits : amount * unit < 2 ^ 63) :
    sectionSeconds text captures index unit errorText =
      .ok (Int64.ofInt (amount * unit)) := by
  have nonnegative : 0 ≤ (amount : Int) := Int.natCast_nonneg amount
  have greater : (amount : Int) ≤ amount * unit := by
    simpa using Int.mul_le_mul_of_nonneg_left least nonnegative
  have bounds := bounds_int64 nonnegative (Int.lt_of_le_of_lt greater fits)
  have products := bounds_int64 (Int.le_trans nonnegative greater) fits
  have kept := toInt_ofInt_of_lt nonnegative (Int.lt_of_le_of_lt greater fits)
  rw [sectionSeconds, parseNumber_eq holds bounds.1 bounds.2]
  change rethrow _ _ (inRange Int64 .arithmetic ((Int64.ofInt amount).toInt * unit)) = _
  rw [kept, inRange_eq _ products.1 products.2]
  rfl

theorem ofTotal_eq {total : Int} (nonnegative : 0 ≤ total) (fits : total < 2 ^ 63) :
    ofTotal total = .ok (.ofNanos (Int64.ofInt total)) := by
  have seconds : 0 ≤ total / nanosPerSecond ∧
      total / nanosPerSecond < 2 ^ 63 := by
    unfold nanosPerSecond
    omega
  rw [ofTotal, inRange_bind seconds.1 seconds.2]
  simp only [ofNanos, toInt_ofInt_of_lt nonnegative fits]

theorem create_eq {days hours minutes seconds nanos : Int} (nonnegative : 0 ≤ days ∧ 0 ≤ hours ∧
      0 ≤ minutes ∧ 0 ≤ seconds ∧ 0 ≤ nanos)
    (fits : (days + hours + minutes + seconds) * nanosPerSecond + nanos <
      2 ^ 63) :
    JavaTime.Duration.create false (Int64.ofInt days) (Int64.ofInt hours) (Int64.ofInt minutes)
      (Int64.ofInt seconds) nanos = .ok (.ofNanos (Int64.ofInt
        ((days + hours + minutes + seconds) * nanosPerSecond + nanos))) := by
  have bounds := fits
  unfold nanosPerSecond at bounds
  rw [JavaTime.Duration.create, toInt_ofInt_of_lt (by omega) (by omega),
    toInt_ofInt_of_lt (by omega) (by omega), toInt_ofInt_of_lt (by omega) (by omega),
    toInt_ofInt_of_lt (by omega) (by omega), inRange_bind (by omega) (by omega),
    toInt_ofInt_of_lt (by omega) (by omega), inRange_bind (by omega) (by omega),
    toInt_ofInt_of_lt (by omega) (by omega), inRange_bind (by omega) (by omega),
    toInt_ofInt_of_lt (by omega) (by omega)]
  have sum : days + (hours + (minutes + seconds)) = days + hours + minutes + seconds := by omega
  rw [sum, ofTotal_eq (by unfold nanosPerSecond; omega) fits]
  rfl

variable {nanos : Nat}

theorem ofCaptures_eq (text : Text) {hours minutes seconds : Nat}
    (unsigned : negates captures = false) (day : Holds captures 2 0) (hour : Holds captures 4 hours)
    (minute : Holds captures 5 minutes) (second : Holds captures 6 seconds)
    (fraction : JavaTime.Duration.fraction captures = nanos)
    (fits : (hours * 3600 + minutes * 60 + seconds) * 10 ^ 9 + nanos < 2 ^ 63) :
    ofCaptures text captures = .ok (.ofNanos (Int64.ofInt
      ((hours * 3600 + minutes * 60 + seconds) * 10 ^ 9 + nanos : Nat))) := by
  have total : (((0 : Nat) * 86400 + hours * 3600 + minutes * 60 + seconds * 1) *
      nanosPerSecond + nanos : Int) =
        ((hours * 3600 + minutes * 60 + seconds) * 10 ^ 9 + nanos : Nat) := by
    simp only [nanosPerSecond]
    omega
  have bound : (((0 : Nat) * 86400 + hours * 3600 + minutes * 60 + seconds * 1) *
      nanosPerSecond + nanos : Int) < 2 ^ 63 := by
    rw [total]
    exact_mod_cast fits
  have created := create_eq (by omega) bound
  rw [total] at created
  rw [ofCaptures, sectionSeconds_eq day (by decide) (by decide),
    sectionSeconds_eq hour (by decide) (by omega), sectionSeconds_eq minute (by decide) (by omega),
    sectionSeconds_eq second (by decide) (by omega), positive_of_holds second, unsigned, fraction]
  exact congrArg (rethrow _ text) created

theorem ofCaptures_duration (text : Text) (fits : nanos < 2 ^ 63) :
    ofCaptures text (durationCaptures nanos) =
      .ok (.ofNanos (Int64.ofInt nanos)) := by
  have total : (nanos / nanosPerHour * 3600 + nanos % nanosPerHour / nanosPerMinute * 60 +
      nanos % nanosPerMinute / nanosPerSec) * 10 ^ 9 + nanos % nanosPerSec = nanos := by
    simp only [nanosPerHour, nanosPerMinute, nanosPerSec]
    omega
  obtain ⟨day, hour, minute, second⟩ := holds_durationCaptures nanos
  rw [ofCaptures_eq text (negates_durationCaptures nanos) day hour minute second
    (fraction_durationCaptures nanos) (by rwa [total]), total]

theorem durationCaptures_isSome (pos : 0 < nanos) :
    ([2, 4, 5, 6].any fun index => (durationCaptures nanos index).isSome) = true := by
  obtain ⟨-, hour, minute, second⟩ := holds_durationCaptures nanos
  by_contra absent
  simp only [List.any_cons, List.any_nil, Bool.or_false, Bool.not_eq_true,
    Bool.or_eq_false_iff] at absent
  have noHour := hour.eq_zero absent.2.1
  have noMinute := minute.eq_zero absent.2.2.1
  have noSecond := second.eq_zero absent.2.2.2
  have fraction : 0 < nanos % nanosPerSec := by
    simp only [nanosPerHour, nanosPerMinute, nanosPerSec] at noHour noMinute noSecond ⊢
    omega
  have written : durationCaptures nanos 6 =
      some (Nat.toDigits 10 (nanos % nanosPerMinute / nanosPerSec)) := by
    simp [durationCaptures, timeCaptures, recordedSeconds, fraction]
  rw [written] at absent
  cases absent.2.2.2

theorem parse_duration (pos : 0 < nanos) (fits : nanos < 2 ^ 63) :
    JavaTime.Duration.parse ('P' :: 'T' :: timeComponents nanos) =
      .ok (.ofNanos (Int64.ofInt nanos)) := by
  have third : durationCaptures nanos 3 = some ('T' :: timeComponents nanos) :=
    Function.update_self 3 _ _
  have timed : durationCaptures nanos 3 ≠ some ['T'] := by
    rw [third]
    intro bare
    obtain ⟨-, empty⟩ := List.cons.inj (Option.some.inj bare)
    exact timeComponents_ne_nil pos empty
  rw [JavaTime.Duration.parse, fullMatch_duration]
  exact ((if_neg timed).trans (if_pos (durationCaptures_isSome pos))).trans
    (ofCaptures_duration _ fits)

namespace Duration

variable {separator : Char} {first second : Text}

theorem parts_of_not_mem (whole : separator ∉ first) : parts separator first = [first] := by
  induction first with
  | nil => rfl
  | cons char rest ih =>
    obtain ⟨other, others⟩ := not_or.mp (List.mem_cons.not.mp whole)
    rw [parts, if_neg (Ne.symm other), ih others]

theorem parts_append (whole : separator ∉ first) :
    parts separator (first ++ separator :: second) = first :: parts separator second := by
  induction first with
  | nil => rw [List.nil_append, parts, if_pos rfl]
  | cons char rest ih =>
    obtain ⟨other, others⟩ := not_or.mp (List.mem_cons.not.mp whole)
    rw [List.cons_append, parts, if_neg (Ne.symm other), ih others]

theorem split_of_not_mem (whole : separator ∉ first) : split separator first = [first] := by
  rw [split, if_neg whole]

theorem split_append (firstWhole : separator ∉ first) (secondWhole : separator ∉ second)
    (nonempty : second ≠ []) :
    split separator (first ++ separator :: second) = [first, second] := by
  have last : second.isEmpty = false := by simpa using nonempty
  rw [split, if_pos (by simp), parts_append firstWhole, parts_of_not_mem secondWhole]
  simp [last]

variable {duration : TypeDBDriver.Duration}

theorem parse_date (monthsFit : duration.months.toNat < 2 ^ 31)
    (daysFit : duration.days.toNat < 2 ^ 31) :
    Period.parse ('P' :: duration.dateText) =
      if duration.months ≠ 0 ∨ duration.days ≠ 0 then
        .ok ⟨Int32.ofInt (duration.months.toNat / 12 : Nat),
          Int32.ofInt (duration.months.toNat % 12 : Nat), Int32.ofInt duration.days.toNat⟩
      else .error (.dateTimeParse Period.message ['P']) := by
  have written : (duration.months ≠ 0 ∨ duration.days ≠ 0) ↔
      0 < duration.months.toNat / 12 ∨ 0 < duration.months.toNat % 12 ∨
        0 < duration.days.toNat := by
    rw [ne_eq, ne_eq, ← UInt32.toNat_inj, ← UInt32.toNat_inj]
    change ¬ duration.months.toNat = 0 ∨ ¬ duration.days.toNat = 0 ↔ _
    omega
  rw [dateText_eq]
  exact (parse_period (by unfold monthsPerYear; omega)
    (by unfold monthsPerYear; omega) daysFit).trans
      (if_congr written.symm rfl rfl)

theorem ofParts_date (months : Nat) (days : Int32) (time : JavaTime.Duration) :
    ofParts ⟨Int32.ofInt (months / 12 : Nat), Int32.ofInt (months % 12 : Nat), days⟩ time =
      ⟨⟨0, Int32.ofInt months, days⟩, time⟩ := by
  have sum : Int32.ofInt (months / 12 : Nat) * monthsInYear + Int32.ofInt (months % 12 : Nat) =
      Int32.ofInt months := by
    have twelve : monthsInYear = Int32.ofInt 12 := rfl
    rw [twelve, ← Int32.ofInt_mul, ← Int32.ofInt_add]
    congr 1
    omega
  rw [ofParts, sum]

theorem separator_not_mem (duration : TypeDBDriver.Duration) : 'T' ∉ 'P' :: duration.dateText := by
  simpa using not_mem_dateText (by decide) (by decide)

section

variable (monthsFit : duration.months.toNat < 2 ^ 31) (daysFit : duration.days.toNat < 2 ^ 31)

include monthsFit daysFit

theorem parse_of_nanos (nanosFit : duration.nanos.toNat < 2 ^ 63) (timed : duration.nanos ≠ 0) :
    parse duration.display = if duration.months ≠ 0 ∨ duration.days ≠ 0 then .ok (ofNative duration)
      else .error (.dateTimeParse Period.message ['P']) := by
  have pos : 0 < duration.nanos.toNat :=
    UInt64.lt_iff_toNat_lt.mp (UInt64.pos_iff_ne_zero.mpr timed)
  have halves := split_append (separator_not_mem duration)
    (TypeDBDriver.Duration.not_mem_timeComponents (by decide) (by decide))
    (timeComponents_ne_nil pos)
  rw [parse, display_of_nanos timed, halves]
  change (Period.parse ('P' :: duration.dateText) >>= fun period =>
    JavaTime.Duration.parse ('P' :: 'T' :: timeComponents duration.nanos.toNat) >>= fun time =>
      Except.ok (ofParts period time)) = _
  rw [parse_date monthsFit daysFit, parse_duration pos nanosFit]
  split
  · exact congrArg Except.ok (ofParts_date _ _ _)
  · rfl

theorem parse_of_date (dateOnly : duration.nanos = 0)
    (dated : duration.months ≠ 0 ∨ duration.days ≠ 0) :
    parse duration.display = .ok (ofNative duration) := by
  have nonempty : duration.isEmpty = false := by
    rcases dated with months | days
    · simp [isEmpty, months]
    · simp [isEmpty, days]
  have whole := split_of_not_mem (separator_not_mem duration)
  rw [parse, display_of_date dateOnly nonempty, whole]
  change (Period.parse ('P' :: duration.dateText) >>= fun period =>
    Except.ok (ofParts period (.ofNanos 0))) = _
  rw [parse_date monthsFit daysFit, if_pos dated, ofNative, dateOnly]
  exact congrArg Except.ok (ofParts_date _ _ _)

/-- The parser of `Period` requires a component, and a duration of less than a day is printed
without one before the `T`. -/
theorem parse_display (nanosFit : duration.nanos.toNat < 2 ^ 63) :
    parse duration.display = if duration.months ≠ 0 ∨ duration.days ≠ 0 then .ok (ofNative duration)
      else .error (.dateTimeParse Period.message ['P']) := by
  by_cases timed : duration.nanos = 0
  · split
    · next dated => exact parse_of_date monthsFit daysFit timed dated
    · next undated =>
        obtain ⟨months, days, nanos⟩ := duration
        simp only [not_or, ne_eq, Classical.not_not] at undated timed
        rw [undated.1, undated.2, timed]
        rfl
  · exact parse_of_nanos monthsFit daysFit nanosFit timed

end

/-- A printed duration is read back exactly if it has months or days. One of time alone, and the
one that is zero, is not parsed at all. -/
theorem parse_display_iff (duration : TypeDBDriver.Duration)
    (monthsFit : duration.months.toNat < 2 ^ 31) (daysFit : duration.days.toNat < 2 ^ 31)
    (nanosFit : duration.nanos.toNat < 2 ^ 63) :
    ((∃ parsed, parse duration.display = .ok parsed ∧
        parsed.getMonths.toInt = duration.months.toNat ∧
        parsed.getDays.toInt = duration.days.toNat ∧
        parsed.totalNanos = duration.nanos.toNat) ↔
      duration.months ≠ 0 ∨ duration.days ≠ 0) ∧
    (duration.months = 0 → duration.days = 0 →
      parse duration.display = .error (.dateTimeParse Period.message ['P'])) := by
  have months : (ofNative duration).getMonths.toInt = duration.months.toNat := by
    rw [getMonths, ofNative, toInt_ofInt_int32 duration.months.toNat_lt, if_pos monthsFit]
  have days : (ofNative duration).getDays.toInt = duration.days.toNat := by
    rw [getDays, ofNative, toInt_ofInt_int32 duration.days.toNat_lt, if_pos daysFit]
  have nanos : (ofNative duration).totalNanos = duration.nanos.toNat := by
    refine (total_ofNanos _).trans ?_
    rw [toInt_ofInt_int64 duration.nanos.toNat_lt, if_pos nanosFit]
  rw [parse_display monthsFit daysFit nanosFit]
  by_cases dated : duration.months ≠ 0 ∨ duration.days ≠ 0
  · rw [if_pos dated]
    refine ⟨iff_of_true ⟨_, rfl, months, days, nanos⟩ dated, fun noMonths noDays => ?_⟩
    exact absurd dated (by simp [noMonths, noDays])
  · rw [if_neg dated]
    refine ⟨iff_of_false ?_ dated, fun _ _ => rfl⟩
    intro read
    obtain ⟨_, impossible, -⟩ := read
    cases impossible

/-- A month and a second. -/
theorem parse_display_iff_dated :
    display ⟨1, 0, 1000000000⟩ = ['P', '1', 'M', 'T', '1', 'S'] ∧
    ∃ parsed, parse (display ⟨1, 0, 1000000000⟩) = .ok parsed ∧
      parsed.getMonths.toInt = 1 ∧ parsed.getDays.toInt = 0 ∧ parsed.totalNanos = 1000000000 :=
  ⟨by decide, (parse_display_iff ⟨1, 0, 1000000000⟩ (by decide) (by decide) (by decide)).1.mpr
    (by decide)⟩

/-- One second, as it is printed. -/
theorem parse_display_fails :
    display ⟨0, 0, 1000000000⟩ = ['P', 'T', '1', 'S'] ∧
    parse ['P', 'T', '1', 'S'] = .error (.dateTimeParse Period.message ['P']) ∧
    display ⟨0, 0, 0⟩ = ['P', 'T', '0', 'S'] ∧
    parse ['P', 'T', '0', 'S'] = .error (.dateTimeParse Period.message ['P']) := by
  decide

end Duration

end TypeDBDriver.Java
