import TypeDBDriver.Python.Duration

/-! Which printed durations the Python driver reads back. -/

namespace TypeDBDriver.Python

open Library Library.Regex
open TypeDBDriver.Duration (recorded recorded_of_ne timeCaptures timeCaptures_fraction
  timeComponents Holds holds_recorded holds_timeCaptures component nanosPerSec nanosPerMinute
  nanosPerHour IntegerReader Follows Plain dateText_eq display display_of_date display_of_nanos
  isAlpha_plain isDigit_toDigits isEmpty monthsPerYear not_mem_dateText)

namespace DecimalDigits

variable (digits : DecimalDigits)

theorem value_of_isDigit {char : Char} (numeric : char.isDigit = true) :
    digits.value char = some (char.toNat - '0'.toNat) := by
  have ascii : char.toNat < 128 := by
    have bounds := Char.isDigit_iff_toNat.mp numeric
    have nine : '9'.toNat = 57 := rfl
    omega
  rw [digits.ascii char ascii, if_pos numeric]

theorem int_eq_ofDigitChars {text : Text} (numeric : ∀ char ∈ text, char.isDigit = true) :
    digits.int text = Nat.ofDigitChars 10 text 0 := by
  have folded : ∀ start, text.foldl (fun number char => 10 * number + (digits.value char).getD 0)
      start = Nat.ofDigitChars 10 text start := by
    induction text with
    | nil => exact fun _ => rfl
    | cons char rest ih =>
      intro start
      rw [List.foldl_cons, Nat.ofDigitChars_cons,
        digits.value_of_isDigit (numeric char List.mem_cons_self), Option.getD_some]
      exact ih (fun other listed => numeric other (List.mem_cons_of_mem _ listed)) _
  exact folded 0

theorem int_toDigits (number : Nat) : digits.int (Nat.toDigits 10 number) = number := by
  rw [digits.int_eq_ofDigitChars isDigit_toDigits, Nat.ofDigitChars_ten_toDigits]

theorem integerReader :
    IntegerReader digits.isDecimal (Duration.integer digits) where
  decimal char numeric := by rw [isDecimal, digits.value_of_isDigit numeric]; rfl
  letter char alpha := by
    have plain : char.toNat < 128 ∧ char.isDigit = false := by
      rcases alpha with alpha | rfl
      · exact isAlpha_plain alpha
      · decide
    rw [isDecimal, digits.ascii char plain.1, plain.2]
    rfl
  reads _ _ := fun _ _ => rfl

end DecimalDigits

namespace Duration

variable (digits : DecimalDigits) {captures : Captures} {index : Nat} {text : Text}

theorem group?_of_eq_some (found : captures index = some text) (written : text ≠ []) :
    group? captures index = some text := by
  rw [group?, found, Option.filter_some_pos]
  simpa using written

theorem number_of_holds {amount : Nat} (holds : Holds captures index amount) :
    number digits captures index = amount := by
  rcases holds with written | ⟨rfl, absent⟩
  · rw [number, group?_of_eq_some written Nat.toDigits_ne_nil, Option.elim_some,
      digits.int_toDigits]
  · rw [number, group?, absent]
    rfl

def dateCaptures (years months days : Nat) : Captures :=
  recorded (recorded (recorded (fun _ => none) 1 years) 2 months) 3 days

theorem fullMatch_datetimeRegex (years months days : Nat) {time : Text} {found : Captures}
    (matched : (timePattern false (integer digits) (· == '.') digits.isDecimal 1 none).matchWith
      time (dateCaptures years months days) (fun rest captures =>
        if rest = [] then some captures else none) = some found) :
    (datetimeRegex digits).fullMatch ('P' :: (component years 'Y' ++ (component months 'M' ++
      (component days 'D' ++ 'T' :: time)))) = some found := by
  have reader := digits.integerReader
  have timeFollows : Follows digits.isDecimal ['T'] ('T' :: time) :=
    reader.follows_cons (by decide)
  have dayFollows := reader.follows_component (by decide : 'D'.isAlpha = true) days timeFollows
  have monthFollows := reader.follows_component (by decide : 'M'.isAlpha = true) months dayFollows
  rw [fullMatch, datetimeRegex, matchWith_seq, matchWith_one_of_pos (by decide)]
  refine reader.matchWith_component false _ (by decide) monthFollows (by decide) ?_
  refine reader.matchWith_component false _ (by decide) dayFollows (by decide) ?_
  refine reader.matchWith_component false _ (by decide) timeFollows (by decide) ?_
  rw [matchWith_seq, matchWith_one_of_pos (by decide)]
  exact matched

theorem fullMatch_timeComponents (years months days nanos : Nat) :
    (datetimeRegex digits).fullMatch ('P' :: (component years 'Y' ++ (component months 'M' ++
      (component days 'D' ++ 'T' :: timeComponents nanos)))) =
      some (timeCaptures (dateCaptures years months days) nanos) :=
  fullMatch_datetimeRegex digits years months days
    (digits.integerReader.matchWith_timePattern (by decide) (by decide) (by decide)
      (fun bound impossible => by cases impossible) (if_pos rfl))

theorem fullMatch_zero : (datetimeRegex digits).fullMatch ['P', 'T', '0', 'S'] =
    some (Function.update (dateCaptures 0 0 0) 6 (some ['0'])) := by
  have reader := digits.integerReader
  have ended : digits.isDecimal 'S' = false := reader.letter 'S' (.inl (by decide))
  have zero : Follows digits.isDecimal ['S'] ['0', 'S'] := by
    intro char begins
    have leads : leading digits.isDecimal (Nat.toDigits 10 0 ++ 'S' :: []) = some 'S' :=
      leading_digits (reader.toDigits 0) ended
    exact List.mem_singleton.mpr (Option.some.inj (begins.symm.trans leads))
  have plain : Plain digits.isDecimal ['0', 'S'] := by
    intro char begins
    rw [List.mem_singleton.mp (zero char begins)]
    decide
  refine fullMatch_datetimeRegex digits 0 0 0 ?_
  rw [timePattern, matchWith_seq]
  refine reader.matchWith_component false 0 (by decide) zero (by decide) ?_
  refine reader.matchWith_component false 0 (by decide) zero (by decide) ?_
  have written : ['0', 'S'] = Nat.toDigits 10 0 ++ 'S' :: [] := rfl
  rw [written] at plain ⊢
  exact matchWith_fractional_whole (reader.reads _ plain) (reader.toDigits 0) Nat.toDigits_ne_nil
    ended (by decide) (by decide) (if_pos rfl)

theorem dateCaptures_eq_none {years months days : Nat} (time : 3 < index) :
    dateCaptures years months days index = none := by
  rw [dateCaptures, recorded_of_ne (by omega), recorded_of_ne (by omega), recorded_of_ne (by omega)]

theorem holds_dateCaptures (years months days : Nat) :
    Holds (dateCaptures years months days) 1 years ∧
    Holds (dateCaptures years months days) 2 months ∧
    Holds (dateCaptures years months days) 3 days := by
  have year : Holds (recorded (fun _ => none) 1 years) 1 years := holds_recorded years rfl
  have month : Holds (recorded (recorded (fun _ => none) 1 years) 2 months) 2 months :=
    holds_recorded months (recorded_of_ne (by decide))
  refine ⟨(year.recorded _ (by decide)).recorded _ (by decide), month.recorded _ (by decide), ?_⟩
  exact holds_recorded days (by simp)

theorem fraction_of_absent (absent : captures 7 = none) : fraction digits captures = 0 := by
  have zeros : (ljust ['0'] 9 '0').take 9 = List.replicate 9 '0' := by decide
  rw [fraction, group?, absent, Option.filter_none, Option.getD_none, zeros,
    digits.int_eq_ofDigitChars (by simp), Nat.ofDigitChars_replicate_zero]

theorem fraction_timeCaptures (fresh : captures 7 = none) (nanos : Nat) :
    fraction digits (timeCaptures captures nanos) = nanos % nanosPerSec := by
  have seventh := timeCaptures_fraction fresh nanos
  split at seventh
  · have fits : nanos % nanosPerSec < 10 ^ 9 := Nat.mod_lt nanos (by decide)
    have length := length_zeroPadded (by decide : 0 < 9) fits
    have written : zeroPadded 9 (nanos % nanosPerSec) ≠ [] := by
      intro empty
      rw [empty] at length
      cases length
    rw [fraction, group?_of_eq_some seventh written, Option.getD_some, ljust, length, Nat.sub_self,
      List.replicate_zero, List.append_nil, List.take_of_length_le (Nat.le_of_eq length),
      digits.int_eq_ofDigitChars fun _ listed => isDigit_zeroPadded listed, ofDigitChars_zeroPadded]
  · next zero => rw [fraction_of_absent digits seventh, Nat.eq_zero_of_not_pos zero]

theorem ofDatetime_timeCaptures (years months days nanos : Nat) :
    ofDatetime digits (timeCaptures (dateCaptures years months days) nanos) =
      ⟨months + years * monthsInYear, days, nanos⟩ := by
  obtain ⟨year, month, day⟩ := holds_dateCaptures years months days
  have fresh : ∀ index, 3 < index → dateCaptures years months days index = none :=
    fun _ => dateCaptures_eq_none
  obtain ⟨hour, minute, second⟩ := holds_timeCaptures fresh nanos
  have subsecond := fraction_timeCaptures digits (fresh 7 (by decide)) nanos
  have total : nanos % nanosPerSec + (nanos % nanosPerMinute / nanosPerSec +
      (nanos % nanosPerHour / nanosPerMinute + nanos / nanosPerHour * minutesInHour) *
        secondsInMinute) * nanosInSecond = nanos := by
    simp only [nanosPerSec, nanosPerMinute, nanosPerHour, minutesInHour, secondsInMinute,
      nanosInSecond]
    omega
  rw [ofDatetime, number_of_holds digits (year.timeCaptures nanos (by decide)),
    number_of_holds digits (month.timeCaptures nanos (by decide)),
    number_of_holds digits (day.timeCaptures nanos (by decide)), number_of_holds digits hour,
    number_of_holds digits minute, number_of_holds digits second, subsecond, total]

theorem mem_of_matches_literal {letter : Char}
    (matched : Matches (.one (literal false letter)) text) : letter ∈ text := by
  obtain ⟨char, rfl, accepted⟩ := matches_one matched
  have same : char = letter := by simpa [literal] using accepted
  rw [same]
  exact List.mem_cons_self

theorem datetimeRegex_requires (matched : Matches (datetimeRegex digits) text) : 'T' ∈ text := by
  obtain ⟨_, _, rfl, -, matched⟩ := matches_seq matched
  obtain ⟨_, _, rfl, -, matched⟩ := matches_seq matched
  obtain ⟨_, _, rfl, -, matched⟩ := matches_seq matched
  obtain ⟨_, _, rfl, -, matched⟩ := matches_seq matched
  obtain ⟨_, _, rfl, time, -⟩ := matches_seq matched
  simp [mem_of_matches_literal time]

theorem weekRegex_requires (matched : Matches (weekRegex digits) text) : 'W' ∈ text := by
  obtain ⟨_, _, rfl, -, matched⟩ := matches_seq matched
  obtain ⟨_, _, rfl, -, week⟩ := matches_seq matched
  simp [mem_of_matches_literal week]

theorem fullMatch_eq_none {regex : Regex} (unmatched : ¬ Matches regex text) :
    regex.fullMatch text = none := by
  rw [Option.eq_none_iff_forall_ne_some]
  exact fun _ found => unmatched (matches_of_fullMatch found)

theorem fromstring_eq_error (noTime : 'T' ∉ text) (noWeek : 'W' ∉ text) :
    fromstring digits text = .error (.incorrectFormat text) := by
  rw [fromstring, fullMatch_eq_none fun matched => noTime (datetimeRegex_requires digits matched),
    fullMatch_eq_none fun matched => noWeek (weekRegex_requires digits matched)]

variable {digits} {duration : TypeDBDriver.Duration}

theorem ofDatetime_zero (digits : DecimalDigits) :
    ofDatetime digits (Function.update (dateCaptures 0 0 0) 6 (some ['0'])) = ⟨0, 0, 0⟩ := by
  have holds : ∀ index, Holds (Function.update (dateCaptures 0 0 0) 6 (some ['0'])) index 0 := by
    intro index
    by_cases second : index = 6
    · rw [second]
      exact .inl (Function.update_self 6 _ _)
    · exact .inr ⟨rfl, Function.update_of_ne second _ _⟩
  have subsecond : fraction digits (Function.update (dateCaptures 0 0 0) 6 (some ['0'])) = 0 :=
    fraction_of_absent digits (Function.update_of_ne (by decide) _ _)
  simp only [ofDatetime, number_of_holds digits (holds _), subsecond]
  rfl

theorem fromstring_of_nanos (timed : duration.nanos ≠ 0) : fromstring digits duration.display =
    .ok ⟨duration.months.toNat, duration.days.toNat, duration.nanos.toNat⟩ := by
  have months : duration.months.toNat % monthsPerYear +
      duration.months.toNat / monthsPerYear * monthsInYear =
        duration.months.toNat :=
    Nat.mod_add_div' _ _
  have printed := display_of_nanos timed
  rw [dateText_eq, List.cons_append, List.append_assoc, List.append_assoc]
    at printed
  rw [fromstring, printed, fullMatch_timeComponents]
  change Except.ok (ofDatetime digits _) = _
  rw [ofDatetime_timeCaptures, months]

theorem fromstring_of_isEmpty (empty : duration.isEmpty = true) :
    fromstring digits duration.display =
      .ok ⟨duration.months.toNat, duration.days.toNat, duration.nanos.toNat⟩ := by
  have zero : duration.months = 0 ∧ duration.days = 0 ∧ duration.nanos = 0 := by
    simpa [isEmpty, and_assoc] using empty
  rw [fromstring, display, if_pos empty, fullMatch_zero]
  change Except.ok (ofDatetime digits _) = _
  rw [ofDatetime_zero, zero.1, zero.2.1, zero.2.2]
  rfl

theorem fromstring_of_date (dateOnly : duration.nanos = 0) (nonempty : duration.isEmpty = false) :
    fromstring digits duration.display = .error (.incorrectFormat duration.display) := by
  rw [display_of_date dateOnly nonempty]
  apply fromstring_eq_error
  · simpa using not_mem_dateText (by decide) (by decide)
  · simpa using not_mem_dateText (by decide) (by decide)

/-- A printed duration is read back exactly if it has a time or is zero. The expression requires
the `T`, which a duration of months and days is printed without. -/
theorem fromstring_display_iff (digits : DecimalDigits) (duration : TypeDBDriver.Duration) :
    (fromstring digits duration.display =
        .ok ⟨duration.months.toNat, duration.days.toNat, duration.nanos.toNat⟩ ↔
      duration.nanos ≠ 0 ∨ duration.isEmpty = true) ∧
    (duration.nanos = 0 → duration.isEmpty = false →
      fromstring digits duration.display = .error (.incorrectFormat duration.display)) := by
  refine ⟨⟨fun read => ?_, fun printed => ?_⟩, fromstring_of_date⟩
  · by_contra neither
    obtain ⟨dateOnly, nonempty⟩ := not_or.mp neither
    rw [fromstring_of_date (Classical.not_not.mp dateOnly) (Bool.eq_false_iff.mpr nonempty)] at read
    cases read
  · rcases printed with timed | empty
    · exact fromstring_of_nanos timed
    · exact fromstring_of_isEmpty empty

/-- One day, as it is printed. -/
theorem fromstring_fails :
    display ⟨0, 1, 0⟩ = ['P', '1', 'D'] ∧
    fromstring DecimalDigits.asciiOnly ['P', '1', 'D'] =
      .error (.incorrectFormat ['P', '1', 'D']) := by
  decide

end Duration

end TypeDBDriver.Python
