import TypeDBDriver.Concept.DurationGrammar

/-! A printed duration is a text of the grammar with the duration as its sum, so that the parser
returns it. -/

namespace TypeDBDriver

open Library
open String (ofList utf8EncodeChar)

def Digits.ofText (digits : Text) (some_ : digits ≠ [])
    (numeric : ∀ char ∈ digits, char.isDigit = true) : Digits where
  bytes := digits.map Char.toUInt8
  some_ := by simpa using some_
  numeric byte listed := by
    obtain ⟨char, found, rfl⟩ := List.mem_map.mp listed
    exact Str.isAsciiDigit_toUInt8 (numeric char found)

def Digits.ofNat (number : Nat) : Digits :=
  .ofText (Nat.toDigits 10 number) Nat.toDigits_ne_nil
    fun _ listed => Nat.isDigit_of_mem_toDigits (by decide) (by decide) listed

def Digits.ofNanos (nanos : Nat) (fits : nanos < 10 ^ 9) : Digits :=
  .ofText (zeroPadded 9 nanos)
    (List.ne_nil_of_length_pos (by rw [length_zeroPadded (by decide) fits]; decide))
    fun _ => isDigit_zeroPadded

theorem Digits.number_ofNat (number : Nat) : Str.number (Digits.ofNat number).bytes = number := by
  have numeric : ∀ char ∈ Nat.toDigits 10 number, char.isDigit = true :=
    fun _ listed => Nat.isDigit_of_mem_toDigits (by decide) (by decide) listed
  rw [ofNat, ofText, Str.number_digits numeric, Nat.ofDigitChars_ten_toDigits]

theorem Digits.number_ofNanos {nanos : Nat} (fits : nanos < 10 ^ 9) :
    Str.number (Digits.ofNanos nanos fits).bytes = nanos := by
  rw [ofNanos, ofText, Str.number_digits fun _ => isDigit_zeroPadded, ofDigitChars_zeroPadded]

theorem Digits.length_ofNanos {nanos : Nat} (fits : nanos < 10 ^ 9) :
    (Digits.ofNanos nanos fits).bytes.length = 9 := by
  rw [ofNanos, ofText, List.length_map, length_zeroPadded (by decide) fits]

namespace Duration

def pos (amount : Nat) : Option Digits :=
  if 0 < amount then some (.ofNat amount) else none

def printedSeconds (seconds nanos : Nat) (fits : nanos < 10 ^ 9) : Option SecondsText :=
  if 0 < seconds ∧ nanos = 0 then some ⟨.ofNat seconds, none⟩
  else if 0 < nanos then some ⟨.ofNat seconds, some (.ofNanos nanos fits)⟩
  else none

theorem mod_nanosPerSec_lt (nanos : Nat) : nanos % nanosPerSec < 10 ^ 9 :=
  Nat.mod_lt _ (by decide)

def printedTime (nanos : Nat) : TimeText where
  hours := pos (nanos / nanosPerHour)
  minutes := pos (nanos % nanosPerHour / nanosPerMinute)
  seconds := printedSeconds (nanos % nanosPerMinute / nanosPerSec) (nanos % nanosPerSec)
    (mod_nanosPerSec_lt nanos)

def printed (duration : Duration) : DurationText :=
  if duration.isEmpty then ⟨none, none, none, none, some ⟨none, none, some ⟨.ofNat 0, none⟩⟩⟩
  else
    { years := pos (duration.months.toNat / monthsPerYear)
      months := pos (duration.months.toNat % monthsPerYear)
      weeks := none
      days := pos duration.days.toNat
      time := if 0 < duration.nanos then some (printedTime duration.nanos.toNat) else none }

theorem encode_ofNat (number : Nat) :
    (Nat.toDigits 10 number).flatMap utf8EncodeChar = (Digits.ofNat number).bytes :=
  Str.encode_digits fun _ listed => Nat.isDigit_of_mem_toDigits (by decide) (by decide) listed

variable {nanos : Nat}

theorem encode_ofNanos (fits : nanos < 10 ^ 9) :
    (zeroPadded 9 nanos).flatMap utf8EncodeChar = (Digits.ofNanos nanos fits).bytes :=
  Str.encode_digits fun _ => isDigit_zeroPadded

theorem encode_component (amount : Nat) {designator : Char} (ascii : designator.toNat < 128) :
    (component amount designator).flatMap utf8EncodeChar =
      optional (pos amount) (·.followedBy designator) := by
  unfold component pos
  split
  · rw [List.flatMap_append, encode_ofNat, List.flatMap_singleton,
      Str.utf8EncodeChar_of_ascii ascii]
    rfl
  · rfl

variable {seconds : Nat}

theorem encode_secondsText (fits : nanos < 10 ^ 9) :
    (secondsText seconds nanos).flatMap utf8EncodeChar =
      optional (printedSeconds seconds nanos fits) SecondsText.bytes := by
  unfold secondsText printedSeconds
  split
  · rw [List.flatMap_append, encode_ofNat]
    rfl
  · split
    · have point : utf8EncodeChar '.' = ['.'.toUInt8] := rfl
      have unit : ['S'].flatMap utf8EncodeChar = ['S'.toUInt8] := rfl
      rw [List.flatMap_append, List.flatMap_append, List.flatMap_cons, encode_ofNat,
        encode_ofNanos fits, point, unit]
      simp [optional, SecondsText.bytes, Digits.followedBy]
    · rfl

theorem encode_timeText {duration : Duration} (some_ : 0 < duration.nanos) :
    duration.timeText.flatMap utf8EncodeChar =
      (printedTime duration.nanos.toNat).bytes := by
  have designator : utf8EncodeChar 'T' = ['T'.toUInt8] := rfl
  simp only [timeText, if_pos some_, List.cons_append, List.flatMap_cons, List.flatMap_append]
  rw [designator, encode_component _ (by decide), encode_component _ (by decide),
    encode_secondsText (mod_nanosPerSec_lt _)]
  rfl

theorem encode_dateText (duration : Duration) :
    duration.dateText.flatMap utf8EncodeChar =
      optional (pos (duration.months.toNat / monthsPerYear)) (·.followedBy 'Y') ++
        optional (pos (duration.months.toNat % monthsPerYear)) (·.followedBy 'M') ++
        optional (pos duration.days.toNat) (·.followedBy 'D') := by
  unfold dateText
  split
  · simp only [List.flatMap_append]
    rw [encode_component _ (by decide), encode_component _ (by decide),
      encode_component _ (by decide)]
  · next none_ =>
      rw [UInt32.lt_iff_toNat_lt, UInt32.lt_iff_toNat_lt, UInt32.toNat_zero, not_or] at none_
      have months : duration.months.toNat = 0 := Nat.eq_zero_of_not_pos none_.1
      have days : duration.days.toNat = 0 := Nat.eq_zero_of_not_pos none_.2
      rw [months, days]
      rfl

theorem encode_display (duration : Duration) :
    utf8Bytes (ofList duration.display) = duration.printed.bytes := by
  have designator : utf8EncodeChar 'P' = ['P'.toUInt8] := rfl
  rw [utf8Bytes_eq_flatMap, String.toList_ofList]
  unfold display printed
  split
  · rfl
  · rw [List.cons_append, List.flatMap_cons, List.flatMap_append, encode_dateText, designator]
    by_cases some_ : 0 < duration.nanos
    · rw [encode_timeText some_, if_pos some_]
      simp [DurationText.bytes, optional]
    · rw [timeText, if_neg some_, if_neg some_]
      simp [DurationText.bytes, optional]

theorem total_append (amount : Item → Nat) (first second : List Item) :
    total amount (first ++ second) = total amount first + total amount second := by
  induction first with
  | nil => exact (Nat.zero_add _).symm
  | cons item rest ih => rw [List.cons_append, total_cons, total_cons, ih, Nat.add_assoc]

variable {amount : Item → Nat}

theorem total_designate
    (unmarked : ∀ item : Item, amount { item with marked := true } = amount item)
    (items : List Item) : total amount (designate items) = total amount items := by
  cases items with
  | nil => rfl
  | cons item rest => rw [designate, total_cons, total_cons, unmarked]

variable {unit : DurationUnit}

theorem total_positive (zero : amount ((Digits.ofNat 0).item unit) = 0) (number : Nat) :
    total amount (optionalItem unit (pos number)) =
      amount ((Digits.ofNat number).item unit) := by
  unfold pos
  split
  · exact Nat.add_zero _
  · next none_ =>
      rw [Nat.eq_zero_of_not_pos none_, zero]
      rfl

theorem total_printedSeconds (fits : nanos < 10 ^ 9) :
    total Item.castNanos (((printedSeconds seconds nanos fits).map SecondsText.items).getD []) =
      seconds * nanosPerSec + nanos := by
  unfold printedSeconds
  split
  · next whole =>
      simp [SecondsText.items, Digits.item, Item.castNanos, Item.number, Digits.number_ofNat, whole]
  · split
    · simp [SecondsText.items, Digits.item, Item.castNanos, Item.number, Digits.number_ofNat,
        Digits.number_ofNanos, Digits.length_ofNanos]
    · next notWhole none_ =>
        have seconds_ : seconds = 0 := by omega
        have nanos_ : nanos = 0 := by omega
        rw [seconds_, nanos_]
        rfl

theorem number_item (number : Nat) (unit : DurationUnit) :
    ((Digits.ofNat number).item unit).number = number := Digits.number_ofNat number

theorem total_eq_zero {items : List Item} (none_ : ∀ item ∈ items, amount item = 0) :
    total amount items = 0 := by
  induction items with
  | nil => rfl
  | cons item rest ih =>
    rw [List.forall_mem_cons] at none_
    rw [total_cons, none_.1, ih none_.2]

theorem date_amounts_of_time {item : Item} (later : item.unit.isDate = false) :
    item.castMonths = 0 ∧ item.castDays = 0 := by
  unfold Item.castMonths Item.castDays
  cases unit : item.unit <;> rw [unit] at later <;> first | exact ⟨rfl, rfl⟩ | cases later

theorem nanos_of_date {item : Item} (early : item.unit.isDate = true) : item.castNanos = 0 := by
  unfold Item.castNanos
  cases unit : item.unit <;> rw [unit] at early <;> first | rfl | cases early

theorem total_printedTime (nanos : Nat) :
    total Item.castNanos (printedTime nanos).items = nanos := by
  have hours : ((Digits.ofNat (nanos / nanosPerHour)).item .hours).castNanos =
      nanos / nanosPerHour * nanosPerHour := congrArg (· * nanosPerHour) (number_item _ _)
  have minutes :
      ((Digits.ofNat (nanos % nanosPerHour / nanosPerMinute)).item .minutes).castNanos =
        nanos % nanosPerHour / nanosPerMinute * nanosPerMinute :=
    congrArg (· * nanosPerMinute) (number_item _ _)
  rw [TimeText.items, total_append, total_append, printedTime, total_positive (by decide),
    total_positive (by decide), total_printedSeconds, hours, minutes]
  simp only [nanosPerHour, nanosPerMinute, nanosPerSec]
  omega

theorem totals_printedDate {duration : Duration} (some_ : ¬ duration.isEmpty = true) :
    total Item.castMonths duration.printed.dateItems = duration.months.toNat ∧
      total Item.castDays duration.printed.dateItems = duration.days.toNat := by
  have monthsBound := duration.months.toNat_lt
  have daysBound := duration.days.toNat_lt
  have years : ((Digits.ofNat (duration.months.toNat / monthsPerYear)).item .years).castMonths =
      duration.months.toNat / monthsPerYear % 2 ^ 32 * monthsPerYear :=
    congrArg (· % 2 ^ 32 * monthsPerYear) (number_item _ _)
  have months : ((Digits.ofNat (duration.months.toNat % monthsPerYear)).item .months).castMonths =
      duration.months.toNat % monthsPerYear % 2 ^ 32 := congrArg (· % 2 ^ 32) (number_item _ _)
  have days : ((Digits.ofNat duration.days.toNat).item .days).castDays =
      duration.days.toNat % 2 ^ 32 := congrArg (· % 2 ^ 32) (number_item _ _)
  have otherMonths : ((Digits.ofNat duration.days.toNat).item .days).castMonths = 0 := rfl
  have yearDays :
      ((Digits.ofNat (duration.months.toNat / monthsPerYear)).item .years).castDays = 0 := rfl
  have monthDays :
      ((Digits.ofNat (duration.months.toNat % monthsPerYear)).item .months).castDays = 0 := rfl
  have noWeeks : ∀ amount : Item → Nat, total amount (optionalItem .weeks none) = 0 :=
    fun _ => rfl
  rw [printed, if_neg some_, DurationText.dateItems]
  simp only [total_append, noWeeks]
  rw [total_positive (by decide), total_positive (by decide), total_positive (by decide),
    total_positive (by decide), total_positive (by decide), total_positive (by decide),
    years, months, days, otherMonths, yearDays, monthDays]
  unfold monthsPerYear
  omega

theorem totals_printed (duration : Duration) :
    total Item.castMonths duration.printed.items = duration.months.toNat ∧
      total Item.castDays duration.printed.items = duration.days.toNat ∧
      total Item.castNanos duration.printed.items = duration.nanos.toNat := by
  by_cases empty : duration.isEmpty = true
  · obtain ⟨⟨noMonths, noDays⟩, noNanos⟩ :
        (duration.months = 0 ∧ duration.days = 0) ∧ duration.nanos = 0 := by
      simpa [isEmpty] using empty
    rw [printed, if_pos empty, noMonths, noDays, noNanos]
    decide
  · obtain ⟨months, days⟩ := totals_printedDate empty
    have date : total Item.castNanos duration.printed.dateItems = 0 := by
      apply total_eq_zero
      intro item listed
      obtain ⟨digits, unit, rfl, early⟩ := DurationText.mem_dateItems listed
      exact nanos_of_date early
    have time : duration.printed.timeItems =
        designate
          (if 0 < duration.nanos then (printedTime duration.nanos.toNat).items else []) := by
      rw [DurationText.timeItems, printed, if_neg empty]
      split <;> rfl
    have timed : ∀ item ∈ duration.printed.timeItems, item.unit.isDate = false := by
      intro item listed
      obtain ⟨time, _, within, listedToo, same⟩ := DurationText.mem_timeItems listed
      obtain ⟨digits, unit, rfl, later⟩ := TimeText.mem_items listedToo
      rw [same]
      exact later
    have nanos : total Item.castNanos duration.printed.timeItems = duration.nanos.toNat := by
      rw [time, total_designate fun _ => rfl]
      split
      · exact total_printedTime _
      · next none_ =>
          rw [UInt64.lt_iff_toNat_lt, UInt64.toNat_zero] at none_
          exact (Nat.eq_zero_of_not_pos none_).symm
    have timeMonths := total_eq_zero fun item listed => (date_amounts_of_time (timed item listed)).1
    have timeDays := total_eq_zero fun item listed => (date_amounts_of_time (timed item listed)).2
    rw [DurationText.items, total_append, total_append, total_append, months, days, date, nanos,
      timeMonths, timeDays]
    exact ⟨rfl, rfl, Nat.zero_add _⟩

def Kept (item : Item) : Prop := item.number < 2 ^ 64 ∧ item.ScaleFits ∧ item.Uncut

theorem kept_ofNat {number : Nat} (bound : number < 2 ^ 64)
    (date : unit.isDate = true → number < 2 ^ 32) (other : unit ≠ .fraction) :
    Kept ((Digits.ofNat number).item unit) := by
  unfold Kept Item.ScaleFits Item.Uncut
  rw [number_item]
  exact ⟨bound, fun same => absurd same other, date, fun same => absurd same other⟩

theorem kept_positive {number : Nat} (bound : number < 2 ^ 64)
    (date : unit.isDate = true → number < 2 ^ 32) (other : unit ≠ .fraction) :
    ∀ item ∈ optionalItem unit (pos number), Kept item := by
  intro item listed
  obtain ⟨digits, found, rfl⟩ := mem_optionalItem.mp listed
  unfold pos at found
  split at found
  · cases found
    exact kept_ofNat bound date other
  · cases found

theorem kept_printedSeconds (bound : seconds < 2 ^ 64) (fits : nanos < 10 ^ 9) :
    ∀ item ∈ ((printedSeconds seconds nanos fits).map SecondsText.items).getD [], Kept item := by
  have fraction : Kept ((Digits.ofNanos nanos fits).item .fraction) := by
    have number : ((Digits.ofNanos nanos fits).item .fraction).number = nanos :=
      Digits.number_ofNanos fits
    have length : ((Digits.ofNanos nanos fits).item .fraction).digits.length = 9 :=
      Digits.length_ofNanos fits
    unfold Kept Item.ScaleFits Item.Uncut
    rw [number, length]
    refine ⟨by omega, fun _ => by decide, ?_, fun _ => .inr (by decide)⟩
    intro impossible
    cases impossible
  unfold printedSeconds
  split
  · intro item listed
    rw [List.mem_singleton.mp listed]
    exact kept_ofNat bound (fun impossible => by cases impossible) (by decide)
  · split
    · intro item listed
      rcases List.mem_cons.mp listed with rfl | last
      · exact kept_ofNat bound (fun impossible => by cases impossible) (by decide)
      · rw [List.mem_singleton.mp last]
        exact fraction
    · intro item listed
      cases listed

theorem kept_printedTime (bound : nanos < 2 ^ 64) :
    ∀ item ∈ (printedTime nanos).items, Kept item := by
  have hours : nanos / nanosPerHour < 2 ^ 64 := by
    unfold nanosPerHour nanosPerSec
    omega
  have minutes : nanos % nanosPerHour / nanosPerMinute < 2 ^ 64 := by
    unfold nanosPerHour nanosPerMinute nanosPerSec
    omega
  have seconds : nanos % nanosPerMinute / nanosPerSec < 2 ^ 64 := by
    unfold nanosPerMinute nanosPerSec
    omega
  have early : ∀ {unit : DurationUnit} {number : Nat}, unit.isDate = false →
      unit.isDate = true → number < 2 ^ 32 := by
    intro unit number later isDate
    rw [later] at isDate
    cases isDate
  intro item listed
  rcases List.mem_append.mp listed with clock | last
  · rcases List.mem_append.mp clock with first | second
    · exact kept_positive hours (early rfl) (by decide) item first
    · exact kept_positive minutes (early rfl) (by decide) item second
  · exact kept_printedSeconds seconds (mod_nanosPerSec_lt nanos) item last

theorem kept_printed (duration : Duration) : ∀ item ∈ duration.printed.items, Kept item := by
  have monthsBound := duration.months.toNat_lt
  have daysBound := duration.days.toNat_lt
  intro item listed
  by_cases empty : duration.isEmpty = true
  · rw [printed, if_pos empty] at listed
    rw [List.mem_singleton.mp listed]
    exact kept_ofNat (by decide) (fun _ => by decide) (by decide)
  · rw [printed, if_neg empty] at listed
    rcases List.mem_append.mp listed with date | time
    · simp only [DurationText.dateItems, List.mem_append] at date
      rcases date with ((years | months) | weeks) | days
      · have bound : duration.months.toNat / monthsPerYear < 2 ^ 32 := by
          unfold monthsPerYear
          omega
        exact kept_positive (by omega) (fun _ => bound) (by decide) item years
      · have bound : duration.months.toNat % monthsPerYear < 2 ^ 32 := by
          unfold monthsPerYear
          omega
        exact kept_positive (by omega) (fun _ => bound) (by decide) item months
      · cases weeks
      · exact kept_positive (by omega) (fun _ => daysBound) (by decide) item days
    · obtain ⟨time, found, timed, within, same⟩ := DurationText.mem_timeItems time
      have printedThere : time = printedTime duration.nanos.toNat := by
        simp only at found
        split at found
        · exact (Option.some.inj found).symm
        · cases found
      subst printedThere
      rw [same]
      exact kept_printedTime duration.nanos.toNat_lt timed within

theorem dangling_printed (duration : Duration) : duration.printed.dangling = [] := by
  by_cases empty : duration.isEmpty = true
  · rw [printed, if_pos empty]
    rfl
  · rw [printed, if_neg empty]
    by_cases some_ : 0 < duration.nanos
    · have nonempty : (printedTime duration.nanos.toNat).items ≠ [] := by
        intro nothing
        have sum := total_printedTime duration.nanos.toNat
        rw [nothing, total_nil] at sum
        rw [UInt64.lt_iff_toNat_lt, ← sum] at some_
        exact absurd some_ (Nat.lt_irrefl 0)
      simp only [if_pos some_, DurationText.dangling, if_neg nonempty]
    · simp only [if_neg some_, DurationText.dangling]

/-- What is printed of a duration is read back as the same duration, and no cast cuts a number. -/
theorem fromStr_display (duration : Duration) :
    fromStr (utf8Bytes (ofList duration.display)) = .ok duration ∧
      ∃ items, Opening (utf8Bytes (ofList duration.display)) items [] ∧
        ∀ item ∈ items, item.Uncut := by
  have kept := kept_printed duration
  obtain ⟨months, days, nanos⟩ := duration.totals_printed
  have opening :
      Opening (utf8Bytes (ofList duration.display)) duration.printed.items [] := by
    refine ⟨?_, duration.printed.chained_items, fun item listed => (kept item listed).1⟩
    rw [encode_display, DurationText.bytes_eq, dangling_printed]
  have fits : Fits 0 0 0 duration.printed.items := by
    refine ⟨?_, ?_, ?_, fun item listed => (kept item listed).2.1⟩
    · rw [months, Nat.zero_add]
      exact duration.months.toNat_lt
    · rw [days, Nat.zero_add]
      exact duration.days.toNat_lt
    · rw [nanos, Nat.zero_add]
      exact duration.nanos.toNat_lt
  have sums : duration = ofItems 0 0 0 duration.printed.items := by
    unfold ofItems
    rw [months, days, nanos]
    simp
  constructor
  · exact (accepted_iff _).mpr ⟨_, opening, fits, sums⟩
  · exact ⟨_, opening, fun item listed => (kept item listed).2.2⟩

example : fromStr (utf8Bytes "P1Y2M3DT4H5M6.000000007S") =
    .ok ⟨14, 3, 14706000000007⟩ := by decide +kernel

end Duration

end TypeDBDriver
