import TypeDBDriver.Concept.Display
import TypeDBDriver.Library.Regex

/-! What a regular expression for durations makes of the text of a duration, component by
component. -/

namespace TypeDBDriver.Duration

open Library Library.Regex

/-- No number of the text is followed by a sign. -/
def Plain (digit : Char → Bool) (text : Text) : Prop :=
  ∀ char, leading digit text = some char → char.isAlpha = true ∨ char = '.'

/-- An expression for integers that reads those of a printed duration. -/
structure IntegerReader (digit : Char → Bool) (integer : Regex) : Prop where
  decimal : ∀ char, char.isDigit = true → digit char = true
  letter : ∀ char, char.isAlpha = true ∨ char = '.' → digit char = false
  reads : ∀ text, Plain digit text → ReadsDigits digit integer text

def recorded (captures : Captures) (index amount : Nat) : Captures :=
  if 0 < amount then Function.update captures index (some (Nat.toDigits 10 amount)) else captures

def recordedSeconds (captures : Captures) (index fractionIndex seconds nanos : Nat) : Captures :=
  if 0 < nanos then
    Function.update (Function.update captures index (some (Nat.toDigits 10 seconds)))
      fractionIndex (some (zeroPadded 9 nanos))
  else recorded captures index seconds

def timeComponents (nanos : Nat) : Text :=
  component (nanos / nanosPerHour) 'H' ++ component (nanos % nanosPerHour / nanosPerMinute) 'M' ++
    secondsText (nanos % nanosPerMinute / nanosPerSec) (nanos % nanosPerSec)

def timeCaptures (captures : Captures) (nanos : Nat) : Captures :=
  recordedSeconds
    (recorded (recorded captures 4 (nanos / nanosPerHour)) 5
      (nanos % nanosPerHour / nanosPerMinute)) 6 7
    (nanos % nanosPerMinute / nanosPerSec) (nanos % nanosPerSec)

theorem recorded_apply (captures : Captures) (index amount other : Nat) :
    recorded captures index amount other =
      if other = index ∧ 0 < amount then some (Nat.toDigits 10 amount) else captures other := by
  unfold recorded
  by_cases pos : 0 < amount
  · by_cases same : other = index
    · simp [pos, same]
    · simp [pos, same]
  · simp [pos]

variable {index amount : Nat} {other : Nat}

@[simp] theorem recorded_of_ne {captures : Captures} (apart : other ≠ index) :
    recorded captures index amount other = captures other := by
  rw [recorded_apply, if_neg (by simp [apart])]

variable {digit designator : Char → Bool} {integer : Regex} {rest : Text} {captures : Captures}
  {α : Type} {further : Text → Captures → Option α} {result : α}

theorem isDigit_toDigits : ∀ char ∈ Nat.toDigits 10 amount, char.isDigit = true :=
  fun _ listed => Nat.isDigit_of_mem_toDigits (by decide) (by decide) listed

def Follows (digit : Char → Bool) (letters : List Char) (text : Text) : Prop :=
  ∀ char, leading digit text = some char → char ∈ letters

theorem follows_nil : Follows digit [] [] := by
  intro char begins
  cases begins

variable {char : Char}

theorem isAlpha_bounds (alpha : char.isAlpha = true) :
    (65 ≤ char.toNat ∧ char.toNat ≤ 90) ∨ (97 ≤ char.toNat ∧ char.toNat ≤ 122) := by
  rcases (Bool.or_eq_true _ _).mp alpha with upper | lower
  · exact .inl (of_decide_eq_true upper)
  · have between : decide ('a'.val ≤ char.val) = true ∧ decide (char.val ≤ 'z'.val) = true :=
      Bool.and_eq_true_iff.mp lower
    exact .inr ⟨of_decide_eq_true between.1, of_decide_eq_true between.2⟩

theorem isAlpha_plain (alpha : char.isAlpha = true) : char.toNat < 128 ∧ char.isDigit = false := by
  have bounds := isAlpha_bounds alpha
  refine ⟨by omega, ?_⟩
  by_contra digit
  have between := Char.isDigit_iff_toNat.mp (Bool.eq_true_of_not_eq_false digit)
  have nine : '9'.toNat = 57 := rfl
  omega

theorem dateText_eq (duration : Duration) :
    duration.dateText = component (duration.months.toNat / monthsPerYear) 'Y' ++
      (component (duration.months.toNat % monthsPerYear) 'M' ++
        component duration.days.toNat 'D') := by
  unfold dateText
  split
  · rw [List.append_assoc]
  · next empty =>
      have none : duration.months.toNat = 0 ∧ duration.days.toNat = 0 := by
        simpa [UInt32.lt_iff_toNat_lt, not_or] using empty
      rw [none.1, none.2]
      rfl

variable {duration : Duration}

theorem timeText_eq (pos : duration.nanos ≠ 0) :
    duration.timeText = 'T' :: timeComponents duration.nanos.toNat := by
  have pos : 0 < duration.nanos := UInt64.pos_iff_ne_zero.mpr pos
  unfold timeText
  rw [if_pos pos]
  simp only [timeComponents, List.cons_append, List.append_assoc]

section

variable {char : Char} (letter : char.isDigit = false)

include letter

theorem not_mem_toDigits {amount : Nat} : char ∉ Nat.toDigits 10 amount := by
  intro listed
  rw [isDigit_toDigits char listed] at letter
  cases letter

theorem not_mem_component {amount : Nat} {designator : Char} (other : char ≠ designator) :
    char ∉ component amount designator := by
  unfold component
  split
  · simp [not_mem_toDigits letter, other]
  · exact List.not_mem_nil

theorem not_mem_dateText {duration : Duration} (other : char ∉ ['Y', 'M', 'D']) :
    char ∉ duration.dateText := by
  simp only [List.mem_cons, not_or] at other
  rw [dateText_eq, List.mem_append, List.mem_append, not_or, not_or]
  exact ⟨not_mem_component letter other.1, not_mem_component letter other.2.1,
    not_mem_component letter other.2.2.1⟩

theorem not_mem_secondsText {seconds nanos : Nat} (other : char ∉ ['.', 'S']) :
    char ∉ secondsText seconds nanos := by
  have padded : char ∉ zeroPadded 9 nanos := by
    intro listed
    rw [isDigit_zeroPadded listed] at letter
    cases letter
  simp only [List.mem_cons, not_or] at other
  unfold secondsText
  split
  · simp [not_mem_toDigits letter, other]
  · split
    · simp [not_mem_toDigits letter, padded, other]
    · exact List.not_mem_nil

theorem not_mem_timeComponents {nanos : Nat} (other : char ∉ ['H', 'M', '.', 'S']) :
    char ∉ timeComponents nanos := by
  have last : char ∉ ['.', 'S'] := fun listed =>
    other (List.mem_cons_of_mem _ (List.mem_cons_of_mem _ listed))
  simp only [List.mem_cons, not_or] at other
  rw [timeComponents, List.mem_append, List.mem_append, not_or, not_or]
  exact ⟨⟨not_mem_component letter other.1, not_mem_component letter other.2.1⟩,
    not_mem_secondsText letter last⟩

end

theorem component_eq_nil {designator : Char} (empty : component amount designator = []) :
    amount = 0 := by
  unfold component at empty
  split at empty
  · simp at empty
  · next zero => exact Nat.eq_zero_of_not_pos zero

variable {nanos : Nat} {seconds : Nat}

theorem secondsText_eq_nil (empty : secondsText seconds nanos = []) : seconds = 0 ∧ nanos = 0 := by
  unfold secondsText at empty
  split at empty
  · simp at empty
  · split at empty
    · simp at empty
    · omega

theorem timeComponents_ne_nil (pos : 0 < nanos) : timeComponents nanos ≠ [] := by
  intro empty
  simp only [timeComponents, List.append_eq_nil_iff] at empty
  have noHour := component_eq_nil empty.1.1
  have noMinute := component_eq_nil empty.1.2
  obtain ⟨noSecond, noNano⟩ := secondsText_eq_nil empty.2
  simp only [nanosPerHour, nanosPerMinute, nanosPerSec] at noHour noMinute noSecond noNano
  omega

theorem display_of_nanos (timed : duration.nanos ≠ 0) :
    duration.display = 'P' :: duration.dateText ++ 'T' :: timeComponents duration.nanos.toNat := by
  have nonempty : duration.isEmpty = false := by simp [isEmpty, timed]
  rw [display, nonempty, timeText_eq timed]
  simp

theorem display_of_date (dateOnly : duration.nanos = 0) (nonempty : duration.isEmpty = false) :
    duration.display = 'P' :: duration.dateText := by
  rw [display, nonempty, timeText, dateOnly]
  simp

theorem recordedSeconds_of_lt {fractionIndex : Nat} (before : other < index)
    (ordered : index < fractionIndex) :
    recordedSeconds captures index fractionIndex seconds nanos other = captures other := by
  unfold recordedSeconds
  split
  · rw [Function.update_of_ne (by omega), Function.update_of_ne (by omega)]
  · rw [recorded_of_ne (by omega)]

def Holds (captures : Captures) (index amount : Nat) : Prop :=
  captures index = some (Nat.toDigits 10 amount) ∨ amount = 0 ∧ captures index = none

theorem holds_recorded (amount : Nat) (fresh : captures index = none) :
    Holds (recorded captures index amount) index amount := by
  unfold Holds
  rw [recorded_apply]
  by_cases pos : 0 < amount
  · exact .inl (if_pos ⟨rfl, pos⟩)
  · exact .inr ⟨Nat.eq_zero_of_not_pos pos, by rw [if_neg (by simp [pos]), fresh]⟩

namespace Holds

variable {index amount : Nat}

section

variable (holds : Holds captures index amount)

include holds

theorem eq_zero (absent : (captures index).isSome = false) : amount = 0 := by
  rcases holds with written | ⟨zero, -⟩
  · rw [written] at absent
    cases absent
  · exact zero

theorem of_eq {other : Captures} (same : other index = captures index) :
    Holds other index amount := by
  unfold Holds at holds ⊢
  rwa [same]

theorem recorded {other : Nat} (added : Nat) (apart : index ≠ other) :
    Holds (recorded captures other added) index amount :=
  holds.of_eq (recorded_of_ne apart)

theorem timeCaptures (nanos : Nat) (before : index < 4) :
    Holds (timeCaptures captures nanos) index amount := by
  refine of_eq ?_ (recordedSeconds_of_lt (by omega) (by decide))
  exact (holds.recorded _ (by omega)).recorded _ (by omega)

end

end Holds

theorem holds_timeCaptures (fresh : ∀ index, 3 < index → captures index = none) (nanos : Nat) :
    Holds (timeCaptures captures nanos) 4 (nanos / nanosPerHour) ∧
    Holds (timeCaptures captures nanos) 5 (nanos % nanosPerHour / nanosPerMinute) ∧
    Holds (timeCaptures captures nanos) 6 (nanos % nanosPerMinute / nanosPerSec) := by
  have hour : Holds (recorded captures 4 (nanos / nanosPerHour)) 4 (nanos / nanosPerHour) :=
    holds_recorded _ (fresh 4 (by decide))
  refine ⟨?_, ?_, ?_⟩
  · exact (hour.recorded _ (by decide)).of_eq (recordedSeconds_of_lt (by decide) (by decide))
  · exact (holds_recorded _ (by simp [fresh])).of_eq
      (recordedSeconds_of_lt (by decide) (by decide))
  · unfold timeCaptures recordedSeconds
    split
    · exact .inl (by simp)
    · exact holds_recorded _ (by simp [fresh])

theorem timeCaptures_fraction (fresh : captures 7 = none) (nanos : Nat) :
    timeCaptures captures nanos 7 = if 0 < nanos % nanosPerSec then
      some (zeroPadded 9 (nanos % nanosPerSec)) else none := by
  unfold timeCaptures recordedSeconds
  split
  · rw [Function.update_self]
  · simp [fresh]

def skips (ignoreCase : Bool) (letter : Char) (letters : List Char) : Bool :=
  letters.all fun char => (char.isAlpha || char == '.') && !literal ignoreCase letter char

theorem skips_iff {ignoreCase : Bool} {letter : Char} {letters : List Char} :
    skips ignoreCase letter letters = true ↔ ∀ char ∈ letters,
      (char.isAlpha = true ∨ char = '.') ∧ literal ignoreCase letter char = false := by
  simp [skips]

namespace IntegerReader

theorem toDigits (reader : IntegerReader digit integer) (amount : Nat) :
    ∀ char ∈ Nat.toDigits 10 amount, digit char = true :=
  fun char listed => reader.decimal char (isDigit_toDigits char listed)

variable {letter : Char} {ignoreCase : Bool}

theorem digit_not_literal (reader : IntegerReader digit integer)
    (alpha : letter.isAlpha = true ∧ letter.toLower.isAlpha = true) (char : Char)
    (numeric : digit char = true) : literal ignoreCase letter char = false := by
  have notLetter : ∀ {other : Char}, other.isAlpha = true → char ≠ other := by
    intro other alpha same
    rw [same, reader.letter other (.inl alpha)] at numeric
    cases numeric
  simp [literal, notLetter alpha.1, notLetter alpha.2]

theorem follows_cons (reader : IntegerReader digit integer) (alpha : letter.isAlpha = true) :
    Follows digit [letter] (letter :: rest) := by
  intro char begins
  rw [leading, List.dropWhile_cons_of_neg (by simp [reader.letter letter (.inl alpha)]),
    List.head?_cons] at begins
  cases begins
  exact List.mem_cons_self

variable {letters : List Char}

theorem follows_component (reader : IntegerReader digit integer) (alpha : letter.isAlpha = true)
    (amount : Nat) (follows : Follows digit letters rest) :
    Follows digit (letter :: letters) (component amount letter ++ rest) := by
  intro char begins
  unfold component at begins
  split at begins
  · rw [List.append_assoc, List.singleton_append, leading_digits (reader.toDigits amount)
      (reader.letter letter (.inl alpha))] at begins
    cases begins
    exact List.mem_cons_self
  · exact List.mem_cons_of_mem _ (follows char begins)

theorem follows_secondsText (reader : IntegerReader digit integer) (seconds nanos : Nat) :
    Follows digit ['.', 'S'] (secondsText seconds nanos) := by
  have point : digit '.' = false := reader.letter '.' (.inr rfl)
  have second : digit 'S' = false := reader.letter 'S' (.inl (by decide))
  intro char begins
  unfold secondsText at begins
  split at begins
  · rw [leading_digits (reader.toDigits seconds) second] at begins
    cases begins
    simp
  · split at begins
    · rw [List.append_assoc, List.cons_append, leading_digits (reader.toDigits seconds) point]
        at begins
      cases begins
      simp
    · cases begins

theorem matchWith_component (reader : IntegerReader digit integer) {index : Nat} (ignoreCase : Bool)
    (amount : Nat) (alpha : letter.isAlpha = true ∧ letter.toLower.isAlpha = true)
    (follows : Follows digit letters rest) (others : skips ignoreCase letter letters = true)
    (found : further rest (recorded captures index amount) = some result) :
    (numbered integer index (literal ignoreCase letter)).matchWith
      (component amount letter ++ rest) captures further = some result := by
  have ended := reader.letter letter (.inl alpha.1)
  rw [skips_iff] at others
  unfold recorded at found
  by_cases written : 0 < amount
  · have whole : component amount letter ++ rest = Nat.toDigits 10 amount ++ letter :: rest := by
      rw [component, if_pos written, List.append_assoc, List.singleton_append]
    rw [if_pos written] at found
    rw [whole]
    refine matchWith_numbered_take (reader.reads _ ?_) (reader.toDigits amount)
      Nat.toDigits_ne_nil ended (by simp [literal]) found
    intro char begins
    rw [leading_digits (reader.toDigits amount) ended] at begins
    cases begins
    exact .inl alpha.1
  · rw [if_neg written] at found
    have plain : Plain digit rest := fun char begins => (others char (follows char begins)).1
    rw [component, if_neg written, List.nil_append,
      matchWith_numbered_skip (reader.reads rest plain) (reader.digit_not_literal alpha)
        fun char begins => (others char (follows char begins)).2]
    exact found

variable {point : Char → Bool} {least : Nat} {most : Option Nat}

theorem matchWith_seconds (reader : IntegerReader digit integer) {index fractionIndex : Nat}
    {seconds nanos : Nat} (marked : point '.' = true) (unmarked : point 'S' = false)
    (designated : designator 'S' = true) (enough : least ≤ 9)
    (few : ∀ bound, most = some bound → 9 ≤ bound) (fits : nanos < 10 ^ 9)
    (found : further [] (recordedSeconds captures index fractionIndex seconds nanos) =
      some result) :
    (fractional integer index point digit fractionIndex least most designator).matchWith
      (secondsText seconds nanos) captures further = some result := by
  have pointEnded : digit '.' = false := reader.letter '.' (.inr rfl)
  have ended : digit 'S' = false := reader.letter 'S' (.inl (by decide))
  have plain : Plain digit (secondsText seconds nanos) := by
    intro char begins
    have listed := reader.follows_secondsText seconds nanos char begins
    rcases List.mem_pair.mp listed with rfl | rfl
    · exact .inr rfl
    · exact .inl (by decide)
  have reads : ReadsDigits digit integer (secondsText seconds nanos) := reader.reads _ plain
  unfold recordedSeconds at found
  unfold secondsText at reads ⊢
  by_cases fraction : 0 < nanos
  · have length := length_zeroPadded (by decide : 0 < 9) fits
    rw [if_pos fraction] at found
    rw [if_neg (by omega), if_pos fraction, List.append_assoc] at reads ⊢
    refine matchWith_fractional_take reads (reader.toDigits seconds) Nat.toDigits_ne_nil pointEnded
      marked (fun char listed => reader.decimal char (isDigit_zeroPadded listed)) ended ?_ ?_
      designated found
    · rw [length]
      exact enough
    · intro bound same
      rw [length]
      exact few bound same
  · rw [if_neg fraction] at found
    unfold recorded at found
    by_cases whole : 0 < seconds
    · rw [if_pos whole] at found
      rw [if_pos ⟨whole, by omega⟩] at reads ⊢
      exact matchWith_fractional_whole reads (reader.toDigits seconds) Nat.toDigits_ne_nil ended
        unmarked designated found
    · rw [if_neg whole] at found
      rw [if_neg (by omega), if_neg fraction] at reads ⊢
      rw [matchWith_fractional_nil reads]
      exact found

theorem matchWith_timePattern (reader : IntegerReader digit integer) {nanos : Nat}
    (marked : point '.' = true) (unmarked : point 'S' = false) (enough : least ≤ 9)
    (few : ∀ bound, most = some bound → 9 ≤ bound)
    (found : further [] (timeCaptures captures nanos) = some result) :
    (timePattern ignoreCase integer point digit least most).matchWith (timeComponents nanos)
      captures further = some result := by
  have fits : nanos % nanosPerSec < 10 ^ 9 := Nat.mod_lt nanos (by decide)
  have seconds := reader.follows_secondsText (nanos % nanosPerMinute / nanosPerSec)
    (nanos % nanosPerSec)
  have minutes := reader.follows_component (by decide : 'M'.isAlpha = true)
    (nanos % nanosPerHour / nanosPerMinute) seconds
  rw [timePattern, timeComponents, List.append_assoc, matchWith_seq]
  refine reader.matchWith_component ignoreCase _ (by decide) minutes
    (by cases ignoreCase <;> decide) ?_
  refine reader.matchWith_component ignoreCase _ (by decide) seconds
    (by cases ignoreCase <;> decide) ?_
  exact reader.matchWith_seconds marked unmarked (by simp [literal]) enough few fits found

end IntegerReader

end TypeDBDriver.Duration
