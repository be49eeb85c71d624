import Mathlib.Tactic.NormNum
import Mathlib.Tactic.Positivity
import TypeDBDriver.Concept.DurationParsing

/-! Texts as `Duration::from_str` divides them: the letter `P`, items that are each a number with
its unit, and what is left. The parser returns the sum of the items or refuses what is left, and it
panics where the sums leave their types or a number has a wide character after it. -/

namespace TypeDBDriver

open Library
open FixedWidth (addProduct checked checkedAdd checkedSub)
open Str (Valid byteAt isAsciiDigit valid_append_iff)
open Outcome (okOr ok_bind panicked_bind)

/-- The point after a number of seconds is a unit of its own: the whole seconds before it. -/
inductive DurationUnit where
  | years
  | months
  | weeks
  | days
  | hours
  | minutes
  | wholeSeconds
  | seconds
  | fraction
  deriving DecidableEq, Repr

namespace DurationUnit

def letter : DurationUnit → Char
  | years => 'Y'
  | months => 'M'
  | weeks => 'W'
  | days => 'D'
  | hours => 'H'
  | minutes => 'M'
  | wholeSeconds => '.'
  | seconds => 'S'
  | fraction => 'S'

def symbol (unit : DurationUnit) : UInt8 := unit.letter.toUInt8

/-- The unit of a symbol depends on two facts about what comes before it. -/
def read (parsingTime afterPoint : Bool) (symbol : UInt8) : Option DurationUnit :=
  match Char.ofUInt8 symbol, parsingTime, afterPoint with
  | 'Y', _, false => some years
  | 'M', false, false => some months
  | 'W', _, false => some weeks
  | 'D', _, false => some days
  | 'H', _, false => some hours
  | 'M', true, false => some minutes
  | '.', _, false => some wholeSeconds
  | 'S', _, false => some seconds
  | 'S', _, true => some fraction
  | _, _, _ => none

variable {unit : DurationUnit}

theorem ofUInt8_eq_letter_iff {byte : UInt8} :
    Char.ofUInt8 byte = unit.letter ↔ byte = unit.symbol := by
  apply Str.ofUInt8_eq_iff
  cases unit <;> decide

/-- The unit may stand here: `M` is for months before a `T` and for minutes after it, and only a
fraction follows a point. -/
def Follows (parsingTime afterPoint : Bool) (unit : DurationUnit) : Prop :=
  (afterPoint = true ↔ unit = fraction) ∧ (unit = months → parsingTime = false) ∧
    (unit = minutes → parsingTime = true)

instance (parsingTime afterPoint : Bool) (unit : DurationUnit) :
    Decidable (unit.Follows parsingTime afterPoint) := by
  unfold Follows; infer_instance

theorem read_eq_some_iff {parsingTime afterPoint : Bool} {symbol : UInt8} :
    read parsingTime afterPoint symbol = some unit ↔
      symbol = unit.symbol ∧ unit.Follows parsingTime afterPoint := by
  rw [← ofUInt8_eq_letter_iff]
  constructor
  · intro known
    unfold read at known
    split at known
    all_goals cases known
    all_goals next found => exact ⟨found, by simp [Follows]⟩
  · rintro ⟨found, point, date, time⟩
    unfold read
    rw [found]
    cases unit <;> cases parsingTime <;> cases afterPoint <;> simp_all [letter]

def isDate : DurationUnit → Bool
  | years | months | weeks | days => true
  | hours | minutes | wholeSeconds | seconds | fraction => false

end DurationUnit

/-- A number with its unit, and whether the designator `T` stands before it. -/
structure Item where
  marked : Bool
  digits : Str
  unit : DurationUnit
  deriving DecidableEq, Repr

namespace Item

def number (item : Item) : Nat := Str.number item.digits

def exactMonths (item : Item) : Nat :=
  match item.unit with
  | .years => item.number * Duration.monthsPerYear
  | .months => item.number
  | _ => 0

def exactDays (item : Item) : Nat :=
  match item.unit with
  | .weeks => item.number * Duration.daysPerWeek
  | .days => item.number
  | _ => 0

def exactNanos (item : Item) : Rat :=
  match item.unit with
  | .hours => item.number * Duration.nanosPerHour
  | .minutes => item.number * Duration.nanosPerMinute
  | .wholeSeconds | .seconds => item.number * Duration.nanosPerSec
  | .fraction => item.number * Duration.nanosPerSec / 10 ^ item.digits.length
  | _ => 0

def castMonths (item : Item) : Nat :=
  match item.unit with
  | .years => item.number % 2 ^ 32 * Duration.monthsPerYear
  | .months => item.number % 2 ^ 32
  | _ => 0

def castDays (item : Item) : Nat :=
  match item.unit with
  | .weeks => item.number % 2 ^ 32 * Duration.daysPerWeek
  | .days => item.number % 2 ^ 32
  | _ => 0

def castNanos (item : Item) : Nat :=
  match item.unit with
  | .hours => item.number * Duration.nanosPerHour
  | .minutes => item.number * Duration.nanosPerMinute
  | .wholeSeconds | .seconds => item.number * Duration.nanosPerSec
  | .fraction => item.number * 10 ^ (9 - item.digits.length % 2 ^ 32)
  | _ => 0

/-- `9 - number_len as u32` does not go below zero. -/
def ScaleFits (item : Item) : Prop := item.unit = .fraction → item.digits.length % 2 ^ 32 ≤ 9

instance (item : Item) : Decidable item.ScaleFits := by unfold ScaleFits; infer_instance

/-- The casts lose nothing that counts. -/
def Uncut (item : Item) : Prop :=
  (item.unit.isDate = true → item.number < 2 ^ 32) ∧
    (item.unit = .fraction → item.number = 0 ∨ item.digits.length < 2 ^ 32)

end Item

def total {α : Type} [Zero α] [Add α] (amount : Item → α) : List Item → α
  | [] => 0
  | item :: rest => amount item + total amount rest

@[simp] theorem total_nil {α : Type} [Zero α] [Add α] (amount : Item → α) : total amount [] = 0 :=
  rfl

@[simp] theorem total_cons {α : Type} [Zero α] [Add α] (amount : Item → α) (item : Item)
    (rest : List Item) : total amount (item :: rest) = amount item + total amount rest :=
  rfl

structure IsNumber (digits : Str) (symbol : UInt8) (tail : Str) : Prop where
  numeric : ∀ byte ∈ digits, isAsciiDigit byte = true
  stops : tail = [] ∨ isAsciiDigit symbol = false

variable {tail : Str} {digits : Str} {symbol : UInt8}

theorem IsNumber.digitsBeforeLast_eq (number : IsNumber digits symbol tail) :
    digitsBeforeLast (digits ++ symbol :: tail) = digits.length := by
  obtain ⟨numeric, stops⟩ := number
  induction digits with
  | nil =>
    cases tail with
    | nil => rfl
    | cons next tail =>
      have other : isAsciiDigit symbol = false := by simpa using stops
      simp [digitsBeforeLast, other]
  | cons byte digits ih =>
    have digit := numeric byte List.mem_cons_self
    have rest := ih fun byte listed => numeric byte (List.mem_cons_of_mem _ listed)
    cases digits with
    | nil => simpa [digitsBeforeLast, digit] using rest
    | cons next digits => simpa [digitsBeforeLast, digit] using rest

variable {str : Str}

theorem exists_isNumber (some_ : str ≠ []) :
    ∃ digits symbol tail, str = digits ++ symbol :: tail ∧ IsNumber digits symbol tail := by
  induction str with
  | nil => exact absurd rfl some_
  | cons byte rest ih =>
    by_cases goesOn : rest ≠ [] ∧ isAsciiDigit byte = true
    · obtain ⟨digits, symbol, tail, rfl, number⟩ := ih goesOn.1
      refine ⟨byte :: digits, symbol, tail, rfl, ?_, number.stops⟩
      intro other listed
      rcases List.mem_cons.mp listed with rfl | later
      · exact goesOn.2
      · exact number.numeric other later
    · refine ⟨[], byte, rest, rfl, ⟨by simp, ?_⟩⟩
      by_cases last : rest = []
      · exact .inl last
      · exact .inr (by simpa [last] using goesOn)

theorem readU32_append (number : IsNumber digits symbol tail) (some_ : digits ≠ [])
    (valid : Valid (symbol :: tail)) :
    readU32 (digits ++ symbol :: tail) =
      if Str.number digits < 2 ^ 64 then
        if symbol.toNat < 128 then .ok (⟨.ofNat (Str.number digits), symbol, digits.length⟩, tail)
        else .panicked
      else .error {} := by
  have position : digits.length ≠ 0 := by simpa using some_
  have after : (Str.sliceFrom (digits ++ symbol :: tail) (digits.length + 1) :
      Outcome DurationParseError Str) = if symbol.toNat < 128 then .ok tail else .panicked := by
    have split := @Str.sliceFrom_append DurationParseError (digits ++ [symbol]) tail (by simp)
    rw [List.append_assoc, List.length_append] at split
    refine split.trans ?_
    rcases valid.cases with ⟨ascii, rest⟩ | ⟨lead, inside⟩
    · rw [if_pos rest.beginsCharacter, if_pos ascii]
    · rw [inside, if_neg (by omega : ¬ symbol.toNat < 128)]
      rfl
  simp only [readU32, number.digitsBeforeLast_eq, if_neg position, Str.sliceTo_append some_,
    Str.byteAt_append, after, valid.beginsCharacter, if_true, ok_bind, Str.parseU64]
  split
  · simp only [okOr, ok_bind]
    split <;> rfl
  · rfl

namespace DurationUnit

theorem isAsciiDigit_symbol (unit : DurationUnit) : isAsciiDigit unit.symbol = false := by
  cases unit <;> decide

theorem symbol_lt (unit : DurationUnit) : unit.symbol.toNat < 128 := by
  cases unit <;> decide

theorem symbol_beq_point (unit : DurationUnit) :
    (some unit.symbol == some '.'.toUInt8) = (unit == .wholeSeconds) := by
  cases unit <;> decide

end DurationUnit

def designator (marked : Bool) : Str := if marked then ['T'.toUInt8] else []

@[simp] theorem designator_false : designator false = [] := rfl

@[simp] theorem designator_true : designator true = ['T'.toUInt8] := rfl

theorem designator_append_lt (marked : Bool) (numeric : ∀ byte ∈ digits, isAsciiDigit byte = true) :
    ∀ byte ∈ designator marked ++ digits, byte.toNat < 128 := by
  intro byte listed
  rcases List.mem_append.mp listed with mark | digit
  · cases marked with
    | false => cases mark
    | true =>
      rw [List.mem_singleton.mp mark]
      decide
  · exact Str.toNat_lt_of_isAsciiDigit (numeric byte digit)

namespace Item

def text (item : Item) : Str := designator item.marked ++ item.digits ++ [item.unit.symbol]

structure Written (item : Item) : Prop where
  some_ : item.digits ≠ []
  numeric : ∀ byte ∈ item.digits, isAsciiDigit byte = true

variable {item : Item}

theorem Written.isNumber (written : item.Written) (tail : Str) :
    IsNumber item.digits item.unit.symbol tail :=
  ⟨written.numeric, .inr item.unit.isAsciiDigit_symbol⟩

theorem text_append (item : Item) (tail : Str) :
    item.text ++ tail =
      designator item.marked ++ (item.digits ++ item.unit.symbol :: tail) := by
  simp [text]

theorem Written.text_lt (written : item.Written) : ∀ byte ∈ item.text, byte.toNat < 128 := by
  intro byte listed
  rcases List.mem_append.mp listed with number | last
  · exact designator_append_lt item.marked written.numeric byte number
  · rw [List.mem_singleton.mp last]
    exact item.unit.symbol_lt

end Item

namespace Duration

namespace Parsing

def Holds (parsing : Parsing) (item : Item) : Prop :=
  parsing.months.toNat + item.castMonths < 2 ^ 32 ∧ parsing.days.toNat + item.castDays < 2 ^ 32 ∧
    parsing.nanos.toNat + item.castNanos < 2 ^ 64 ∧ item.ScaleFits

instance (parsing : Parsing) (item : Item) : Decidable (parsing.Holds item) := by
  unfold Holds; infer_instance

def advance (parsing : Parsing) (item : Item) : Parsing where
  months := .ofNat (parsing.months.toNat + item.castMonths)
  days := .ofNat (parsing.days.toNat + item.castDays)
  nanos := .ofNat (parsing.nanos.toNat + item.castNanos)
  parsingTime := parsing.parsingTime || item.marked
  previousSymbol := some item.unit.symbol

end Parsing

theorem toNat_scale (length : Nat) :
    (UInt64.ofNat (10 ^ (9 - length))).toNat = 10 ^ (9 - length) := by
  apply UInt64.toNat_ofNat_of_lt'
  have power : 10 ^ (9 - length) ≤ 10 ^ 9 := Nat.pow_le_pow_right (by decide) (by omega)
  change _ < 2 ^ 64
  omega

theorem fractionUnit_eq (numberLen : Nat) :
    fractionUnit numberLen =
      if numberLen % 2 ^ 32 ≤ 9 then .ok (.ofNat (10 ^ (9 - numberLen % 2 ^ 32)))
      else .panicked := by
  have length : (UInt32.ofNat numberLen).toNat = numberLen % 2 ^ 32 := UInt32.toNat_ofNat'
  have nine : (9 : UInt32).toNat = 9 := rfl
  unfold fractionUnit
  split
  · next short =>
      have small : 9 - numberLen % 2 ^ 32 < UInt32.size := by
        change _ < 2 ^ 32
        omega
      have exp : (checkedSub (9 : UInt32) (UInt32.ofNat numberLen) :
          Outcome DurationParseError UInt32) = .ok (.ofNat (9 - numberLen % 2 ^ 32)) := by
        rw [FixedWidth.checkedSub_eq_ok_iff, FixedWidth.toInt_uint32, FixedWidth.toInt_uint32,
          FixedWidth.toInt_uint32, length, nine, UInt32.toNat_ofNat_of_lt' small]
        omega
      rw [exp, ok_bind, UInt32.toNat_ofNat_of_lt' small,
        FixedWidth.checked_eq_ok_iff, FixedWidth.toInt_uint64, toNat_scale]
      exact Int.natCast_pow 10 _
  · next long =>
      have below : (checkedSub (9 : UInt32) (UInt32.ofNat numberLen) :
          Outcome DurationParseError UInt32) = .panicked := by
        rw [checkedSub, FixedWidth.checked_eq_panicked_iff, FixedWidth.toInt_uint32,
          FixedWidth.toInt_uint32, length, nine]
        change ¬ ((0 : Int) ≤ _ ∧ _)
        omega
      rw [below, panicked_bind]

variable {segment : Segment} {parsing : Parsing} {item : Item}

theorem addAmount_eq (symbol : segment.symbol = item.unit.symbol)
    (follows : item.unit.Follows parsing.parsingTime (parsing.previousSymbol == some '.'.toUInt8))
    (number : segment.number.toNat = item.number)
    (length : segment.numberLen = item.digits.length) :
    addAmount parsing segment =
      if parsing.Holds item then
        .ok { parsing with
          months := .ofNat (parsing.months.toNat + item.castMonths)
          days := .ofNat (parsing.days.toNat + item.castDays)
          nanos := .ofNat (parsing.nanos.toNat + item.castNanos) }
      else .panicked := by
  have cut : segment.number.toUInt32.toNat = item.number % 2 ^ 32 := by
    rw [← number]
    exact UInt64.toNat_toUInt32 segment.number
  have dateUnits : (UInt32.ofNat monthsPerYear).toNat = monthsPerYear ∧
      (UInt32.ofNat daysPerWeek).toNat = daysPerWeek := ⟨rfl, rfl⟩
  have timeUnits : (UInt64.ofNat nanosPerHour).toNat = nanosPerHour ∧
      (UInt64.ofNat nanosPerMinute).toNat = nanosPerMinute ∧
      (UInt64.ofNat nanosPerSec).toNat = nanosPerSec := ⟨rfl, rfl, rfl⟩
  have months := parsing.months.toNat_lt
  have days := parsing.days.toNat_lt
  have nanos := parsing.nanos.toNat_lt
  rw [← DurationUnit.ofUInt8_eq_letter_iff] at symbol
  obtain ⟨point, date, time⟩ := follows
  obtain ⟨marked, digits, unit⟩ := item
  cases unit
  all_goals
    simp only [DurationUnit.letter] at symbol
    simp only [addAmount, symbol]
  case fraction =>
    simp only [point.mpr rfl, fractionUnit_eq, length]
    by_cases short : digits.length % 2 ^ 32 ≤ 9
    · rw [if_pos short, ok_bind, FixedWidth.addProduct_uint64, number, toNat_scale]
      simp only [Parsing.Holds, Item.castMonths, Item.castDays, Item.castNanos, Item.ScaleFits,
        Nat.add_zero, months, days, true_and, short, imp_true_iff, and_true, UInt32.ofNat_toNat]
      split <;> rfl
    · rw [if_neg short, panicked_bind, if_neg]
      exact fun holds => short (holds.2.2.2 rfl)
  -- only one of the three sums grows, and the other two are within their types already
  all_goals
    have elsewhere : (parsing.previousSymbol == some '.'.toUInt8) = false := by simpa using point
    try rw [date rfl]
    try rw [time rfl]
    simp only [elsewhere, FixedWidth.addProduct_uint64, FixedWidth.addProduct_uint32,
      FixedWidth.checkedAdd_uint32, number, cut, dateUnits, timeUnits, Parsing.Holds,
      Item.castMonths, Item.castDays, Item.castNanos, Item.ScaleFits, Nat.add_zero, months, days,
      nanos, UInt32.ofNat_toNat, UInt64.ofNat_toNat, reduceCtorEq, false_imp_iff, true_and,
      and_true]
    split <;> rfl

theorem addSegment_eq {marked : Bool}
    (symbol : segment.symbol = item.unit.symbol) (same : item.marked = marked)
    (follows : item.unit.Follows (parsing.parsingTime || marked)
      (parsing.previousSymbol == some '.'.toUInt8)) (number : segment.number.toNat = item.number)
    (length : segment.numberLen = item.digits.length) :
    addSegment { parsing with parsingTime := parsing.parsingTime || marked } segment =
      if parsing.Holds item then .ok (parsing.advance item) else .panicked := by
  have admitted : ¬ (parsing.previousSymbol = some '.'.toUInt8 ∧
      segment.symbol ≠ 'S'.toUInt8) := by
    rintro ⟨after, other⟩
    have fraction := follows.1.mp (by rw [after]; rfl)
    rw [fraction] at symbol
    exact other symbol
  subst same
  rw [addSegment, if_neg admitted, addAmount_eq symbol follows number length, symbol]
  split
  · next holds => exact (if_pos holds).symm
  · next exceeds => exact (if_neg exceeds).symm

theorem addSegment_eq_error (unknown : DurationUnit.read parsing.parsingTime
      (parsing.previousSymbol == some '.'.toUInt8) segment.symbol = none) :
    addSegment parsing segment = .error {} := by
  unfold addSegment
  unfold DurationUnit.read at unknown
  by_cases after : parsing.previousSymbol = some '.'.toUInt8
  · have other : segment.symbol ≠ 'S'.toUInt8 := by
      rintro same
      rw [after, same] at unknown
      cases parsing.parsingTime <;> cases unknown
    exact if_pos ⟨after, other⟩
  · have point : (parsing.previousSymbol == some '.'.toUInt8) = false := beq_false_of_ne after
    rw [point] at unknown
    rw [if_neg fun both => after both.1]
    simp only [addAmount, point]
    split <;> simp_all

theorem digits_head_ne (some_ : digits ≠ [])
    (numeric : ∀ byte ∈ digits, isAsciiDigit byte = true) (rest : Str) :
    (digits ++ rest).head? ≠ some 'T'.toUInt8 := by
  cases digits with
  | nil => exact absurd rfl some_
  | cons byte digits =>
    have digit := numeric byte List.mem_cons_self
    rintro ⟨⟩
    exact absurd digit (by decide)

theorem readDesignator_append (marked : Bool) {body : Str} (valid : Valid body)
    (other : marked = false → body ≠ [] ∧ body.head? ≠ some 'T'.toUInt8) :
    readDesignator parsing (designator marked ++ body) =
      .ok ({ parsing with parsingTime := parsing.parsingTime || marked }, body) := by
  cases marked with
  | false =>
    obtain ⟨some_, head⟩ := other rfl
    cases body with
    | nil => exact absurd rfl some_
    | cons first rest =>
      have different : first ≠ 'T'.toUInt8 := by simpa using head
      have byte : (byteAt (first :: rest) 0 : Outcome DurationParseError UInt8) = .ok first :=
        rfl
      rw [Bool.or_false]
      exact (congrArg (· >>= _) byte).trans (if_neg different)
  | true =>
    have sliced := @Str.sliceFrom_append DurationParseError ['T'.toUInt8] body (by simp)
    rw [List.singleton_append, List.length_singleton, if_pos valid.beginsCharacter] at sliced
    have byte : (byteAt ('T'.toUInt8 :: body) 0 : Outcome DurationParseError UInt8) =
        .ok 'T'.toUInt8 := rfl
    rw [Bool.or_true]
    change readDesignator parsing ('T'.toUInt8 :: body) = _
    rw [readDesignator, byte, ok_bind, if_pos rfl, sliced]
    rfl

theorem readSegment_append (marked : Bool) (number : IsNumber digits symbol tail)
    (some_ : digits ≠ []) (valid : Valid (symbol :: tail)) :
    readSegment parsing (designator marked ++ (digits ++ symbol :: tail)) =
      if Str.number digits < 2 ^ 64 then
        if symbol.toNat < 128 then
          addSegment { parsing with parsingTime := parsing.parsingTime || marked }
              ⟨.ofNat (Str.number digits), symbol, digits.length⟩ >>= fun next => .ok (next, tail)
        else .panicked
      else .error {} := by
  have whole : Valid (digits ++ symbol :: tail) :=
    (valid_append_iff (designator_append_lt false number.numeric)).mpr valid
  rw [readSegment, readDesignator_append marked whole
    fun _ => ⟨by simp, digits_head_ne some_ number.numeric _⟩]
  simp only [ok_bind, readU32_append number some_ valid]
  split
  · split <;> rfl
  · rfl

theorem readSegment_item (written : item.Written) (bounded : item.number < 2 ^ 64)
    (follows : item.unit.Follows (parsing.parsingTime || item.marked)
      (parsing.previousSymbol == some '.'.toUInt8)) (valid : Valid tail) :
    readSegment parsing (item.text ++ tail) =
      if parsing.Holds item then .ok (parsing.advance item, tail) else .panicked := by
  rw [Item.text_append, readSegment_append item.marked (written.isNumber tail) written.some_
      ((Str.valid_cons_iff item.unit.symbol_lt).mpr valid)]
  refine (if_pos bounded).trans ?_
  rw [if_pos item.unit.symbol_lt,
    addSegment_eq rfl rfl follows (UInt64.toNat_ofNat_of_lt' bounded) rfl]
  split <;> rfl

/-- A number is followed by a character that is not one byte. -/
def WideSymbol (str : Str) : Prop :=
  ∃ marked digits symbol tail, str = designator marked ++ (digits ++ symbol :: tail) ∧
    digits ≠ [] ∧ (∀ byte ∈ digits, isAsciiDigit byte = true) ∧
    Str.number digits < 2 ^ 64 ∧ 128 ≤ symbol.toNat

theorem WideSymbol.readSegment_eq (wide : WideSymbol str) (valid : Valid str) :
    readSegment parsing str = .panicked := by
  obtain ⟨marked, digits, symbol, tail, rfl, some_, numeric, bounded, wide⟩ := wide
  have stops : isAsciiDigit symbol = false := by
    rw [Bool.eq_false_iff]
    exact fun digit => absurd (Str.toNat_lt_of_isAsciiDigit digit) (Nat.not_lt.mpr wide)
  rw [← List.append_assoc, valid_append_iff (designator_append_lt marked numeric)] at valid
  rw [readSegment_append marked ⟨numeric, .inr stops⟩ some_ valid, if_pos bounded,
    if_neg (Nat.not_lt.mpr wide)]

/-- How a text goes on: with an item, with a panic or with an error. -/
theorem readSegment_cases (parsing : Parsing) (valid : Valid str) (some_ : str ≠ []) :
    (∃ (item : Item) (tail : Str), str = item.text ++ tail ∧ item.Written ∧ item.number < 2 ^ 64 ∧
      item.unit.Follows (parsing.parsingTime || item.marked)
        (parsing.previousSymbol == some '.'.toUInt8) ∧ Valid tail) ∨
    (WideSymbol str ∧ readSegment parsing str = .panicked) ∨
    readSegment parsing str = .error {} := by
  obtain ⟨marked, body, rfl, other⟩ : ∃ marked body, str = designator marked ++ body ∧
      (marked = false → body ≠ [] ∧ body.head? ≠ some 'T'.toUInt8) := by
    cases str with
    | nil => exact absurd rfl some_
    | cons first rest =>
      by_cases same : first = 'T'.toUInt8
      · exact ⟨true, rest, by rw [same]; rfl, by simp⟩
      · exact ⟨false, first :: rest, rfl, by simp [same]⟩
  have bodyValid : Valid body := by
    have ascii : ∀ byte ∈ designator marked, byte.toNat < 128 := by
      simpa using @designator_append_lt [] marked (by simp)
    exact (valid_append_iff ascii).mp valid
  have refused (none_ : readU32 body = .error {}) :
      readSegment parsing (designator marked ++ body) = .error {} := by
    rw [readSegment, readDesignator_append marked bodyValid other, ok_bind]
    simp only [none_]
    rfl
  by_cases empty : body = []
  · subst empty
    exact .inr (.inr (refused rfl))
  obtain ⟨digits, symbol, tail, rfl, number⟩ := exists_isNumber empty
  by_cases noDigits : digits = []
  · subst noDigits
    refine .inr (.inr (refused ?_))
    simp only [readU32, number.digitsBeforeLast_eq, List.length_nil, if_true]
  have symbolValid : Valid (symbol :: tail) :=
    (valid_append_iff (designator_append_lt false number.numeric)).mp bodyValid
  have segment := @readSegment_append _ _ _ parsing marked number noDigits symbolValid
  by_cases bounded : Str.number digits < 2 ^ 64
  · rw [if_pos bounded] at segment
    rcases symbolValid.cases with ⟨narrow, after⟩ | ⟨lead, _⟩
    · rw [if_pos narrow] at segment
      cases known : DurationUnit.read (parsing.parsingTime || marked)
          (parsing.previousSymbol == some '.'.toUInt8) symbol with
      | none =>
        rw [addSegment_eq_error known] at segment
        exact .inr (.inr segment)
      | some unit =>
        obtain ⟨rfl, follows⟩ := DurationUnit.read_eq_some_iff.mp known
        exact .inl ⟨⟨marked, digits, unit⟩, tail,
          (Item.text_append ⟨marked, digits, unit⟩ tail).symm,
          ⟨noDigits, number.numeric⟩, bounded, follows, after⟩
    · rw [if_neg (by omega : ¬ symbol.toNat < 128)] at segment
      exact .inr (.inl ⟨⟨marked, digits, symbol, tail, rfl, noDigits, number.numeric, bounded,
        by omega⟩, segment⟩)
  · rw [if_neg bounded] at segment
    exact .inr (.inr segment)

/-- Every item may follow the items before it. -/
def Chained (parsingTime afterPoint : Bool) : List Item → Prop
  | [] => True
  | item :: rest =>
    item.Written ∧ item.unit.Follows (parsingTime || item.marked) afterPoint ∧
      Chained (parsingTime || item.marked) (item.unit == .wholeSeconds) rest

variable {parsingTime afterPoint : Bool} {items : List Item} {rest : Str}

theorem Chained.written (chained : Chained parsingTime afterPoint items) :
    ∀ item ∈ items, item.Written := by
  induction items generalizing parsingTime afterPoint with
  | nil => simp
  | cons item rest ih =>
    rw [List.forall_mem_cons]
    exact ⟨chained.1, ih chained.2.2⟩

theorem Chained.valid_iff (chained : Chained parsingTime afterPoint items) :
    Valid (items.flatMap Item.text ++ rest) ↔ Valid rest := by
  apply valid_append_iff
  intro byte listed
  obtain ⟨item, listed, within⟩ := List.mem_flatMap.mp listed
  exact (chained.written item listed).text_lt byte within

theorem readSegments_cons (some_ : str ≠ []) :
    readSegments parsing str =
      readSegment parsing str >>= fun read => readSegments read.1 read.2 := by
  rw [readSegments, if_neg some_]
  split
  all_goals next found => rw [found]; rfl

def Fits (months days nanos : Nat) (items : List Item) : Prop :=
  months + total Item.castMonths items < 2 ^ 32 ∧ days + total Item.castDays items < 2 ^ 32 ∧
    nanos + total Item.castNanos items < 2 ^ 64 ∧ ∀ item ∈ items, item.ScaleFits

instance (months days nanos : Nat) (items : List Item) :
    Decidable (Fits months days nanos items) := by
  unfold Fits; infer_instance

theorem fits_cons_iff {months days nanos : Nat} {rest : List Item} :
    Fits months days nanos (item :: rest) ↔
      item.ScaleFits ∧ Fits (months + item.castMonths) (days + item.castDays)
        (nanos + item.castNanos) rest := by
  simp only [Fits, total_cons, List.forall_mem_cons, Nat.add_assoc]
  constructor
  · rintro ⟨monthsFit, daysFit, nanosFit, scale, others⟩
    exact ⟨scale, monthsFit, daysFit, nanosFit, others⟩
  · rintro ⟨scale, monthsFit, daysFit, nanosFit, others⟩
    exact ⟨monthsFit, daysFit, nanosFit, scale, others⟩

def ofItems (months days nanos : Nat) (items : List Item) : Duration where
  months := .ofNat (months + total Item.castMonths items)
  days := .ofNat (days + total Item.castDays items)
  nanos := .ofNat (nanos + total Item.castNanos items)

namespace Parsing

def Fits (parsing : Parsing) : List Item → Prop :=
  Duration.Fits parsing.months.toNat parsing.days.toNat parsing.nanos.toNat

def ofItems (parsing : Parsing) : List Item → Duration :=
  Duration.ofItems parsing.months.toNat parsing.days.toNat parsing.nanos.toNat

theorem fits_nil (parsing : Parsing) : parsing.Fits [] :=
  ⟨parsing.months.toNat_lt, parsing.days.toNat_lt, parsing.nanos.toNat_lt, by simp⟩

theorem Holds.advance_eq (holds : parsing.Holds item) :
    (parsing.advance item).months.toNat = parsing.months.toNat + item.castMonths ∧
      (parsing.advance item).days.toNat = parsing.days.toNat + item.castDays ∧
      (parsing.advance item).nanos.toNat = parsing.nanos.toNat + item.castNanos :=
  ⟨UInt32.toNat_ofNat_of_lt' holds.1, UInt32.toNat_ofNat_of_lt' holds.2.1,
    UInt64.toNat_ofNat_of_lt' holds.2.2.1⟩

theorem Holds.fits_cons_iff {rest : List Item} (holds : parsing.Holds item) :
    parsing.Fits (item :: rest) ↔ (parsing.advance item).Fits rest := by
  obtain ⟨months, days, nanos⟩ := holds.advance_eq
  rw [Fits, Fits, Duration.fits_cons_iff, months, days, nanos]
  exact and_iff_right holds.2.2.2

theorem Holds.ofItems_cons {rest : List Item} (holds : parsing.Holds item) :
    parsing.ofItems (item :: rest) = (parsing.advance item).ofItems rest := by
  obtain ⟨months, days, nanos⟩ := holds.advance_eq
  simp only [ofItems, Duration.ofItems, total_cons, months, days, nanos, Nat.add_assoc]

theorem holds_of_fits {rest : List Item} (fits : parsing.Fits (item :: rest)) :
    parsing.Holds item := by
  obtain ⟨scale, monthsFit, daysFit, nanosFit, _⟩ := Duration.fits_cons_iff.mp fits
  exact ⟨by omega, by omega, by omega, scale⟩

end Parsing

theorem Chained.readSegments_cons_eq
    (chained : Chained parsing.parsingTime (parsing.previousSymbol == some '.'.toUInt8)
      (item :: items)) (bounded : item.number < 2 ^ 64) (valid : Valid rest) :
    readSegments parsing ((item :: items).flatMap Item.text ++ rest) =
      if parsing.Holds item then
        readSegments (parsing.advance item) (items.flatMap Item.text ++ rest)
      else .panicked := by
  obtain ⟨written, follows, others⟩ := chained
  have some_ : item.text ++ (items.flatMap Item.text ++ rest) ≠ [] := by simp [Item.text]
  rw [List.flatMap_cons, List.append_assoc, readSegments_cons some_,
    readSegment_item written bounded follows (others.valid_iff.mpr valid)]
  split <;> rfl

/-- The parser adds up the items at the beginning of a text and goes on behind them. -/
theorem Chained.readSegments_of_fits
    (chained : Chained parsing.parsingTime (parsing.previousSymbol == some '.'.toUInt8) items)
    (bounded : ∀ item ∈ items, item.number < 2 ^ 64) (fits : parsing.Fits items)
    (valid : Valid rest) :
    ∃ last : Parsing, last.ofItems [] = parsing.ofItems items ∧
      readSegments parsing (items.flatMap Item.text ++ rest) = readSegments last rest := by
  induction items generalizing parsing with
  | nil => exact ⟨parsing, rfl, rfl⟩
  | cons item items ih =>
    rw [List.forall_mem_cons] at bounded
    have holds := Parsing.holds_of_fits fits
    have others := chained.2.2
    rw [← DurationUnit.symbol_beq_point] at others
    obtain ⟨last, sums, goesOn⟩ :=
      @ih (parsing.advance item) others bounded.2 (holds.fits_cons_iff.mp fits)
    refine ⟨last, sums.trans holds.ofItems_cons.symm, ?_⟩
    rw [chained.readSegments_cons_eq bounded.1 valid, if_pos holds, goesOn]

theorem Chained.readSegments_of_not_fits
    (chained : Chained parsing.parsingTime (parsing.previousSymbol == some '.'.toUInt8) items)
    (bounded : ∀ item ∈ items, item.number < 2 ^ 64) (exceeds : ¬ parsing.Fits items)
    (valid : Valid rest) : readSegments parsing (items.flatMap Item.text ++ rest) = .panicked := by
  induction items generalizing parsing with
  | nil => exact absurd parsing.fits_nil exceeds
  | cons item items ih =>
    rw [List.forall_mem_cons] at bounded
    rw [chained.readSegments_cons_eq bounded.1 valid]
    split
    · next holds =>
        have others := chained.2.2
        rw [← DurationUnit.symbol_beq_point] at others
        rw [holds.fits_cons_iff] at exceeds
        exact @ih (parsing.advance item) others bounded.2 exceeds
    · rfl

theorem WideSymbol.readSegments_eq (wide : WideSymbol rest) (valid : Valid rest) :
    readSegments parsing rest = .panicked := by
  have some_ : rest ≠ [] := by
    rintro rfl
    obtain ⟨_, _, _, _, impossible, _⟩ := wide
    simp at impossible
  rw [readSegments_cons some_, wide.readSegment_eq valid, panicked_bind]

theorem readSegments_cases (parsing : Parsing) (valid : Valid str) :
    ∃ items rest, str = items.flatMap Item.text ++ rest ∧
      Chained parsing.parsingTime (parsing.previousSymbol == some '.'.toUInt8) items ∧
      (∀ item ∈ items, item.number < 2 ^ 64) ∧
      ((rest = [] ∧ parsing.Fits items) ∨
        (¬ parsing.Fits items ∨ WideSymbol rest) ∨ readSegments parsing str = .error {}) := by
  induction length : str.length using Nat.strongRecOn generalizing parsing str with
  | ind size ih =>
  by_cases empty : str = []
  · exact ⟨[], [], empty, trivial, by simp, .inl ⟨rfl, parsing.fits_nil⟩⟩
  rcases readSegment_cases parsing valid empty with
    ⟨item, tail, rfl, written, bounded, follows, tailValid⟩ | ⟨wide, _⟩ | refused
  · have segment := readSegment_item written bounded follows tailValid
    by_cases holds : parsing.Holds item
    · have shorter : tail.length < size := by
        rw [← length, List.length_append, Item.text, List.length_append]
        exact Nat.lt_add_of_pos_left (by simp)
      obtain ⟨items, rest, shape, chained, boundedToo, ending⟩ :=
        ih _ shorter (parsing.advance item) tailValid rfl
      rw [show (parsing.advance item).previousSymbol = some item.unit.symbol from rfl,
        DurationUnit.symbol_beq_point] at chained
      refine ⟨item :: items, rest, ?_, ⟨written, follows, chained⟩, ?_, ?_⟩
      · rw [List.flatMap_cons, List.append_assoc, ← shape]
      · exact List.forall_mem_cons.mpr ⟨bounded, boundedToo⟩
      · rw [holds.fits_cons_iff, readSegments_cons empty, segment, if_pos holds]
        exact ending
    · refine ⟨[item], tail, by simp, ⟨written, follows, trivial⟩, by simpa using bounded, ?_⟩
      exact .inr (.inl (.inl fun fits => holds (Parsing.holds_of_fits fits)))
  · exact ⟨[], str, rfl, trivial, by simp, .inr (.inl (.inr wide))⟩
  · refine ⟨[], str, rfl, trivial, by simp, .inr (.inr ?_)⟩
    rw [readSegments_cons empty, refused]
    rfl

/-- How a text begins: the letter `P` and items, with the rest behind them. -/
structure Opening (str : Str) (items : List Item) (rest : Str) : Prop where
  text : str = 'P'.toUInt8 :: (items.flatMap Item.text ++ rest)
  chained : Chained false false items
  bounded : ∀ item ∈ items, item.number < 2 ^ 64

theorem fromStr_cons (valid : Valid str) : fromStr ('P'.toUInt8 :: str) = readSegments {} str := by
  have byte : (byteAt ('P'.toUInt8 :: str) 0 : Outcome DurationParseError UInt8) =
      .ok 'P'.toUInt8 := rfl
  have sliced := @Str.sliceFrom_append DurationParseError ['P'.toUInt8] str (by simp)
  rw [List.singleton_append, List.length_singleton, if_pos valid.beginsCharacter] at sliced
  rw [fromStr, byte, ok_bind, if_neg (not_not.mpr rfl), sliced, ok_bind]

namespace Opening

theorem valid (opening : Opening str items rest) (whole : Valid str) : Valid rest := by
  rw [opening.text, Str.valid_cons_iff (by decide)] at whole
  exact opening.chained.valid_iff.mp whole

theorem fromStr_eq (opening : Opening str items rest) (whole : Valid str) :
    fromStr str = readSegments {} (items.flatMap Item.text ++ rest) := by
  rw [opening.text]
  exact fromStr_cons (opening.chained.valid_iff.mpr (opening.valid whole))

theorem fromStr_of_fits (opening : Opening str items []) (whole : Valid str)
    (fits : Fits 0 0 0 items) : fromStr str = .ok (ofItems 0 0 0 items) := by
  obtain ⟨last, sums, goesOn⟩ := @Chained.readSegments_of_fits {} items [] opening.chained
    opening.bounded fits (opening.valid whole)
  rw [opening.fromStr_eq whole, goesOn, readSegments, if_pos rfl]
  refine congrArg _ (Eq.trans ?_ sums)
  simp [Parsing.ofItems, ofItems]

theorem fromStr_of_fails (opening : Opening str items rest) (whole : Valid str)
    (fails : ¬ Fits 0 0 0 items ∨ WideSymbol rest) : fromStr str = .panicked := by
  have valid := opening.valid whole
  rw [opening.fromStr_eq whole]
  by_cases fits : Fits 0 0 0 items
  · obtain ⟨last, _, goesOn⟩ := @Chained.readSegments_of_fits {} items rest opening.chained
      opening.bounded fits valid
    rw [goesOn]
    exact (fails.resolve_left (not_not.mpr fits)).readSegments_eq valid
  · exact @Chained.readSegments_of_not_fits {} items rest opening.chained opening.bounded fits valid

end Opening

theorem fromStr_cases (whole : Valid str) (some_ : str ≠ []) :
    fromStr str = .error {} ∨ ∃ items rest, Opening str items rest ∧
      ((rest = [] ∧ Fits 0 0 0 items) ∨ ¬ Fits 0 0 0 items ∨ WideSymbol rest) := by
  cases str with
  | nil => exact absurd rfl some_
  | cons first str =>
    by_cases designated : first = 'P'.toUInt8
    · subst designated
      have valid := (Str.valid_cons_iff (by decide)).mp whole
      obtain ⟨items, rest, rfl, chained, bounded, ending⟩ := readSegments_cases {} valid
      have opening : Opening _ items rest := ⟨rfl, chained, bounded⟩
      rcases ending with ended | fails | refused
      · exact .inr ⟨items, rest, opening, .inl ended⟩
      · exact .inr ⟨items, rest, opening, .inr fails⟩
      · exact .inl ((fromStr_cons valid).trans refused)
    · have byte : (byteAt (first :: str) 0 : Outcome DurationParseError UInt8) = .ok first :=
        rfl
      left
      rw [fromStr, byte, ok_bind, if_pos designated]

variable {more : Str}

theorem digits_append_inj {first second : Str} {symbol other : UInt8}
    (numeric : ∀ byte ∈ first, isAsciiDigit byte = true)
    (numericToo : ∀ byte ∈ second, isAsciiDigit byte = true)
    (stops : isAsciiDigit symbol = false) (stopsToo : isAsciiDigit other = false)
    (same : first ++ symbol :: rest = second ++ other :: more) :
    first = second ∧ symbol = other ∧ rest = more := by
  induction first generalizing second with
  | nil =>
    cases second with
    | nil =>
      cases same
      exact ⟨rfl, rfl, rfl⟩
    | cons byte second =>
      cases same
      exact absurd (numericToo _ List.mem_cons_self) (by simp [stops])
  | cons byte first ih =>
    cases second with
    | nil =>
      cases same
      exact absurd (numeric _ List.mem_cons_self) (by simp [stopsToo])
    | cons next second =>
      rw [List.forall_mem_cons] at numeric numericToo
      rw [List.cons_append, List.cons_append, List.cons.injEq] at same
      obtain ⟨rfl, rfl, rfl⟩ := ih numeric.2 numericToo.2 same.2
      exact ⟨by rw [same.1], rfl, rfl⟩

theorem text_append_inj {first second : Item} (written : first.Written)
    (writtenToo : second.Written) (same : first.text ++ rest = second.text ++ more) :
    first.marked = second.marked ∧ first.digits = second.digits ∧
      first.unit.symbol = second.unit.symbol ∧ rest = more := by
  rw [Item.text_append, Item.text_append] at same
  have digits : first.digits ++ first.unit.symbol :: rest =
      second.digits ++ second.unit.symbol :: more →
      first.digits = second.digits ∧ first.unit.symbol = second.unit.symbol ∧ rest = more :=
    digits_append_inj written.numeric writtenToo.numeric first.unit.isAsciiDigit_symbol
      second.unit.isAsciiDigit_symbol
  cases marked : first.marked <;> cases markedToo : second.marked
  all_goals simp only [marked, markedToo, designator_false, designator_true, List.nil_append,
    List.singleton_append] at same
  · exact ⟨rfl, digits same⟩
  · exact absurd (congrArg List.head? same) (digits_head_ne written.some_ written.numeric _)
  · exact absurd (congrArg List.head? same).symm
      (digits_head_ne writtenToo.some_ writtenToo.numeric _)
  · exact ⟨rfl, digits (List.cons.inj same).2⟩

/-- The items of a text are determined by it: those of a beginning are the first of the whole. -/
theorem Chained.prefix_of_text {leading : List Item}
    (chained : Chained parsingTime afterPoint items)
    (chainedToo : Chained parsingTime afterPoint leading)
    (same : items.flatMap Item.text = leading.flatMap Item.text ++ rest) :
    ∃ others, items = leading ++ others ∧ others.flatMap Item.text = rest := by
  induction leading generalizing items parsingTime afterPoint with
  | nil => exact ⟨items, rfl, same⟩
  | cons second leading ih =>
    cases items with
    | nil => simp [Item.text] at same
    | cons first items =>
      rw [List.flatMap_cons, List.flatMap_cons, List.append_assoc] at same
      obtain ⟨marked, digits, symbol, remaining⟩ :=
        text_append_inj chained.1 chainedToo.1 same
      have unit : first.unit = second.unit := by
        have known := DurationUnit.read_eq_some_iff.mpr ⟨symbol.symm, chained.2.1⟩
        rw [marked, DurationUnit.read_eq_some_iff.mpr ⟨rfl, chainedToo.2.1⟩] at known
        exact (Option.some.inj known).symm
      obtain rfl : first = second := by
        cases first
        cases second
        simp_all
      obtain ⟨others, rfl, rest_⟩ := ih chained.2.2 chainedToo.2.2 remaining
      exact ⟨others, rfl, rest_⟩

theorem Opening.unique {others : List Item} (opening : Opening str items [])
    (openingToo : Opening str others []) : items = others := by
  have same := (List.cons.inj (opening.text.symm.trans openingToo.text)).2
  rw [List.append_nil] at same
  obtain ⟨added, rfl, nothing⟩ := opening.chained.prefix_of_text openingToo.chained same
  cases added with
  | nil => exact List.append_nil _
  | cons item rest => simp [Item.text] at nothing

end Duration

section Totals

variable {α : Type} [AddCommMonoid α] [PartialOrder α] [IsOrderedCancelAddMonoid α]
  {first second : Item → α}

variable {items : List Item}

theorem total_le_total (each : ∀ item ∈ items, first item ≤ second item) :
    total first items ≤ total second items := by
  induction items with
  | nil => exact le_refl _
  | cons item rest ih =>
    rw [List.forall_mem_cons] at each
    exact add_le_add each.1 (ih each.2)

theorem total_eq_total_iff (each : ∀ item ∈ items, first item ≤ second item) :
    total first items = total second items ↔ ∀ item ∈ items, first item = second item := by
  induction items with
  | nil => simp
  | cons item rest ih =>
    rw [List.forall_mem_cons] at each ⊢
    rw [total_cons, total_cons, add_eq_add_iff_eq_and_eq each.1 (total_le_total each.2), ih each.2]

end Totals

theorem cast_total (amount : Item → Nat) (items : List Item) :
    ((total amount items : Nat) : Rat) = total (fun item => (amount item : Rat)) items := by
  induction items with
  | nil => rfl
  | cons item rest ih => rw [total_cons, total_cons, Nat.cast_add, ih]

namespace Item

theorem castMonths_le (item : Item) : item.castMonths ≤ item.exactMonths := by
  have cut := Nat.mod_le item.number (2 ^ 32)
  unfold castMonths exactMonths
  cases item.unit <;> simp only [Duration.monthsPerYear] <;> omega

theorem castDays_le (item : Item) : item.castDays ≤ item.exactDays := by
  have cut := Nat.mod_le item.number (2 ^ 32)
  unfold castDays exactDays
  cases item.unit <;> simp only [Duration.daysPerWeek] <;> omega

variable {item : Item}

theorem exactNanos_fraction (unit : item.unit = .fraction) :
    item.exactNanos = item.number * (10 ^ 9 / 10 ^ item.digits.length) ∧
      (item.castNanos : Rat) = item.number * 10 ^ (9 - item.digits.length % 2 ^ 32) := by
  constructor
  · simp only [exactNanos, unit, Duration.nanosPerSec, mul_div_assoc]
    norm_num
  · simp [castNanos, unit]

variable {length : Nat}

theorem scale_le (short : length % 2 ^ 32 ≤ 9) :
    (10 ^ 9 / 10 ^ length : Rat) ≤ 10 ^ (9 - length % 2 ^ 32) := by
  have pos : (0 : Rat) < 10 ^ length := by positivity
  rw [div_le_iff₀ pos, ← pow_add]
  apply pow_le_pow_right₀ (by norm_num)
  have cut := Nat.mod_le length (2 ^ 32)
  omega

theorem scale_eq_iff (short : length % 2 ^ 32 ≤ 9) :
    (10 ^ 9 / 10 ^ length : Rat) = 10 ^ (9 - length % 2 ^ 32) ↔ length < 2 ^ 32 := by
  have pos : (10 : Rat) ^ length ≠ 0 := by positivity
  rw [div_eq_iff pos, ← pow_add, pow_right_inj₀ (by norm_num) (by norm_num)]
  omega

theorem exactNanos_le (scale : item.ScaleFits) : item.exactNanos ≤ (item.castNanos : Rat) := by
  by_cases unit : item.unit = .fraction
  · obtain ⟨exact_, machine⟩ := exactNanos_fraction unit
    rw [exact_, machine]
    exact mul_le_mul_of_nonneg_left (scale_le (scale unit)) (by positivity)
  · apply le_of_eq
    unfold exactNanos castNanos
    cases shape : item.unit <;> simp_all

theorem uncut_iff (scale : item.ScaleFits) :
    item.Uncut ↔ item.castMonths = item.exactMonths ∧ item.castDays = item.exactDays ∧
      item.exactNanos = (item.castNanos : Rat) := by
  by_cases unit : item.unit = .fraction
  · obtain ⟨exact_, machine⟩ := exactNanos_fraction unit
    rw [exact_, machine, mul_eq_mul_left_iff, scale_eq_iff (scale unit)]
    simp [Uncut, castMonths, exactMonths, castDays, exactDays, unit, DurationUnit.isDate, or_comm]
  · unfold Uncut castMonths exactMonths castDays exactDays exactNanos castNanos
    cases shape : item.unit
    case fraction => exact absurd shape unit
    all_goals
      simp [DurationUnit.isDate, Duration.monthsPerYear, Duration.daysPerWeek]

end Item

namespace Duration

/-- The fields are the sums of what the items of the text stand for. -/
def IsSum (duration : Duration) (items : List Item) : Prop :=
  duration.months.toNat = total Item.exactMonths items ∧
    duration.days.toNat = total Item.exactDays items ∧
    (duration.nanos.toNat : Rat) = total Item.exactNanos items

theorem isSum_ofItems_iff {items : List Item} (fits : Fits 0 0 0 items) :
    IsSum (ofItems 0 0 0 items) items ↔ ∀ item ∈ items, item.Uncut := by
  obtain ⟨monthsFit, daysFit, nanosFit, scale⟩ := fits
  have months : (ofItems 0 0 0 items).months.toNat = total Item.castMonths items := by
    rw [ofItems, UInt32.toNat_ofNat_of_lt' monthsFit, Nat.zero_add]
  have days : (ofItems 0 0 0 items).days.toNat = total Item.castDays items := by
    rw [ofItems, UInt32.toNat_ofNat_of_lt' daysFit, Nat.zero_add]
  have nanos : (ofItems 0 0 0 items).nanos.toNat = total Item.castNanos items := by
    rw [ofItems, UInt64.toNat_ofNat_of_lt' nanosFit, Nat.zero_add]
  have nanosExact := total_eq_total_iff fun item listed => Item.exactNanos_le (scale item listed)
  rw [IsSum, months, days, nanos, cast_total, eq_comm (b := total Item.exactNanos items),
    nanosExact, total_eq_total_iff fun item _ => item.castMonths_le,
    total_eq_total_iff fun item _ => item.castDays_le]
  constructor
  · rintro ⟨sameMonths, sameDays, sameNanos⟩ item listed
    exact (Item.uncut_iff (scale item listed)).mpr
      ⟨sameMonths item listed, sameDays item listed, sameNanos item listed⟩
  · intro uncut
    have same := fun item listed => (Item.uncut_iff (scale item listed)).mp (uncut item listed)
    exact ⟨fun item listed => (same item listed).1, fun item listed => (same item listed).2.1,
      fun item listed => (same item listed).2.2⟩

theorem utf8Bytes_valid (text : String) : Valid (utf8Bytes text) :=
  ⟨text.toList, utf8Bytes_eq_flatMap text⟩

/-- The texts that the parser panics on: the empty one, and those whose first items leave a type or
have a number with a wide character behind them. -/
theorem fromStr_panicked_iff (text : String) :
    fromStr (utf8Bytes text) = .panicked ↔
      text = "" ∨ ∃ items rest, Opening (utf8Bytes text) items rest ∧
        (¬ Fits 0 0 0 items ∨ WideSymbol rest) := by
  have whole := utf8Bytes_valid text
  constructor
  · intro panicked
    by_cases empty : text = ""
    · exact .inl empty
    · right
      have some_ : utf8Bytes text ≠ [] := fun none_ => empty ((utf8Bytes_eq_nil_iff text).mp none_)
      rcases fromStr_cases whole some_ with refused | ⟨items, rest, opening, ending⟩
      · cases panicked.symm.trans refused
      · rcases ending with ⟨rfl, fits⟩ | fails
        · cases panicked.symm.trans (opening.fromStr_of_fits whole fits)
        · exact ⟨items, rest, opening, fails⟩
  · rintro (rfl | ⟨items, rest, opening, fails⟩)
    · rfl
    · exact opening.fromStr_of_fails whole fails

theorem accepted_iff (text : String) {duration : Duration} :
    fromStr (utf8Bytes text) = .ok duration ↔
      ∃ items, Opening (utf8Bytes text) items [] ∧ Fits 0 0 0 items ∧
        duration = ofItems 0 0 0 items := by
  have whole := utf8Bytes_valid text
  constructor
  · intro accepted
    have some_ : utf8Bytes text ≠ [] := by
      intro none_
      rw [none_] at accepted
      cases accepted
    rcases fromStr_cases whole some_ with refused | ⟨items, rest, opening, ending⟩
    · cases accepted.symm.trans refused
    · rcases ending with ⟨rfl, fits⟩ | fails
      · refine ⟨items, opening, fits, ?_⟩
        exact Outcome.ok.inj (accepted.symm.trans (opening.fromStr_of_fits whole fits))
      · cases accepted.symm.trans (opening.fromStr_of_fails whole fails)
  · rintro ⟨items, opening, fits, rfl⟩
    exact opening.fromStr_of_fits whole fits

/-- The parser returns without losing anything exactly on these texts: some text, sums of the items
it begins with within their types, no wide character after the next number, and, if the items are
all of the text, no number that the casts to 32 bits cut. -/
theorem fromStr_total_iff (text : String) :
    (fromStr (utf8Bytes text) ≠ .panicked ∧
      ∀ duration, fromStr (utf8Bytes text) = .ok duration →
        ∃ items, Opening (utf8Bytes text) items [] ∧ duration.IsSum items) ↔
    text ≠ "" ∧ ∀ items rest, Opening (utf8Bytes text) items rest →
      Fits 0 0 0 items ∧ ¬ WideSymbol rest ∧ (rest = [] → ∀ item ∈ items, item.Uncut) := by
  rw [Ne, fromStr_panicked_iff]
  constructor
  · rintro ⟨returns, exact_⟩
    refine ⟨fun empty => returns (.inl empty), fun items rest opening => ?_⟩
    have fits : Fits 0 0 0 items := by
      by_contra exceeds
      exact returns (.inr ⟨items, rest, opening, .inl exceeds⟩)
    refine ⟨fits, fun wide => returns (.inr ⟨items, rest, opening, .inr wide⟩), ?_⟩
    rintro rfl
    obtain ⟨others, openingToo, sums⟩ :=
      exact_ _ ((accepted_iff text).mpr ⟨items, opening, fits, rfl⟩)
    rw [openingToo.unique opening] at sums
    exact (isSum_ofItems_iff fits).mp sums
  · rintro ⟨some_, within⟩
    refine ⟨?_, fun duration accepted => ?_⟩
    · rintro (empty | ⟨items, rest, opening, exceeds | wide⟩)
      · exact some_ empty
      · exact exceeds (within items rest opening).1
      · exact (within items rest opening).2.1 wide
    · obtain ⟨items, opening, fits, rfl⟩ := (accepted_iff text).mp accepted
      have uncut := (within items [] opening).2.2 rfl
      exact ⟨items, opening, (isSum_ofItems_iff fits).mpr uncut⟩

theorem fromStr_fails :
    fromStr (utf8Bytes "") = .panicked ∧ fromStr (utf8Bytes "P1é") = .panicked ∧
      fromStr (utf8Bytes "P4294967295Y") = .panicked ∧
      fromStr (utf8Bytes "PT0.0000000001S") = .panicked ∧
      fromStr (utf8Bytes "P4294967296D") = .ok ⟨0, 0, 0⟩ := by
  decide +kernel

end Duration

end TypeDBDriver
