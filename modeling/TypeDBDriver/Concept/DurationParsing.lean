import TypeDBDriver.Concept.Display
import TypeDBDriver.Library.FixedWidth
import TypeDBDriver.Library.StrSlice

/-! `Duration::from_str`. The text is read segment by segment, a segment being a number with the
symbol after it, and what a segment stands for is added to one of three counters. -/

namespace TypeDBDriver

open Library
open Str (byteAt sliceFrom sliceTo)
open FixedWidth (addProduct checked checkedAdd checkedSub)

structure DurationParseError where
  deriving DecidableEq, Repr

structure Segment where
  number : UInt64
  symbol : UInt8
  numberLen : Nat
  deriving DecidableEq, Repr

/-- Where the loop of `read_u32` stops. The last byte of the string is not looked at. -/
def digitsBeforeLast : Str → Nat
  | byte :: next :: rest =>
    if Str.isAsciiDigit byte then digitsBeforeLast (next :: rest) + 1 else 0
  | _ => 0

def readU32 (str : Str) : Outcome DurationParseError (Segment × Str) :=
  let i := digitsBeforeLast str
  if i = 0 then .error {}
  else do
    let digits ← sliceTo str i
    let number ← Outcome.okOr {} (Str.parseU64 digits)
    let symbol ← byteAt str i
    let tail ← sliceFrom str (i + 1)
    .ok ({ number, symbol, numberLen := i }, tail)

namespace Duration

def daysPerWeek : Nat := 7

structure Parsing where
  months : UInt32 := 0
  days : UInt32 := 0
  nanos : UInt64 := 0
  parsingTime : Bool := false
  previousSymbol : Option UInt8 := none
  deriving DecidableEq, Repr

def fractionUnit (numberLen : Nat) : Outcome DurationParseError UInt64 := do
  let exp ← checkedSub (9 : UInt32) (UInt32.ofNat numberLen)
  checked (10 ^ exp.toNat)

/-- The match on the symbol. The cast of a number to 32 bits keeps its low bits. -/
def addAmount (parsing : Parsing) (segment : Segment) : Outcome DurationParseError Parsing :=
  let afterPoint := parsing.previousSymbol == some '.'.toUInt8
  match Char.ofUInt8 segment.symbol, parsing.parsingTime, afterPoint with
  | 'Y', _, _ => do
      let months ← addProduct parsing.months segment.number.toUInt32 (.ofNat monthsPerYear)
      .ok { parsing with months }
  | 'M', false, _ => do
      let months ← checkedAdd parsing.months segment.number.toUInt32
      .ok { parsing with months }
  | 'W', _, _ => do
      let days ← addProduct parsing.days segment.number.toUInt32 (.ofNat daysPerWeek)
      .ok { parsing with days }
  | 'D', _, _ => do
      let days ← checkedAdd parsing.days segment.number.toUInt32
      .ok { parsing with days }
  | 'H', _, _ => do
      let nanos ← addProduct parsing.nanos segment.number (.ofNat nanosPerHour)
      .ok { parsing with nanos }
  | 'M', true, _ => do
      let nanos ← addProduct parsing.nanos segment.number (.ofNat nanosPerMinute)
      .ok { parsing with nanos }
  | '.', _, _ => do
      let nanos ← addProduct parsing.nanos segment.number (.ofNat nanosPerSec)
      .ok { parsing with nanos }
  | 'S', _, false => do
      let nanos ← addProduct parsing.nanos segment.number (.ofNat nanosPerSec)
      .ok { parsing with nanos }
  | 'S', _, true => do
      let unit ← fractionUnit segment.numberLen
      let nanos ← addProduct parsing.nanos segment.number unit
      .ok { parsing with nanos }
  | _, _, _ => .error {}

def addSegment (parsing : Parsing) (segment : Segment) : Outcome DurationParseError Parsing :=
  if parsing.previousSymbol = some '.'.toUInt8 ∧ segment.symbol ≠ 'S'.toUInt8 then .error {}
  else do
    let parsing ← addAmount parsing segment
    .ok { parsing with previousSymbol := some segment.symbol }

def readDesignator (parsing : Parsing) (str : Str) :
    Outcome DurationParseError (Parsing × Str) := do
  let first ← byteAt str 0
  if first = 'T'.toUInt8 then do
    let str ← sliceFrom str 1
    .ok ({ parsing with parsingTime := true }, str)
  else .ok (parsing, str)

def readSegment (parsing : Parsing) (str : Str) : Outcome DurationParseError (Parsing × Str) := do
  let (parsing, str) ← readDesignator parsing str
  let (segment, tail) ← readU32 str
  let parsing ← addSegment parsing segment
  .ok (parsing, tail)

variable {str tail : Str}

theorem length_sliceFrom {start : Nat}
    (sliced : (sliceFrom str start : Outcome DurationParseError Str) = .ok tail) :
    tail.length = str.length - start := by
  unfold sliceFrom at sliced
  split at sliced
  · cases sliced
    exact List.length_drop
  · cases sliced

theorem digitsBeforeLast_lt (some_ : digitsBeforeLast str ≠ 0) :
    digitsBeforeLast str < str.length := by
  fun_induction digitsBeforeLast str with
  | case1 byte next rest digit ih =>
    by_cases more : digitsBeforeLast (next :: rest) = 0
    · simp [more]
    · have shorter := ih more
      simp only [List.length_cons] at shorter ⊢
      omega
  | case2 => exact absurd rfl some_
  | case3 => exact absurd rfl some_

theorem length_readU32_lt {segment : Segment} (read : readU32 str = .ok (segment, tail)) :
    tail.length < str.length := by
  simp only [readU32] at read
  split at read
  · cases read
  · next some_ =>
      simp only [Outcome.bind_eq_ok_iff, Outcome.ok.injEq, Prod.mk.injEq] at read
      obtain ⟨_, _, _, _, _, _, _, sliced, _, rfl⟩ := read
      have length := length_sliceFrom sliced
      have bound := digitsBeforeLast_lt some_
      omega

variable {parsing next : Parsing}

theorem length_readDesignator_le {body : Str}
    (designated : readDesignator parsing str = .ok (next, body)) : body.length ≤ str.length := by
  simp only [readDesignator, Outcome.bind_eq_ok_iff] at designated
  obtain ⟨first, _, designated⟩ := designated
  split at designated
  · simp only [Outcome.bind_eq_ok_iff, Outcome.ok.injEq, Prod.mk.injEq] at designated
    obtain ⟨_, sliced, _, rfl⟩ := designated
    have length := length_sliceFrom sliced
    omega
  · cases designated
    exact Nat.le_refl _

theorem length_readSegment_lt (read : readSegment parsing str = .ok (next, tail)) :
    tail.length < str.length := by
  simp only [readSegment, Outcome.bind_eq_ok_iff, Outcome.ok.injEq, Prod.mk.injEq] at read
  obtain ⟨⟨marked, body⟩, designated, ⟨segment, rest⟩, number, _, _, _, rfl⟩ := read
  have shorter := length_readU32_lt number
  have notLonger := length_readDesignator_le designated
  simp only at shorter notLonger ⊢
  omega

def readSegments (parsing : Parsing) (str : Str) : Outcome DurationParseError Duration :=
  if str = [] then .ok { months := parsing.months, days := parsing.days, nanos := parsing.nanos }
  else
    match _read : readSegment parsing str with
    | .ok (next, tail) => readSegments next tail
    | .error cause => .error cause
    | .panicked => .panicked
termination_by str.length
decreasing_by exact length_readSegment_lt _read

def fromStr (str : Str) : Outcome DurationParseError Duration := do
  let first ← byteAt str 0
  if first ≠ 'P'.toUInt8 then .error {}
  else do
    let str ← sliceFrom str 1
    readSegments {} str

end Duration

end TypeDBDriver
