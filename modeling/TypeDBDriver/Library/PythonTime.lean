import Mathlib.Algebra.Order.Field.Rat
import TypeDBDriver.Library.Binary64

/-! Dates and times of Python. What a clock shows is its reading, counted in seconds from the
beginning of 1970 on the same clock, and only readings of the years 1 to 9999 can be held. -/

namespace TypeDBDriver.Library.PythonTime

inductive PythonException where
  | valueError (message : String)
  | yearOutOfRange
  | dateOutOfRange
  | offsetOutOfRange
  | zoneInfoNotFound (key : String)
  deriving DecidableEq, Repr

def secondsInDay : Int := 86400

/-- The ordinal of the first day of 1970. -/
def epochOrdinal : Int := 719163

def maxOrdinal : Int := 3652059

def ordinal (reading : Int) : Int := epochOrdinal + reading / secondsInDay

def Supported (reading : Int) : Prop := 1 ≤ ordinal reading ∧ ordinal reading ≤ maxOrdinal

instance (reading : Int) : Decidable (Supported reading) :=
  inferInstanceAs (Decidable (_ ∧ _))

def float (number : Rat) : Rat :=
  number.num.sign * (Binary64.units (Binary64.nearest
    (number.num.natAbs * 2 ^ Binary64.precision) number.den) : Rat) / 2 ^ Binary64.precision

structure Zone where
  offset : Int → Int

namespace Zone

variable (zone : Zone)

def reading (instant : Int) : Int := instant + zone.offset instant

def localtime (instant : Int) : Except PythonException Int :=
  if Supported (zone.reading instant) then .ok (zone.reading instant) else .error .yearOutOfRange

def tryOffset (reading : Int) (fold : Bool) (first firstShown offset : Int) :
    Except PythonException Int := do
  let second := reading - offset
  let secondShown ← zone.localtime second
  if secondShown = reading then .ok second
  else if firstShown = reading then .ok first
  else
    -- no instant has this reading, which the clock skips
    .ok (if fold then min first second else max first second)

/-- The search for the instant with a reading. Of two instants the one without `fold` is the
earlier. -/
def localToSeconds (reading : Int) (fold : Bool) : Except PythonException Int := do
  let shown ← zone.localtime reading
  let first := reading - (shown - reading)
  let firstShown ← zone.localtime first
  if firstShown = reading then
    let other := if fold then first + secondsInDay else first - secondsInDay
    let otherShown ← zone.localtime other
    if shown - reading = otherShown - other then .ok first
    else zone.tryOffset reading fold first firstShown (otherShown - other)
  else zone.tryOffset reading fold first firstShown (firstShown - first)

end Zone

structure Date where
  ordinal : Int
  valid : 1 ≤ ordinal ∧ ordinal ≤ maxOrdinal
  deriving DecidableEq, Repr

def Date.fromtimestamp (localZone : Zone) (seconds : Int) : Except PythonException Date :=
  if supported : Supported (localZone.reading seconds) then
    .ok ⟨PythonTime.ordinal (localZone.reading seconds), supported⟩
  else .error .yearOutOfRange

/-- What `zoneinfo` knows of a zone: its clock, whether an instant is the second one with its
reading, and the offset of a reading. -/
structure ZoneInfo where
  zone : Zone
  fold : Int → Bool
  utcoffset : Int → Bool → Int

inductive TzInfo where
  | timezone (offset : Int)
  | zoneInfo (key : String) (info : ZoneInfo)

namespace TzInfo

/-- `timezone(timedelta(seconds=offset))` -/
def ofOffset (offset : Int) : Except PythonException TzInfo :=
  if -secondsInDay < offset ∧ offset < secondsInDay then .ok (.timezone offset)
  else .error .offsetOutOfRange

/-- `ZoneInfo(key)`. There is one object for each key. -/
def ofKey (zones : String → Option ZoneInfo) (key : String) : Except PythonException TzInfo :=
  (zones key).elim (.error (.zoneInfoNotFound key)) fun info => .ok (.zoneInfo key info)

/-- Whether readings are compared as they are: the objects are the same, or both are the same fixed
offset. -/
def same : TzInfo → TzInfo → Bool
  | .timezone first, .timezone second => first == second
  | .zoneInfo first _, .zoneInfo second _ => first == second
  | _, _ => false

def fromutc : TzInfo → Int → Int × Bool
  | .timezone offset, instant => (instant + offset, false)
  | .zoneInfo _ info, instant => (info.zone.reading instant, info.fold instant)

def utcoffset : TzInfo → Int → Bool → Int
  | .timezone offset, _, _ => offset
  | .zoneInfo _ info, reading, fold => info.utcoffset reading fold

end TzInfo

structure Datetime where
  reading : Int
  fold : Bool
  tzinfo : Option TzInfo
  supported : Supported reading

namespace Datetime

def utcfromtimestamp (seconds : Int) : Except PythonException Datetime :=
  if supported : Supported seconds then .ok ⟨seconds, false, none, supported⟩
  else .error .yearOutOfRange

def fromtimestamp (seconds : Int) (tz : TzInfo) : Except PythonException Datetime :=
  if Supported seconds then
    if supported : Supported (tz.fromutc seconds).1 then
      .ok ⟨(tz.fromutc seconds).1, (tz.fromutc seconds).2, some tz, supported⟩
    else .error .dateOutOfRange
  else .error .yearOutOfRange

def replaceTzinfo (datetime : Datetime) (tz : TzInfo) : Datetime :=
  { datetime with tzinfo := some tz }

/-- A datetime without a zone is taken for one of the local zone. -/
def timestamp (localZone : Zone) (datetime : Datetime) : Except PythonException Rat :=
  match datetime.tzinfo with
  | none => do
      let seconds ← localZone.localToSeconds datetime.reading datetime.fold
      .ok (float seconds)
  | some tz => .ok (float (datetime.reading - tz.utcoffset datetime.reading datetime.fold))

def foldMatters (datetime : Datetime) (tz : TzInfo) : Bool :=
  tz.utcoffset datetime.reading false != tz.utcoffset datetime.reading true

/-- `__eq__`. The fold does not count in one zone, and between zones a reading that depends on it
is equal to nothing. -/
def eq (first second : Datetime) : Bool :=
  match first.tzinfo, second.tzinfo with
  | none, none => first.reading == second.reading
  | some tz, some other =>
    if tz.same other then first.reading == second.reading
    else
      first.reading - tz.utcoffset first.reading first.fold ==
          second.reading - other.utcoffset second.reading second.fold &&
        !first.foldMatters tz && !second.foldMatters other
  | _, _ => false

end Datetime

theorem float_intCast {number : Int} (fits : number.natAbs < 2 ^ 53) : float number = number := by
  have narrow : number.natAbs.log2 - 52 = 0 := by
    rcases Nat.eq_zero_or_pos number.natAbs with zero | pos
    · rw [zero]
      rfl
    · have bound := (Nat.log2_lt (Nat.ne_of_gt pos)).mpr fits
      omega
  have exact_ : Binary64.roundInteger number.natAbs = number.natAbs := by
    rw [Binary64.roundInteger_eq_self_iff, narrow]
    exact Nat.one_dvd _
  have units := (Binary64.nearest_integer (by omega : number.natAbs < 2 ^ 64)).2
  have power : (2 : Rat) ^ Binary64.precision ≠ 0 := pow_ne_zero _ two_ne_zero
  have sign : (number.sign : Rat) * number.natAbs = number := by
    rw [← Int.cast_natCast, ← Int.cast_mul, Int.sign_mul_natAbs]
  rw [float, Rat.num_intCast, Rat.den_intCast, units, exact_]
  push_cast
  rw [← mul_assoc, sign, mul_div_cancel_right₀ _ power]

section Calls

variable {α β : Type} {called : Except PythonException α}

theorem bind_eq_ok_iff {next : α → Except PythonException β} {value : β} :
    (called >>= next) = .ok value ↔ ∃ result, called = .ok result ∧ next result = .ok value := by
  cases called <;> simp [bind, Except.bind]

theorem map_eq_ok_iff {convert : α → β} {value : β} :
    called.map convert = .ok value ↔ ∃ result, called = .ok result ∧ convert result = value := by
  cases called <;> simp [Except.map]

end Calls

variable {zone : Zone} {instant result : Int}

theorem Zone.localtime_bind_eq_ok_iff {α : Type} {next : Int → Except PythonException α}
    {value : α} :
    (zone.localtime instant >>= next) = .ok value ↔
      Supported (zone.reading instant) ∧ next (zone.reading instant) = .ok value := by
  unfold Zone.localtime
  split <;> simp [bind_eq_ok_iff, *]

theorem Date.fromtimestamp_eq_ok_iff {seconds : Int} {date : Date} :
    Date.fromtimestamp zone seconds = .ok date ↔
      date.ordinal = PythonTime.ordinal (zone.reading seconds) := by
  unfold Date.fromtimestamp
  split
  · constructor
    · intro read
      cases read
      rfl
    · intro same
      obtain ⟨number, valid⟩ := date
      cases same
      rfl
  · next unsupported =>
      refine iff_of_false (fun read => by cases read) fun same => unsupported ?_
      rw [Supported, ← same]
      exact date.valid

theorem TzInfo.same_self (tz : TzInfo) : tz.same tz = true := by
  cases tz <;> exact beq_self_eq_true _

theorem Datetime.eq_iff_of_tzinfo {first second : Datetime} {tz : TzInfo}
    (firstZone : first.tzinfo = some tz) (secondZone : second.tzinfo = some tz) :
    first.eq second = true ↔ first.reading = second.reading := by
  rw [Datetime.eq, firstZone, secondZone]
  simp only [tz.same_self, if_true, beq_iff_eq]

theorem Datetime.fromtimestamp_inversion {seconds : Int} {tz : TzInfo} {datetime : Datetime}
    (made : Datetime.fromtimestamp seconds tz = .ok datetime) :
    datetime.tzinfo = some tz ∧ datetime.reading = (tz.fromutc seconds).1 := by
  unfold Datetime.fromtimestamp at made
  split at made
  · split at made
    · cases made
      exact ⟨rfl, rfl⟩
    · cases made
  · cases made

theorem supported_bounds {reading : Int} (supported : Supported reading) :
    -62135596800 ≤ reading ∧ reading < 253402300800 := by
  simp only [Supported, ordinal, epochOrdinal, maxOrdinal, secondsInDay] at supported
  omega

theorem supported_of_between {least greatest reading : Int} (leastSupported : Supported least)
    (greatestSupported : Supported greatest) (lower : least ≤ reading)
    (upper : reading ≤ greatest) : Supported reading := by
  simp only [Supported, ordinal, epochOrdinal, maxOrdinal, secondsInDay] at *
  omega

namespace Zone

theorem tryOffset_eq_ok_iff {reading first firstShown offset : Int} :
    zone.tryOffset reading false first firstShown offset = .ok result ↔
      Supported (zone.reading (reading - offset)) ∧
        result = if zone.reading (reading - offset) = reading then reading - offset
          else if firstShown = reading then first else max first (reading - offset) := by
  rw [tryOffset, localtime_bind_eq_ok_iff]
  refine and_congr_right fun _ => ?_
  split
  · exact ⟨fun found => (Except.ok.inj found).symm, fun found => found ▸ rfl⟩
  · split
    · exact ⟨fun found => (Except.ok.inj found).symm, fun found => found ▸ rfl⟩
    · simp [eq_comm]

theorem reading_sub (time : Int) : zone.reading time - time = zone.offset time := by
  unfold reading
  omega

theorem localToSeconds_eq_ok_iff {reading : Int} :
    zone.localToSeconds reading false = .ok result ↔
      Supported (zone.reading reading) ∧
      Supported (zone.reading (reading - zone.offset reading)) ∧
      if zone.reading (reading - zone.offset reading) = reading then
        Supported (zone.reading (reading - zone.offset reading - secondsInDay)) ∧
        if zone.offset reading = zone.offset (reading - zone.offset reading - secondsInDay) then
          reading - zone.offset reading = result
        else
          zone.tryOffset reading false (reading - zone.offset reading) reading
            (zone.offset (reading - zone.offset reading - secondsInDay)) = .ok result
      else
        zone.tryOffset reading false (reading - zone.offset reading)
          (zone.reading (reading - zone.offset reading))
          (zone.offset (reading - zone.offset reading)) = .ok result := by
  rw [localToSeconds, localtime_bind_eq_ok_iff, reading_sub, localtime_bind_eq_ok_iff, reading_sub]
  refine and_congr_right fun _ => and_congr_right fun _ => ?_
  split
  · next found =>
      simp only [Bool.false_eq_true, if_false, localtime_bind_eq_ok_iff, reading_sub, found]
      refine and_congr_right fun _ => ?_
      split
      · exact ⟨Except.ok.inj, congrArg _⟩
      · exact Iff.rfl
  · exact Iff.rfl

theorem localToSeconds_bound {reading : Int} (supported : Supported reading)
    (found : zone.localToSeconds reading false = .ok result) : result.natAbs < 2 ^ 53 := by
  have ahead : ∀ {time : Int}, Supported (zone.reading time) →
      -62135596800 ≤ time + zone.offset time ∧ time + zone.offset time < 253402300800 :=
    supported_bounds
  have bounds := supported_bounds supported
  obtain ⟨shown, firstShown, found⟩ := localToSeconds_eq_ok_iff.mp found
  have shown := ahead shown
  have firstShown := ahead firstShown
  split at found
  · obtain ⟨otherShown, found⟩ := found
    have otherShown := ahead otherShown
    rw [secondsInDay] at otherShown found
    split at found
    · omega
    · obtain ⟨-, rfl⟩ := tryOffset_eq_ok_iff.mp found
      split
      · omega
      · rw [if_pos rfl]
        omega
  · obtain ⟨-, rfl⟩ := tryOffset_eq_ok_iff.mp found
    split
    · omega
    · omega

theorem localToSeconds_of_shown (utc : zone.offset instant = 0) :
    zone.localToSeconds instant false = .ok instant ↔
      Supported instant ∧ Supported (zone.reading (instant - secondsInDay)) ∧
        (zone.offset (instant - secondsInDay) = 0 ∨
          Supported (zone.reading (instant - zone.offset (instant - secondsInDay))) ∧
            zone.reading (instant - zone.offset (instant - secondsInDay)) ≠ instant) := by
  have shown : zone.reading instant = instant := by rw [reading, utc, Int.add_zero]
  rw [localToSeconds_eq_ok_iff, utc, Int.sub_zero, shown, if_pos rfl, and_self_left]
  refine and_congr_right fun _ => and_congr_right fun _ => ?_
  by_cases earlier : zone.offset (instant - secondsInDay) = 0
  · rw [if_pos earlier.symm]
    exact iff_of_true rfl (.inl earlier)
  · rw [if_neg (Ne.symm earlier), tryOffset_eq_ok_iff, if_pos rfl, or_iff_right earlier]
    refine and_congr_right fun _ => ?_
    split
    · next found => exact iff_of_false (by omega) fun differs => differs found
    · next missed => exact iff_of_true rfl missed

theorem localToSeconds_of_shifted (shifted : zone.offset instant ≠ 0) :
    zone.localToSeconds instant false = .ok instant ↔
      0 < zone.offset instant ∧ Supported (zone.reading instant) ∧
        Supported (instant - zone.offset instant) ∧
        zone.offset (instant - zone.offset instant) = 0 := by
  have differs : zone.reading instant ≠ instant := by
    unfold reading
    omega
  rw [localToSeconds_eq_ok_iff]
  by_cases found : zone.reading (instant - zone.offset instant) = instant
  · -- another instant has the reading, and every end of the search is such an instant
    have offset : zone.offset (instant - zone.offset instant) ≠ 0 := by
      unfold reading at found
      omega
    rw [if_pos found]
    refine iff_of_false ?_ fun skipped => offset skipped.2.2.2
    intro ended
    obtain ⟨-, -, -, ended⟩ := ended
    split at ended
    · omega
    · rw [tryOffset_eq_ok_iff, if_pos rfl] at ended
      obtain ⟨-, ended⟩ := ended
      split at ended
      · next same =>
          rw [← ended] at same
          exact differs same
      · omega
  · rw [if_neg found, tryOffset_eq_ok_iff, if_neg found]
    by_cases skipped : zone.offset (instant - zone.offset instant) = 0
    · have first :
          zone.reading (instant - zone.offset instant) = instant - zone.offset instant := by
        rw [reading, skipped, Int.add_zero]
      have latest : instant = max (instant - zone.offset instant) instant ↔
          0 < zone.offset instant := by omega
      rw [skipped, Int.sub_zero, if_neg differs, first, latest]
      tauto
    · refine iff_of_false ?_ fun utc => skipped utc.2.2.2
      intro ended
      obtain ⟨-, -, -, ended⟩ := ended
      split at ended <;> omega

/-- When the search for a reading of UTC ends at the instant itself. Either the clock shows UTC
then, and the offset of the day before does not give an earlier instant with the reading; or the
clock has been put forward from UTC and has skipped the reading. -/
theorem localToSeconds_eq_self_iff :
    zone.localToSeconds instant false = .ok instant ↔
      (zone.offset instant = 0 ∧ Supported instant ∧
        Supported (zone.reading (instant - secondsInDay)) ∧
        (zone.offset (instant - secondsInDay) = 0 ∨
          Supported (zone.reading (instant - zone.offset (instant - secondsInDay))) ∧
            zone.reading (instant - zone.offset (instant - secondsInDay)) ≠ instant)) ∨
      (0 < zone.offset instant ∧ Supported (zone.reading instant) ∧
        Supported (instant - zone.offset instant) ∧
        zone.offset (instant - zone.offset instant) = 0) := by
  by_cases utc : zone.offset instant = 0
  · have notAhead : ¬ 0 < zone.offset instant := by omega
    refine (localToSeconds_of_shown utc).trans ⟨fun shown => .inl ⟨utc, shown⟩, fun either => ?_⟩
    exact (either.resolve_right fun ahead => notAhead ahead.1).2
  · rw [localToSeconds_of_shifted utc, or_iff_right fun shown => utc shown.1]

end Zone

end TypeDBDriver.Library.PythonTime
