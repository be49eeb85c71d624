import TypeDBDriver.Library.CivilTime

/-! Datetime values in the C# driver. -/

namespace TypeDBDriver.Csharp

open Library

inductive DateTimeKind where
  | unspecified
  | utc
  | «local»
  deriving DecidableEq, Repr

/-- `System.DateTime`: ticks of 100 nanoseconds since the start of the year 1. -/
structure DateTime where
  ticks : Nat
  kind : DateTimeKind
  deriving DecidableEq, Repr

namespace DateTime

def maxTicks : Nat := 3155378975999999999

def specifyKind (value : DateTime) (kind : DateTimeKind) : DateTime := { value with kind }

/-- The year, month, day, hour, minute, second and millisecond that a datetime shows. -/
def fields (value : DateTime) : CivilTime × Nat :=
  (.ofSeconds (value.ticks / 10000000), value.ticks / 10000 % 1000)

def ordinal (value : DateTime) : Nat := value.ticks / 864000000000 + 1

def Supported (value : DateTime) : Prop :=
  (⟨1970, 1, 1⟩ : Gregorian.Date).ordinal ≤ value.ordinal ∧
    value.ordinal < (⟨9999, 1, 1⟩ : Gregorian.Date).ordinal

theorem fields_eq_iff (first second : DateTime) :
    first.fields = second.fields ↔ first.ticks / 10000 = second.ticks / 10000 := by
  rw [fields, fields, Prod.mk.injEq, CivilTime.ofSeconds_inj]
  omega

end DateTime

/-- The local zone of the process. A local time given by its ticks is this many minutes ahead of
UTC. -/
structure LocalZone where
  offset : Nat → Int
  bounded : ∀ ticks, -840 ≤ offset ticks ∧ offset ticks ≤ 840

structure DateTimeOffset where
  utcTicks : Nat
  offsetMinutes : Int

namespace DateTimeOffset

/-- The ticks of a whole number must be those of a datetime. -/
def ofTicks (ticks offsetMinutes : Int) : Option DateTimeOffset :=
  if 0 ≤ ticks ∧ ticks ≤ DateTime.maxTicks then some ⟨ticks.toNat, offsetMinutes⟩ else none

def new (zone : LocalZone) (dateTime : DateTime) : Option DateTimeOffset :=
  let offset := match dateTime.kind with
    | .utc => 0
    | .unspecified | .local => zone.offset dateTime.ticks
  ofTicks (dateTime.ticks - offset * 600000000) offset

def toUnixTimeMilliseconds (value : DateTimeOffset) : Int :=
  (value.utcTicks / 10000 : Nat) - 62135596800000

def fromUnixTimeMilliseconds (milliseconds : Int) : Option DateTimeOffset :=
  ofTicks (milliseconds * 10000 + 621355968000000000) 0

def dateTime (value : DateTimeOffset) : DateTime :=
  ⟨(value.utcTicks + value.offsetMinutes * 600000000).toNat, .unspecified⟩

end DateTimeOffset

structure Value where
  millis : Int

namespace Value

def new (zone : LocalZone) (value : DateTime) : Option Value :=
  (DateTimeOffset.new zone (value.specifyKind .unspecified)).map fun offset =>
    ⟨offset.toUnixTimeMilliseconds⟩

def asDateTime (value : Value) : Option DateTime :=
  (DateTimeOffset.fromUnixTimeMilliseconds value.millis).map (·.dateTime)

theorem asDateTime_new (zone : LocalZone) {value : DateTime} (supported : value.Supported) :
    (new zone value).bind asDateTime =
      some ⟨((value.ticks / 10000 : Nat) - zone.offset value.ticks * 60000).toNat * 10000,
        .unspecified⟩ := by
  obtain ⟨least, greatest⟩ := supported
  have first : (⟨1970, 1, 1⟩ : Gregorian.Date).ordinal = 719163 := by decide
  have last : (⟨9999, 1, 1⟩ : Gregorian.Date).ordinal = 3651695 := by decide
  have bounded := zone.bounded value.ticks
  rw [first, DateTime.ordinal] at least
  rw [last, DateTime.ordinal] at greatest
  have inside : 0 ≤ (value.ticks : Int) - zone.offset value.ticks * 600000000 ∧
      (value.ticks : Int) - zone.offset value.ticks * 600000000 ≤ DateTime.maxTicks := by
    unfold DateTime.maxTicks
    omega
  have made : new zone value = some
      ⟨(value.ticks / 10000 : Nat) - zone.offset value.ticks * 60000 - 62135596800000⟩ := by
    simp only [new, DateTimeOffset.new, DateTime.specifyKind, DateTimeOffset.ofTicks, inside,
      and_self, if_true, Option.map_some, DateTimeOffset.toUnixTimeMilliseconds, Option.some.injEq,
      mk.injEq]
    omega
  rw [made, Option.bind_some, asDateTime, DateTimeOffset.fromUnixTimeMilliseconds,
    DateTimeOffset.ofTicks]
  dsimp only
  rw [if_pos (by unfold DateTime.maxTicks; omega)]
  simp only [Option.map_some, DateTimeOffset.dateTime, Option.some.injEq, DateTime.mk.injEq,
    and_true]
  omega

/-- A datetime comes back with the fields it has exactly if the local zone shows UTC at this
time. -/
theorem asDateTime_new_fields_iff (zone : LocalZone) (value : DateTime)
    (supported : value.Supported) :
    ((new zone value).bind asDateTime).map DateTime.fields = some value.fields ↔
      zone.offset value.ticks = 0 := by
  rw [asDateTime_new zone supported, Option.map_some, Option.some_inj, DateTime.fields_eq_iff]
  obtain ⟨least, -⟩ := supported
  have first : (⟨1970, 1, 1⟩ : Gregorian.Date).ordinal = 719163 := by decide
  have bounded := zone.bounded value.ticks
  rw [first, DateTime.ordinal] at least
  dsimp only
  omega

theorem asDateTime_new_fields_utc :
    ((new ⟨fun _ => 0, fun _ => by decide⟩ ⟨630874656000000000, .local⟩).bind asDateTime).map
      DateTime.fields = some (⟨630874656000000000, .local⟩ : DateTime).fields :=
  (asDateTime_new_fields_iff ⟨fun _ => 0, fun _ => by decide⟩ ⟨630874656000000000, .local⟩
    ⟨by decide, by decide⟩).mpr rfl

/-- One hour ahead of UTC, the first of March shows the last evening of February. -/
theorem asDateTime_shifts_zone :
    ((new ⟨fun _ => 60, fun _ => by decide⟩ ⟨630874656000000000, .utc⟩).bind asDateTime).map
        DateTime.fields = some (⟨⟨2000, 2, 29⟩, 23, 0, 0⟩, 0) ∧
      (⟨630874656000000000, .utc⟩ : DateTime).fields = (⟨⟨2000, 3, 1⟩, 0, 0, 0⟩, 0) := by
  decide +kernel

end Value

end TypeDBDriver.Csharp
