import TypeDBDriver.Answer.ConceptDocument
import TypeDBDriver.Network.DecodingProperties

/-! Which date-times with a zone keep their instants apart in the text that is printed of them. -/

namespace TypeDBDriver

open Library

/-- The offset of a zone at an instant, in seconds. Where clocks go back it is smaller for the later
of two instants. -/
abbrev Zones := Tz → NaiveDateTime → Int

namespace DateTime

def offset (zones : Zones) (datetime : DateTime) : Int :=
  match datetime.timezone with
  | .iana tz => zones tz datetime.utc
  | .fixed offset => offset.localMinusUtc

def naiveLocal (zones : Zones) (datetime : DateTime) : NaiveDateTime where
  seconds := datetime.utc.seconds + datetime.offset zones
  nanos := datetime.utc.nanos

end DateTime

/-- The formats print the local date-time, and `%:z` prints an offset in six characters: its sign,
hours and minutes. -/
structure ChronoFormat.Documented (zones : Zones) (offset : FixedOffset → Text)
    (format : ChronoFormat) : Prop where
  datetime_injective : Function.Injective format.datetime
  blank_not_mem_datetime (datetime : NaiveDateTime) : ' ' ∉ format.datetime datetime
  datetimeTZ (datetime : DateTime) :
    format.datetimeTZ datetime = format.datetime (datetime.naiveLocal zones)
  datetimeTZWithOffset (utc : NaiveDateTime) (fixed : FixedOffset) :
    format.datetimeTZWithOffset ⟨utc, .fixed fixed⟩ =
      format.datetime (DateTime.naiveLocal zones ⟨utc, .fixed fixed⟩) ++ offset fixed
  length_offset (fixed : FixedOffset) : (offset fixed).length = 6
  blank_not_mem_offset (fixed : FixedOffset) : ' ' ∉ offset fixed

/-- The zones are printed alike: the same name, or offsets with the same hours and minutes. -/
def TimeZone.PrintedAlike (offset : FixedOffset → Text) : TimeZone → TimeZone → Prop
  | .iana first, .iana second => first = second
  | .fixed first, .fixed second => offset first = offset second
  | _, _ => False

/-- A text is split at the first separator. -/
theorem append_separator_inj {separator : Char} {first second rest other : Text}
    (plain : separator ∉ first) (plainToo : separator ∉ second)
    (same : first ++ separator :: rest = second ++ separator :: other) :
    first = second ∧ rest = other := by
  induction first generalizing second with
  | nil =>
    cases second with
    | nil => exact ⟨rfl, (List.cons.inj same).2⟩
    | cons char second =>
      rw [List.mem_cons, not_or] at plainToo
      exact absurd (List.cons.inj same).1 plainToo.1
  | cons char first ih =>
    rw [List.mem_cons, not_or] at plain
    cases second with
    | nil => exact absurd (List.cons.inj same).1.symm plain.1
    | cons next second =>
      rw [List.mem_cons, not_or] at plainToo
      obtain ⟨chars, tails⟩ := List.cons.inj same
      obtain ⟨rfl, rfl⟩ := ih plain.2 plainToo.2 tails
      exact ⟨by rw [chars], rfl⟩

namespace ChronoFormat.Documented

variable {zones : Zones} {offset : FixedOffset → Text} {format : ChronoFormat}
  (documented : format.Documented zones offset)

include documented

theorem display_iana_ne_fixed (utc otherUtc : NaiveDateTime) (tz : Tz) (fixed : FixedOffset) :
    (⟨utc, .iana tz⟩ : DateTime).display format ≠
      (⟨otherUtc, .fixed fixed⟩ : DateTime).display format := by
  simp only [DateTime.display, documented.datetimeTZ, documented.datetimeTZWithOffset]
  intro same
  have listed : ' ' ∈ format.datetime (DateTime.naiveLocal zones ⟨otherUtc, .fixed fixed⟩) ++
      offset fixed := by
    rw [← same]
    simp
  rcases List.mem_append.mp listed with inDatetime | inOffset
  · exact documented.blank_not_mem_datetime _ inDatetime
  · exact documented.blank_not_mem_offset fixed inOffset

theorem display_eq_iff {first second : DateTime} :
    first.display format = second.display format ↔
      first.naiveLocal zones = second.naiveLocal zones ∧
        first.timezone.PrintedAlike offset second.timezone := by
  obtain ⟨utc, timezone⟩ := first
  obtain ⟨otherUtc, otherTimezone⟩ := second
  cases timezone with
  | iana tz =>
    cases otherTimezone with
    | iana other =>
      simp only [DateTime.display, documented.datetimeTZ, TimeZone.PrintedAlike]
      constructor
      · intro same
        obtain ⟨clocks, names⟩ := append_separator_inj
          (documented.blank_not_mem_datetime _) (documented.blank_not_mem_datetime _) same
        refine ⟨documented.datetime_injective clocks, ?_⟩
        exact congrArg Tz.mk (String.toList_inj.mp names)
      · rintro ⟨clocks, rfl⟩
        rw [clocks]
    | fixed other =>
      simp only [TimeZone.PrintedAlike, and_false, iff_false]
      exact documented.display_iana_ne_fixed utc otherUtc tz other
  | fixed fixed =>
    cases otherTimezone with
    | iana other =>
      simp only [TimeZone.PrintedAlike, and_false, iff_false]
      exact (documented.display_iana_ne_fixed otherUtc utc other fixed).symm
    | fixed other =>
      simp only [DateTime.display, documented.datetimeTZWithOffset, TimeZone.PrintedAlike]
      constructor
      · intro same
        have lengths : (offset fixed).length = (offset other).length := by
          rw [documented.length_offset, documented.length_offset]
        obtain ⟨clocks, offsets⟩ := List.append_inj' same lengths
        exact ⟨documented.datetime_injective clocks, offsets⟩
      · rintro ⟨clocks, offsets⟩
        rw [clocks, offsets]

end ChronoFormat.Documented

def hoursMinutes (offset : FixedOffset) : Text :=
  let minutes := offset.localMinusUtc.natAbs / 60
  (if offset.localMinusUtc < 0 then '-' else '+') ::
    (zeroPadded 2 (minutes / 60 % 100) ++ ':' :: zeroPadded 2 (minutes % 60))

def epochText (datetime : NaiveDateTime) : Text :=
  integerText datetime.seconds ++ '.' :: zeroPadded 9 datetime.nanos

def epochFormat (zones : Zones) : ChronoFormat where
  date _ := []
  datetime := epochText
  datetimeTZ datetime := epochText (datetime.naiveLocal zones)
  datetimeTZWithOffset datetime :=
    epochText (datetime.naiveLocal zones) ++
      match datetime.timezone with
      | .iana _ => []
      | .fixed offset => hoursMinutes offset

theorem mem_integerText {number : Int} {char : Char} (listed : char ∈ integerText number) :
    char = '-' ∨ char.isDigit = true := by
  rcases List.mem_append.mp listed with sign | digit
  · split at sign
    · exact .inl (List.mem_singleton.mp sign)
    · cases sign
  · exact .inr (Nat.isDigit_of_mem_toDigits (by decide) (by decide) digit)

theorem epochText_injective : Function.Injective epochText := by
  intro first second same
  have plain : ∀ number : Int, '.' ∉ integerText number := by
    intro number listed
    rcases mem_integerText listed with impossible | impossible <;> cases impossible
  obtain ⟨seconds, fractions⟩ := append_separator_inj (plain _) (plain _) same
  have nanos : first.nanos = second.nanos := by
    rw [← ofDigitChars_zeroPadded 9 first.nanos, fractions, ofDigitChars_zeroPadded]
  cases first
  cases second
  simp only at nanos seconds
  rw [integerText_injective seconds, nanos]

theorem epochFormat_documented (zones : Zones) :
    (epochFormat zones).Documented zones hoursMinutes := by
  constructor
  · exact epochText_injective
  · intro datetime listed
    rcases List.mem_append.mp listed with seconds | fraction
    · rcases mem_integerText seconds with impossible | impossible <;> cases impossible
    · rcases List.mem_cons.mp fraction with impossible | digit
      · cases impossible
      · cases isDigit_zeroPadded digit
  · intro datetime
    rfl
  · intro utc fixed
    rfl
  · intro fixed
    have hours := @length_zeroPadded 2 (fixed.localMinusUtc.natAbs / 60 / 60 % 100) (by decide)
      (Nat.mod_lt _ (by decide))
    have minutes := @length_zeroPadded 2 (fixed.localMinusUtc.natAbs / 60 % 60) (by decide)
      (Nat.lt_trans (Nat.mod_lt _ (by decide)) (by decide : 60 < 100))
    simp only [hoursMinutes, List.length_cons, List.length_append, hours, minutes]
  · intro fixed listed
    rcases List.mem_cons.mp listed with sign | later
    · split at sign <;> cases sign
    · rcases List.mem_append.mp later with digit | after
      · cases isDigit_zeroPadded digit
      · rcases List.mem_cons.mp after with impossible | digit
        · cases impossible
        · cases isDigit_zeroPadded digit

/-- A zone whose clocks go back by an hour at the epoch. -/
def clocksBack : Zones := fun _ utc => if utc.seconds < 0 then 3600 else 0

end TypeDBDriver
