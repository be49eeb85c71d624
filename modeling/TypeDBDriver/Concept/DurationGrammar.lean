import TypeDBDriver.Concept.DurationReading

/-! The grammar of durations, `P [nY] [nM] [nW] [nD] [T [nH] [nM] [n[.f]S]]`, and the parser
against it: a text of this form is read as it is meant, and not only such texts are accepted. -/

namespace TypeDBDriver

open Library
open List (Sublist append_assoc append_nil flatMap_append mem_append_right mem_cons_self
  nil_sublist)

structure Digits where
  bytes : Str
  some_ : bytes ≠ []
  numeric : ∀ byte ∈ bytes, Str.isAsciiDigit byte = true

/-- `n[.f]` -/
structure SecondsText where
  whole : Digits
  fraction : Option Digits

/-- `T [nH] [nM] [n[.f]S]` -/
structure TimeText where
  hours : Option Digits
  minutes : Option Digits
  seconds : Option SecondsText

/-- `P [nY] [nM] [nW] [nD] [T ...]` -/
structure DurationText where
  years : Option Digits
  months : Option Digits
  weeks : Option Digits
  days : Option Digits
  time : Option TimeText

def Digits.followedBy (digits : Digits) (symbol : Char) : Str := digits.bytes ++ [symbol.toUInt8]

def SecondsText.bytes (seconds : SecondsText) : Str :=
  match seconds.fraction with
  | none => seconds.whole.followedBy 'S'
  | some fraction => seconds.whole.followedBy '.' ++ fraction.followedBy 'S'

def optional {α : Type} (part : Option α) (bytes : α → Str) : Str := (part.map bytes).getD []

def TimeText.bytes (time : TimeText) : Str :=
  'T'.toUInt8 :: (optional time.hours (·.followedBy 'H') ++
    optional time.minutes (·.followedBy 'M') ++
    optional time.seconds SecondsText.bytes)

def DurationText.bytes (duration : DurationText) : Str :=
  'P'.toUInt8 :: (optional duration.years (·.followedBy 'Y') ++
    optional duration.months (·.followedBy 'M') ++ optional duration.weeks (·.followedBy 'W') ++
    optional duration.days (·.followedBy 'D') ++ optional duration.time TimeText.bytes)

def TimeText.HasComponent (time : TimeText) : Prop :=
  time.hours.isSome ∨ time.minutes.isSome ∨ time.seconds.isSome

def DurationText.HasComponent (duration : DurationText) : Prop :=
  duration.years.isSome ∨ duration.months.isSome ∨ duration.weeks.isSome ∨ duration.days.isSome ∨
    ∃ time, duration.time = some time ∧ time.HasComponent

def InGrammar (str : Str) : Prop :=
  ∃ duration : DurationText, duration.HasComponent ∧ duration.bytes = str

def Digits.item (digits : Digits) (unit : DurationUnit) : Item := ⟨false, digits.bytes, unit⟩

def optionalItem (unit : DurationUnit) (digits : Option Digits) : List Item :=
  (digits.map (·.item unit)).toList

def SecondsText.items (seconds : SecondsText) : List Item :=
  match seconds.fraction with
  | none => [seconds.whole.item .seconds]
  | some fraction => [seconds.whole.item .wholeSeconds, fraction.item .fraction]

def TimeText.items (time : TimeText) : List Item :=
  optionalItem .hours time.hours ++ optionalItem .minutes time.minutes ++
    (time.seconds.map SecondsText.items).getD []

def designate : List Item → List Item
  | [] => []
  | item :: rest => { item with marked := true } :: rest

def DurationText.dateItems (duration : DurationText) : List Item :=
  optionalItem .years duration.years ++ optionalItem .months duration.months ++
    optionalItem .weeks duration.weeks ++ optionalItem .days duration.days

def DurationText.timeItems (duration : DurationText) : List Item :=
  designate ((duration.time.map TimeText.items).getD [])

def DurationText.items (duration : DurationText) : List Item :=
  duration.dateItems ++ duration.timeItems

def DurationText.dangling (duration : DurationText) : Str :=
  match duration.time with
  | some time => if time.items = [] then ['T'.toUInt8] else []
  | none => []

theorem text_optionalItem (unit : DurationUnit) (digits : Option Digits) :
    (optionalItem unit digits).flatMap Item.text = optional digits (·.followedBy unit.letter) := by
  cases digits with
  | none => rfl
  | some digits =>
    simp [optionalItem, optional, Digits.item, Item.text, Digits.followedBy, DurationUnit.symbol]

theorem SecondsText.text_items (seconds : SecondsText) :
    seconds.items.flatMap Item.text = seconds.bytes := by
  unfold items bytes
  cases seconds.fraction with
  | none =>
    simp [Digits.item, Item.text, Digits.followedBy, DurationUnit.symbol, DurationUnit.letter]
  | some fraction =>
    simp [Digits.item, Item.text, Digits.followedBy, DurationUnit.symbol, DurationUnit.letter]

theorem TimeText.text_items (time : TimeText) :
    'T'.toUInt8 :: time.items.flatMap Item.text = time.bytes := by
  have seconds : ((time.seconds.map SecondsText.items).getD []).flatMap Item.text =
      optional time.seconds SecondsText.bytes := by
    cases time.seconds with
    | none => rfl
    | some seconds => exact seconds.text_items
  rw [items, flatMap_append, flatMap_append, text_optionalItem, text_optionalItem, seconds]
  rfl

variable {unit : DurationUnit} {digits : Option Digits} {item : Item}

theorem mem_optionalItem :
    item ∈ optionalItem unit digits ↔
      ∃ written, digits = some written ∧ item = written.item unit := by
  cases digits with
  | none => simp [optionalItem]
  | some written => simp [optionalItem]

theorem SecondsText.mem_items {seconds : SecondsText} (listed : item ∈ seconds.items) :
    ∃ digits : Digits, item = digits.item .seconds ∨ item = digits.item .wholeSeconds ∨
      item = digits.item .fraction := by
  unfold items at listed
  split at listed
  · exact ⟨seconds.whole, .inl (List.mem_singleton.mp listed)⟩
  · next fraction _ =>
      rcases List.mem_cons.mp listed with same | last
      · exact ⟨seconds.whole, .inr (.inl same)⟩
      · exact ⟨fraction, .inr (.inr (List.mem_singleton.mp last))⟩

variable {time : TimeText}

theorem TimeText.mem_items (listed : item ∈ time.items) :
    ∃ (digits : Digits) (unit : DurationUnit), item = digits.item unit ∧ unit.isDate = false := by
  rcases List.mem_append.mp listed with clock | seconds
  · rcases List.mem_append.mp clock with hours | minutes
    · obtain ⟨digits, _, same⟩ := mem_optionalItem.mp hours
      exact ⟨digits, .hours, same, rfl⟩
    · obtain ⟨digits, _, same⟩ := mem_optionalItem.mp minutes
      exact ⟨digits, .minutes, same, rfl⟩
  · cases found : time.seconds with
    | none =>
      rw [found] at seconds
      cases seconds
    | some written =>
      rw [found] at seconds
      obtain ⟨digits, same | same | same⟩ := SecondsText.mem_items seconds
      · exact ⟨digits, .seconds, same, rfl⟩
      · exact ⟨digits, .wholeSeconds, same, rfl⟩
      · exact ⟨digits, .fraction, same, rfl⟩

theorem TimeText.marked_items (listed : item ∈ time.items) : item.marked = false := by
  obtain ⟨digits, unit, rfl, _⟩ := TimeText.mem_items listed
  rfl

variable {duration : DurationText}

theorem DurationText.mem_dateItems (listed : item ∈ duration.dateItems) :
    ∃ (digits : Digits) (unit : DurationUnit), item = digits.item unit ∧ unit.isDate = true := by
  simp only [dateItems, List.mem_append, mem_optionalItem] at listed
  rcases listed with
    ((⟨digits, _, same⟩ | ⟨digits, _, same⟩) | ⟨digits, _, same⟩) | ⟨digits, _, same⟩
  · exact ⟨digits, .years, same, rfl⟩
  · exact ⟨digits, .months, same, rfl⟩
  · exact ⟨digits, .weeks, same, rfl⟩
  · exact ⟨digits, .days, same, rfl⟩

variable {items : List Item}

theorem text_designate (some_ : items ≠ []) (unmarked : ∀ item ∈ items, item.marked = false) :
    (designate items).flatMap Item.text = 'T'.toUInt8 :: items.flatMap Item.text := by
  cases items with
  | nil => exact absurd rfl some_
  | cons item rest => simp [designate, Item.text, unmarked item mem_cons_self]

theorem DurationText.bytes_eq (duration : DurationText) :
    duration.bytes =
      'P'.toUInt8 :: (duration.items.flatMap Item.text ++ duration.dangling) := by
  have date : duration.dateItems.flatMap Item.text =
      optional duration.years (·.followedBy 'Y') ++ optional duration.months (·.followedBy 'M') ++
        optional duration.weeks (·.followedBy 'W') ++
        optional duration.days (·.followedBy 'D') := by
    simp only [dateItems, flatMap_append, text_optionalItem]
    rfl
  have time : duration.timeItems.flatMap Item.text ++ duration.dangling =
      optional duration.time TimeText.bytes := by
    unfold timeItems dangling
    cases duration.time with
    | none => rfl
    | some time =>
      simp only [Option.map_some, Option.getD_some, optional, ← time.text_items]
      by_cases none : time.items = []
      · simp [none, designate]
      · simp [none, text_designate none fun _ => TimeText.marked_items]
  rw [items, flatMap_append, append_assoc, time, date]
  rfl

theorem DurationText.mem_timeItems (listed : item ∈ duration.timeItems) :
    ∃ time, duration.time = some time ∧ ∃ timed ∈ time.items,
      item = { timed with marked := item.marked } := by
  unfold timeItems at listed
  cases found : duration.time with
  | none =>
    rw [found] at listed
    cases listed
  | some time =>
    rw [found, Option.map_some, Option.getD_some] at listed
    refine ⟨time, rfl, ?_⟩
    cases shape : time.items with
    | nil =>
      rw [shape] at listed
      cases listed
    | cons first rest =>
      rw [shape, designate] at listed
      rcases List.mem_cons.mp listed with rfl | later
      · exact ⟨first, mem_cons_self, rfl⟩
      · exact ⟨item, List.mem_cons_of_mem _ later, rfl⟩

section Reading

open Duration (Chained)

theorem Digits.written (digits : Digits) (unit : DurationUnit) : (digits.item unit).Written :=
  ⟨digits.some_, digits.numeric⟩

theorem chained_optionalItem {parsingTime : Bool} {unit : DurationUnit} {digits : Option Digits}
    {rest : List Item} (known : unit.Follows parsingTime false)
    (noPoint : unit ≠ .wholeSeconds) (chained : Chained parsingTime false rest) :
    Chained parsingTime false (optionalItem unit digits ++ rest) := by
  cases digits with
  | none => exact chained
  | some digits =>
    have after : (unit == .wholeSeconds) = false := beq_false_of_ne noPoint
    have sameTime : (parsingTime || (digits.item unit).marked) = parsingTime := Bool.or_false _
    refine ⟨digits.written unit, ?_, ?_⟩
    · rw [sameTime]
      exact known
    · rw [sameTime, show (digits.item unit).unit = unit from rfl, after]
      exact chained

theorem SecondsText.chained_items (seconds : SecondsText) : Chained true false seconds.items := by
  have seconds_follow : DurationUnit.Follows true false .seconds := by decide
  have whole_follow : DurationUnit.Follows true false .wholeSeconds := by decide
  have fraction_follows : DurationUnit.Follows true true .fraction := by decide
  unfold items
  split
  · exact ⟨seconds.whole.written _, seconds_follow, trivial⟩
  · next fraction _ =>
      exact ⟨seconds.whole.written _, whole_follow, fraction.written _, fraction_follows, trivial⟩

theorem TimeText.chained_items (time : TimeText) : Chained true false time.items := by
  rw [items, append_assoc]
  apply chained_optionalItem (by decide) (by decide)
  apply chained_optionalItem (by decide) (by decide)
  cases time.seconds with
  | none => trivial
  | some seconds => exact seconds.chained_items

theorem chained_designate {items : List Item} (chained : Chained true false items) :
    Chained false false (designate items) := by
  cases items with
  | nil => trivial
  | cons item rest =>
    obtain ⟨written, known, others⟩ := chained
    exact ⟨⟨written.some_, written.numeric⟩, known, others⟩

theorem DurationText.chained_items (duration : DurationText) :
    Chained false false duration.items := by
  have time : Chained false false duration.timeItems := by
    unfold timeItems
    cases duration.time with
    | none => trivial
    | some time => exact chained_designate time.chained_items
  simp only [items, dateItems, append_assoc]
  apply chained_optionalItem (by decide) (by decide)
  apply chained_optionalItem (by decide) (by decide)
  apply chained_optionalItem (by decide) (by decide)
  exact chained_optionalItem (by decide) (by decide) time

end Reading

def kinds : List Item → List (Option DurationUnit)
  | [] => []
  | item :: rest => (if item.marked then [none] else []) ++ some item.unit :: kinds rest

def template (seconds : List DurationUnit) : List (Option DurationUnit) :=
  [some .years, some .months, some .weeks, some .days, none, some .hours, some .minutes] ++
    seconds.map some

/-- No unit twice or out of order, the designator where there is a time, and a fraction after the
point. -/
structure Ordered (items : List Item) : Prop where
  nonempty : items ≠ []
  order : Sublist (kinds items) (template [.seconds]) ∨
    Sublist (kinds items) (template [.wholeSeconds, .fraction])
  designated : (∃ item ∈ items, item.unit.isDate = false) → none ∈ kinds items
  fraction : some .wholeSeconds ∈ kinds items ↔ some .fraction ∈ kinds items

theorem kinds_append (first second : List Item) :
    kinds (first ++ second) = kinds first ++ kinds second := by
  induction first with
  | nil => rfl
  | cons item rest ih => simp [kinds, ih]

theorem some_mem_kinds : some unit ∈ kinds items ↔ ∃ item ∈ items, item.unit = unit := by
  induction items with
  | nil => simp [kinds]
  | cons item rest ih =>
    cases marked : item.marked <;> simp [kinds, marked, ih, eq_comm]

theorem none_mem_kinds : none ∈ kinds items ↔ ∃ item ∈ items, item.marked = true := by
  induction items with
  | nil => simp [kinds]
  | cons item rest ih =>
    cases marked : item.marked <;> simp [kinds, marked, ih]

theorem kinds_optionalItem (unit : DurationUnit) (digits : Option Digits) :
    Sublist (kinds (optionalItem unit digits)) [some unit] := by
  cases digits with
  | none => exact nil_sublist _
  | some digits => exact List.Sublist.refl _

theorem kinds_designate (unmarked : ∀ item ∈ items, item.marked = false) :
    Sublist (kinds (designate items)) (none :: kinds items) := by
  cases items with
  | nil => exact nil_sublist _
  | cons item rest => simp [designate, kinds, unmarked item mem_cons_self]

def IsSeconds (units : List DurationUnit) : Prop :=
  units = [.seconds] ∨ units = [.wholeSeconds, .fraction]

theorem SecondsText.kinds_items (seconds : SecondsText) :
    ∃ units, IsSeconds units ∧ kinds seconds.items = units.map some := by
  unfold items
  split
  · exact ⟨_, .inl rfl, rfl⟩
  · exact ⟨_, .inr rfl, rfl⟩

theorem TimeText.kinds_items (time : TimeText) :
    ∃ units, IsSeconds units ∧
      Sublist (kinds time.items) ([some .hours] ++ [some .minutes] ++ units.map some) := by
  have clock := (kinds_optionalItem .hours time.hours).append
    (kinds_optionalItem .minutes time.minutes)
  simp only [items, kinds_append]
  cases time.seconds with
  | none => exact ⟨_, .inl rfl, clock.append (nil_sublist _)⟩
  | some seconds =>
    obtain ⟨units, form, same⟩ := seconds.kinds_items
    exact ⟨units, form, clock.append (same ▸ List.Sublist.refl _)⟩

theorem DurationText.kinds_items (duration : DurationText) :
    ∃ units, IsSeconds units ∧ Sublist (kinds duration.items) (template units) := by
  have date : Sublist (kinds duration.dateItems)
      ([some .years] ++ [some .months] ++ [some .weeks] ++ [some .days]) := by
    simp only [dateItems, kinds_append]
    exact (((kinds_optionalItem _ _).append (kinds_optionalItem _ _)).append
      (kinds_optionalItem _ _)).append (kinds_optionalItem _ _)
  rw [items, kinds_append, timeItems]
  cases duration.time with
  | none => exact ⟨_, .inl rfl, date.append (nil_sublist _)⟩
  | some time =>
    obtain ⟨units, form, inOrder⟩ := time.kinds_items
    have unmarked : ∀ item ∈ time.items, item.marked = false :=
      fun _ listed => TimeText.marked_items listed
    have designated := kinds_designate unmarked
    exact ⟨units, form, date.append (designated.trans (inOrder.cons_cons _))⟩

theorem exists_unit_designate :
    (∃ item ∈ designate items, item.unit = unit) ↔ ∃ item ∈ items, item.unit = unit := by
  cases items with
  | nil => rfl
  | cons item rest => simp [designate]

theorem TimeText.fraction_iff (time : TimeText) :
    (∃ item ∈ time.items, item.unit = .wholeSeconds) ↔
      ∃ item ∈ time.items, item.unit = .fraction := by
  obtain ⟨hours, minutes, seconds⟩ := time
  rcases seconds with _ | ⟨whole, _ | fraction⟩ <;> cases hours <;> cases minutes <;>
    simp [items, optionalItem, SecondsText.items, Digits.item]

theorem DurationText.exists_unit_iff (later : unit.isDate = false) :
    (∃ item ∈ duration.items, item.unit = unit) ↔
      ∃ time, duration.time = some time ∧ ∃ item ∈ time.items, item.unit = unit := by
  constructor
  · rintro ⟨item, listed, same⟩
    rcases List.mem_append.mp listed with date | timed
    · obtain ⟨digits, dateUnit, rfl, early⟩ := mem_dateItems date
      have clash : dateUnit = unit := same
      rw [clash, later] at early
      cases early
    · unfold timeItems at timed
      cases found : duration.time with
      | none =>
        rw [found] at timed
        cases timed
      | some time =>
        rw [found] at timed
        exact ⟨time, rfl, exists_unit_designate.mp ⟨item, timed, same⟩⟩
  · rintro ⟨time, found, within⟩
    obtain ⟨item, listed, same⟩ := exists_unit_designate.mpr within
    refine ⟨item, mem_append_right _ ?_, same⟩
    rw [timeItems, found]
    exact listed

theorem DurationText.ordered_items (some_ : duration.items ≠ []) : Ordered duration.items := by
  constructor
  · exact some_
  · obtain ⟨units, rfl | rfl, inOrder⟩ := duration.kinds_items
    · exact .inl inOrder
    · exact .inr inOrder
  · rintro ⟨item, listed, later⟩
    obtain ⟨time, found, timed, listedToo, _⟩ :=
      (exists_unit_iff later).mp ⟨item, listed, rfl⟩
    rw [none_mem_kinds]
    cases shape : time.items with
    | nil =>
      rw [shape] at listedToo
      cases listedToo
    | cons first rest =>
      refine ⟨{ first with marked := true }, mem_append_right _ ?_, rfl⟩
      simp [timeItems, found, shape, designate]
  · rw [some_mem_kinds, some_mem_kinds, exists_unit_iff rfl, exists_unit_iff rfl]
    constructor
    · rintro ⟨time, found, whole⟩
      exact ⟨time, found, time.fraction_iff.mp whole⟩
    · rintro ⟨time, found, fraction⟩
      exact ⟨time, found, time.fraction_iff.mpr fraction⟩

theorem exists_optionalItem {units : List (Option DurationUnit)}
    (written : ∀ item ∈ items, item.Written)
    (inOrder : Sublist (kinds items) (some unit :: units)) :
    ∃ digits rest, items = optionalItem unit digits ++ rest ∧ Sublist (kinds rest) units := by
  rcases List.sublist_cons_iff.mp inOrder with without | ⟨others, shape, inOrder⟩
  · exact ⟨none, items, rfl, without⟩
  · cases items with
    | nil => cases shape
    | cons item rest =>
      obtain ⟨marked, digits, itemUnit⟩ := item
      cases marked with
      | true => cases shape
      | false =>
        cases shape
        obtain ⟨some_, numeric⟩ := written _ mem_cons_self
        exact ⟨some ⟨digits, some_, numeric⟩, rest, rfl, inOrder⟩

theorem exists_designated {units : List (Option DurationUnit)}
    (inOrder : Sublist (kinds items) (none :: units)) :
    Sublist (kinds items) units ∨
      ∃ item rest, items = designate (item :: rest) ∧ item.marked = false ∧
        Sublist (kinds (item :: rest)) units := by
  rcases List.sublist_cons_iff.mp inOrder with without | ⟨others, shape, inOrder⟩
  · exact .inl without
  · right
    cases items with
    | nil => cases shape
    | cons item rest =>
      obtain ⟨marked, digits, unit⟩ := item
      cases marked with
      | false => cases shape
      | true =>
        cases shape
        exact ⟨⟨false, digits, unit⟩, rest, rfl, rfl, inOrder⟩

theorem eq_nil_of_kinds (none_ : Sublist (kinds items) []) : items = [] := by
  cases items with
  | nil => rfl
  | cons item rest =>
    have shape := List.sublist_nil.mp none_
    simp [kinds] at shape

variable {units : List DurationUnit}

theorem exists_seconds (form : IsSeconds units) (written : ∀ item ∈ items, item.Written)
    (inOrder : Sublist (kinds items) (units.map some))
    (fraction : (∃ item ∈ items, item.unit = .wholeSeconds) ↔
      ∃ item ∈ items, item.unit = .fraction) :
    ∃ seconds : Option SecondsText, items = (seconds.map SecondsText.items).getD [] := by
  rcases form with rfl | rfl
  · obtain ⟨digits, rest, rfl, nothing⟩ := exists_optionalItem written inOrder
    rw [eq_nil_of_kinds nothing, append_nil]
    cases digits with
    | none => exact ⟨none, rfl⟩
    | some digits => exact ⟨some ⟨digits, none⟩, rfl⟩
  · obtain ⟨whole, rest, rfl, restInOrder⟩ := exists_optionalItem written inOrder
    obtain ⟨digits, others, rfl, nothing⟩ := exists_optionalItem
      (fun item listed => written item (mem_append_right _ listed)) restInOrder
    rw [eq_nil_of_kinds nothing, append_nil] at fraction ⊢
    cases whole with
    | none =>
      cases digits with
      | none => exact ⟨none, rfl⟩
      | some digits => simp [optionalItem, Digits.item] at fraction
    | some whole =>
      cases digits with
      | none => simp [optionalItem, Digits.item] at fraction
      | some digits => exact ⟨some ⟨whole, some digits⟩, rfl⟩

theorem exists_time (form : IsSeconds units) (written : ∀ item ∈ items, item.Written)
    (inOrder : Sublist (kinds items) (some .hours :: some .minutes :: units.map some))
    (fraction : (∃ item ∈ items, item.unit = .wholeSeconds) ↔
      ∃ item ∈ items, item.unit = .fraction) : ∃ time : TimeText, items = time.items := by
  obtain ⟨hours, rest, rfl, restInOrder⟩ := exists_optionalItem written inOrder
  have restWritten : ∀ item ∈ rest, item.Written :=
    fun item listed => written item (mem_append_right _ listed)
  obtain ⟨minutes, last, rfl, lastInOrder⟩ := exists_optionalItem restWritten restInOrder
  have lastWritten : ∀ item ∈ last, item.Written :=
    fun item listed => restWritten item (mem_append_right _ listed)
  have lastFraction : (∃ item ∈ last, item.unit = .wholeSeconds) ↔
      ∃ item ∈ last, item.unit = .fraction := by
    cases hours <;> cases minutes <;> simpa [optionalItem, Digits.item] using fraction
  obtain ⟨seconds, rfl⟩ := exists_seconds form lastWritten lastInOrder lastFraction
  exact ⟨⟨hours, minutes, seconds⟩, (append_assoc _ _ _).symm⟩

theorem optionalItem_eq_nil_iff : optionalItem unit digits = [] ↔ digits = none := by
  cases digits <;> simp [optionalItem]

theorem TimeText.hasComponent_iff (time : TimeText) : time.HasComponent ↔ time.items ≠ [] := by
  obtain ⟨hours, minutes, seconds⟩ := time
  have last : ((seconds.map SecondsText.items).getD []) = [] ↔ seconds = none := by
    rcases seconds with _ | ⟨whole, _ | fraction⟩ <;> simp [SecondsText.items]
  simp only [HasComponent, items, ne_eq, List.append_eq_nil_iff, optionalItem_eq_nil_iff, last,
    Option.isSome_iff_ne_none, not_and_or, or_assoc]

theorem DurationText.hasComponent_iff (duration : DurationText) :
    duration.HasComponent ↔ duration.items ≠ [] := by
  have time : (∃ time, duration.time = some time ∧ time.HasComponent) ↔
      duration.timeItems ≠ [] := by
    unfold timeItems
    cases duration.time with
    | none => simp [designate]
    | some time =>
      rw [Option.map_some, Option.getD_some]
      have found : (∃ other, some time = some other ∧ other.HasComponent) ↔ time.HasComponent := by
        simp
      rw [found, time.hasComponent_iff]
      cases time.items <;> simp [designate]
  rw [HasComponent, time]
  simp only [items, dateItems, ne_eq, List.append_eq_nil_iff, optionalItem_eq_nil_iff,
    Option.isSome_iff_ne_none, not_and_or, or_assoc]

theorem exists_date (written : ∀ item ∈ items, item.Written)
    (inOrder : Sublist (kinds items) (template units)) :
    ∃ (date : DurationText) (rest : List Item), items = date.dateItems ++ rest ∧
      Sublist (kinds rest) (none :: some .hours :: some .minutes :: units.map some) := by
  obtain ⟨years, afterYears, rfl, monthsOrder⟩ := exists_optionalItem written inOrder
  have monthsWritten : ∀ item ∈ afterYears, item.Written :=
    fun item listed => written item (mem_append_right _ listed)
  obtain ⟨months, afterMonths, rfl, weeksOrder⟩ := exists_optionalItem monthsWritten monthsOrder
  have weeksWritten : ∀ item ∈ afterMonths, item.Written :=
    fun item listed => monthsWritten item (mem_append_right _ listed)
  obtain ⟨weeks, afterWeeks, rfl, daysOrder⟩ := exists_optionalItem weeksWritten weeksOrder
  have daysWritten : ∀ item ∈ afterWeeks, item.Written :=
    fun item listed => weeksWritten item (mem_append_right _ listed)
  obtain ⟨days, rest, rfl, restOrder⟩ := exists_optionalItem daysWritten daysOrder
  refine ⟨⟨years, months, weeks, days, none⟩, rest, ?_, restOrder⟩
  simp only [DurationText.dateItems, append_assoc]

theorem isDate_of_time (form : IsSeconds units)
    (listed : some unit ∈ some .hours :: some .minutes :: units.map some) :
    unit.isDate = false := by
  rcases form with rfl | rfl <;> simp at listed <;> rcases listed with rfl | rfl | rfl | rfl <;> rfl

theorem Ordered.exists_text (ordered : Ordered items) (written : ∀ item ∈ items, item.Written) :
    ∃ duration : DurationText, duration.items = items ∧ duration.dangling = [] := by
  obtain ⟨units, form, inOrder⟩ : ∃ units, IsSeconds units ∧
      Sublist (kinds items) (template units) := by
    rcases ordered.order with inOrder | inOrder
    · exact ⟨_, .inl rfl, inOrder⟩
    · exact ⟨_, .inr rfl, inOrder⟩
  obtain ⟨date, rest, rfl, restInOrder⟩ := exists_date written inOrder
  rcases exists_designated restInOrder with unmarked | ⟨item, others, rfl, _, timeInOrder⟩
  · -- without a designator there is no time
    have nothing : rest = [] := by
      cases rest with
      | nil => rfl
      | cons item others =>
        have unit : some item.unit ∈ kinds (item :: others) :=
          some_mem_kinds.mpr ⟨item, mem_cons_self, rfl⟩
        have later := isDate_of_time form (unmarked.subset unit)
        have designated := ordered.designated
          ⟨item, mem_append_right _ mem_cons_self, later⟩
        obtain ⟨marked, listed, isMarked⟩ := none_mem_kinds.mp designated
        rcases List.mem_append.mp listed with early | late
        · obtain ⟨digits, _, rfl, _⟩ := DurationText.mem_dateItems early
          cases isMarked
        · have impossible := unmarked.subset (none_mem_kinds.mpr ⟨marked, late, isMarked⟩)
          simp at impossible
    subst nothing
    exact ⟨{ date with time := none }, rfl, rfl⟩
  · have inTime : ∀ unit : DurationUnit, unit.isDate = false →
        ((∃ found ∈ date.dateItems ++ designate (item :: others), found.unit = unit) ↔
          ∃ timed ∈ item :: others, timed.unit = unit) := by
      intro unit later
      refine Iff.trans ?_ exists_unit_designate
      constructor
      · rintro ⟨found, listed, same⟩
        rcases List.mem_append.mp listed with early | late
        · obtain ⟨digits, dateUnit, rfl, isDate⟩ := DurationText.mem_dateItems early
          have clash : dateUnit = unit := same
          rw [clash, later] at isDate
          cases isDate
        · exact ⟨found, late, same⟩
      · rintro ⟨found, listed, same⟩
        exact ⟨found, mem_append_right _ listed, same⟩
    have fraction := ordered.fraction
    rw [some_mem_kinds, some_mem_kinds, inTime _ rfl, inTime _ rfl] at fraction
    have timeWritten : ∀ timed ∈ item :: others, timed.Written := by
      have marked := fun timed listed => written timed (mem_append_right _ listed)
      rw [designate, List.forall_mem_cons] at marked
      rw [List.forall_mem_cons]
      exact ⟨⟨marked.1.some_, marked.1.numeric⟩, marked.2⟩
    obtain ⟨time, shape⟩ := exists_time form timeWritten timeInOrder fraction
    refine ⟨{ date with time := some time }, ?_, ?_⟩
    · rw [shape]
      rfl
    · simp [DurationText.dangling, ← shape]

namespace Duration

variable {items : List Item}

theorem two_le_length_text {item : Item} (written : item.Written) : 2 ≤ item.text.length := by
  have digits := List.length_pos_of_ne_nil written.some_
  simp only [Item.text, List.length_append, List.length_singleton]
  omega

theorem Chained.eq_of_text {others : List Item} {rest : Str} (short : rest.length ≤ 1)
    (chained : Chained false false items) (chainedToo : Chained false false others)
    (same : items.flatMap Item.text = others.flatMap Item.text ++ rest) :
    items = others ∧ rest = [] := by
  obtain ⟨added, rfl, remaining⟩ := chained.prefix_of_text chainedToo same
  cases added with
  | nil => exact ⟨append_nil _, remaining.symm⟩
  | cons item more =>
    have long := two_le_length_text
      (chained.written item (mem_append_right _ mem_cons_self))
    rw [← remaining, List.flatMap_cons, List.length_append] at short
    omega

theorem timeItems_eq_nil_iff (duration : DurationText) :
    duration.timeItems = [] ↔ none ∉ kinds duration.items := by
  rw [none_mem_kinds]
  constructor
  · rintro nothing ⟨item, listed, marked⟩
    rw [DurationText.items, nothing, append_nil] at listed
    obtain ⟨digits, unit, rfl, _⟩ := DurationText.mem_dateItems listed
    cases marked
  · intro unmarked
    unfold DurationText.timeItems
    cases shape : (duration.time.map TimeText.items).getD [] with
    | nil => rfl
    | cons item rest =>
      refine absurd ⟨{ item with marked := true }, mem_append_right _ ?_, rfl⟩ unmarked
      rw [DurationText.timeItems, shape]
      exact mem_cons_self

theorem dangling_cases (duration : DurationText) :
    duration.dangling = [] ∨ duration.dangling = ['T'.toUInt8] ∧ duration.timeItems = [] := by
  unfold DurationText.dangling DurationText.timeItems
  cases duration.time with
  | none => exact .inl rfl
  | some time => by_cases nothing : time.items = [] <;> simp [nothing, designate]

theorem inGrammar_iff (chained : Chained false false items) :
    InGrammar ('P'.toUInt8 :: items.flatMap Item.text) ↔ Ordered items := by
  constructor
  · rintro ⟨duration, hasComponent, same⟩
    rw [duration.bytes_eq, List.cons.injEq] at same
    have short : duration.dangling.length ≤ 1 := by
      rcases dangling_cases duration with whole | ⟨designated, _⟩
      · simp [whole]
      · simp [designated]
    obtain ⟨rfl, _⟩ := chained.eq_of_text short duration.chained_items same.2.symm
    exact DurationText.ordered_items (duration.hasComponent_iff.mp hasComponent)
  · intro ordered
    obtain ⟨duration, rfl, whole⟩ := ordered.exists_text chained.written
    refine ⟨duration, duration.hasComponent_iff.mpr ordered.nonempty, ?_⟩
    rw [duration.bytes_eq, whole, append_nil]

/-- A `T` with no time behind it is of the grammar as well. -/
theorem inGrammar_designator_iff (chained : Chained false false items) :
    InGrammar ('P'.toUInt8 :: (items.flatMap Item.text ++ ['T'.toUInt8])) ↔
      Ordered items ∧ none ∉ kinds items := by
  constructor
  · rintro ⟨duration, hasComponent, same⟩
    rw [duration.bytes_eq, List.cons.injEq] at same
    rcases dangling_cases duration with whole | ⟨designated, noTime⟩
    · rw [whole, append_nil] at same
      cases (duration.chained_items.eq_of_text (by simp) chained same.2).2
    · rw [designated] at same
      have texts := List.append_cancel_right same.2
      rw [← append_nil (items.flatMap Item.text)] at texts
      obtain ⟨rfl, _⟩ := duration.chained_items.eq_of_text (by simp) chained texts
      exact ⟨DurationText.ordered_items (duration.hasComponent_iff.mp hasComponent),
        (timeItems_eq_nil_iff duration).mp noTime⟩
  · rintro ⟨ordered, unmarked⟩
    obtain ⟨date, rfl, _⟩ := ordered.exists_text chained.written
    have noTime := (timeItems_eq_nil_iff date).mpr unmarked
    let duration : DurationText := { date with time := some ⟨none, none, none⟩ }
    have same : duration.items = date.items := by
      rw [DurationText.items, DurationText.items, noTime]
      rfl
    refine ⟨duration, duration.hasComponent_iff.mpr (same ▸ ordered.nonempty), ?_⟩
    rw [duration.bytes_eq, same]
    rfl

/-- The texts of the grammar by their items: these are in order, and only a `T` may stand behind
them, for a time that is left out. -/
theorem inGrammar_cases {str : Str} (inGrammar : InGrammar str) :
    ∃ items, Chained false false items ∧
      (str = 'P'.toUInt8 :: items.flatMap Item.text ∨
        str = 'P'.toUInt8 :: (items.flatMap Item.text ++ ['T'.toUInt8])) := by
  obtain ⟨duration, _, rfl⟩ := inGrammar
  refine ⟨duration.items, duration.chained_items, ?_⟩
  rw [duration.bytes_eq]
  rcases dangling_cases duration with whole | ⟨designated, _⟩
  · exact .inl (by rw [whole, append_nil])
  · exact .inr (by rw [designated])

theorem accepted_items_iff (text : String) (chained : Chained false false items)
    (shape : utf8Bytes text = 'P'.toUInt8 :: items.flatMap Item.text) :
    (∃ duration, fromStr (utf8Bytes text) = .ok duration) ↔
      (∀ item ∈ items, item.number < 2 ^ 64) ∧ Fits 0 0 0 items := by
  constructor
  · rintro ⟨duration, accepted⟩
    obtain ⟨others, opening, fits, _⟩ := (accepted_iff text).mp accepted
    have same := (List.cons.inj (shape.symm.trans opening.text)).2
    obtain ⟨rfl, _⟩ := chained.eq_of_text (by simp) opening.chained same
    exact ⟨opening.bounded, fits⟩
  · rintro ⟨bounded, fits⟩
    refine ⟨_, (accepted_iff text).mpr ⟨items, ⟨?_, chained, bounded⟩, fits, rfl⟩⟩
    rw [shape, append_nil]

theorem not_accepted_designator (text : String) (chained : Chained false false items)
    (shape : utf8Bytes text = 'P'.toUInt8 :: (items.flatMap Item.text ++ ['T'.toUInt8])) :
    ¬ ∃ duration, fromStr (utf8Bytes text) = .ok duration := by
  rintro ⟨duration, accepted⟩
  obtain ⟨others, opening, _⟩ := (accepted_iff text).mp accepted
  have same := (List.cons.inj (opening.text.symm.trans shape)).2
  rw [append_nil] at same
  cases (opening.chained.eq_of_text (by simp) chained same).2

/-- A text is accepted exactly if it is of the grammar, except for these: items that are in order
with a number or a sum that does not fit, items that fit out of order, and items in order with a
`T` at the end. Two bits of memory do not keep the parser from accepting units out of order. -/
theorem accepted_inGrammar_iff (text : String) :
    ((∃ duration, fromStr (utf8Bytes text) = .ok duration) ↔ InGrammar (utf8Bytes text)) ↔
      ∀ items, Chained false false items →
        (utf8Bytes text = 'P'.toUInt8 :: items.flatMap Item.text →
          (Ordered items ↔ (∀ item ∈ items, item.number < 2 ^ 64) ∧ Fits 0 0 0 items)) ∧
        (utf8Bytes text = 'P'.toUInt8 :: (items.flatMap Item.text ++ ['T'.toUInt8]) →
          ¬ (Ordered items ∧ none ∉ kinds items)) := by
  constructor
  · intro same items chained
    constructor
    · intro shape
      rw [← inGrammar_iff chained, ← shape, ← same, accepted_items_iff text chained shape]
    · intro shape
      rw [← inGrammar_designator_iff chained, ← shape, ← same]
      exact not_accepted_designator text chained shape
  · intro within
    constructor
    · rintro ⟨duration, accepted⟩
      obtain ⟨items, opening, fits, _⟩ := (accepted_iff text).mp accepted
      have shape := opening.text
      rw [append_nil] at shape
      rw [shape, inGrammar_iff opening.chained]
      exact ((within items opening.chained).1 shape).mpr ⟨opening.bounded, fits⟩
    · intro inGrammar
      obtain ⟨items, chained, shape | shape⟩ := inGrammar_cases inGrammar
      · rw [accepted_items_iff text chained shape]
        rw [shape, inGrammar_iff chained] at inGrammar
        exact ((within items chained).1 shape).mp inGrammar
      · rw [shape, inGrammar_designator_iff chained] at inGrammar
        exact absurd inGrammar ((within items chained).2 shape)

instance (items : List Item) : Decidable (Ordered items) :=
  decidable_of_iff (items ≠ [] ∧ (Sublist (kinds items) (template [.seconds]) ∨
      Sublist (kinds items) (template [.wholeSeconds, .fraction])) ∧
      ((∃ item ∈ items, item.unit.isDate = false) → none ∈ kinds items) ∧
      (some .wholeSeconds ∈ kinds items ↔ some .fraction ∈ kinds items))
    ⟨fun ⟨nonempty, order, designated, fraction⟩ => ⟨nonempty, order, designated, fraction⟩,
      fun ordered => ⟨ordered.nonempty, ordered.order, ordered.designated, ordered.fraction⟩⟩

instance (item : Item) : Decidable item.Written :=
  decidable_of_iff (item.digits.isEmpty = false ∧ item.digits.all Str.isAsciiDigit = true)
    ⟨fun ⟨some_, numeric⟩ => ⟨List.isEmpty_eq_false_iff.mp some_, List.all_eq_true.mp numeric⟩,
      fun written =>
        ⟨List.isEmpty_eq_false_iff.mpr written.some_, List.all_eq_true.mpr written.numeric⟩⟩

instance decidableChained (parsingTime afterPoint : Bool) :
    (items : List Item) → Decidable (Chained parsingTime afterPoint items)
  | [] => .isTrue trivial
  | item :: rest =>
    have := decidableChained (parsingTime || item.marked) (item.unit == .wholeSeconds) rest
    inferInstanceAs (Decidable (_ ∧ _ ∧ _))

theorem not_inGrammar {str : Str} (items : List Item) (chained : Chained false false items)
    (shape : str = 'P'.toUInt8 :: items.flatMap Item.text) (unordered : ¬ Ordered items) :
    ¬ InGrammar str := by
  rw [shape, inGrammar_iff chained]
  exact unordered

theorem unordered_accepted :
    (fromStr (utf8Bytes "P") = .ok ⟨0, 0, 0⟩ ∧ ¬ InGrammar (utf8Bytes "P")) ∧
    (fromStr (utf8Bytes "P1H") = .ok ⟨0, 0, 3600000000000⟩ ∧ ¬ InGrammar (utf8Bytes "P1H")) ∧
    (fromStr (utf8Bytes "PT1D") = .ok ⟨0, 1, 0⟩ ∧ ¬ InGrammar (utf8Bytes "PT1D")) ∧
    (fromStr (utf8Bytes "PT1HT1M") = .ok ⟨0, 0, 3660000000000⟩ ∧
      ¬ InGrammar (utf8Bytes "PT1HT1M")) ∧
    fromStr (utf8Bytes "PT1.") = .ok ⟨0, 0, 1000000000⟩ ∧ ¬ InGrammar (utf8Bytes "PT1.") := by
  let one : Str := utf8Bytes "1"
  refine ⟨⟨by decide +kernel, not_inGrammar [] ?_ ?_ ?_⟩,
    ⟨by decide +kernel, not_inGrammar [⟨false, one, .hours⟩] ?_ ?_ ?_⟩,
    ⟨by decide +kernel, not_inGrammar [⟨true, one, .days⟩] ?_ ?_ ?_⟩,
    ⟨by decide +kernel,
      not_inGrammar [⟨true, one, .hours⟩, ⟨true, one, .minutes⟩] ?_ ?_ ?_⟩,
    by decide +kernel, not_inGrammar [⟨true, one, .wholeSeconds⟩] ?_ ?_ ?_⟩
  all_goals decide +kernel

end Duration

end TypeDBDriver
