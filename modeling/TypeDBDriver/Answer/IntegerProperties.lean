import TypeDBDriver.Answer.JsonProperties

/-! Integers in fetched documents: where they stand, the text that is written there, and when
it is the integer. -/

namespace TypeDBDriver

open Library
open Proto (F64)
open Json.Context (plug)
open Json (Context Same joined)

/-- A place inside a value: the value itself, or a place in a field of a struct. -/
inductive ValuePlace where
  | whole
  | field (before : List (String × Option Value)) (key : String) (inner : ValuePlace)
      (after : List (String × Option Value)) (name : String)

def ValuePlace.plug : ValuePlace → Value → Value
  | .whole, value => value
  | .field before key inner after name, value =>
    .struct (before ++ (key, some (inner.plug value)) :: after) name

/-- A place in a document: in a value, in the value of an attribute, or further down. -/
inductive NodePlace where
  | leafValue (inner : ValuePlace)
  | leafAttribute (iid : IID) (type_ : Option AttributeType) (inner : ValuePlace)
  | entry (before : List (String × Node)) (key : String) (inner : NodePlace)
      (after : List (String × Node))
  | elem (before : List Node) (inner : NodePlace) (after : List Node)

def NodePlace.plug : NodePlace → Value → Node
  | .leafValue inner, value => .leaf (some (.concept (.value (inner.plug value))))
  | .leafAttribute iid type_ inner, value =>
    .leaf (some (.concept (.attribute ⟨iid, type_, inner.plug value⟩)))
  | .entry before key inner after, value => .map (before ++ (key, inner.plug value) :: after)
  | .elem before inner after, value => .list (before ++ inner.plug value :: after)

structure Place where
  header : ConceptDocumentHeader
  node : NodePlace

def Place.document (place : Place) (value : Value) : ConceptDocument :=
  ⟨place.header, some (place.node.plug value)⟩

section Conversion

variable (format : ChronoFormat)

theorem jsonStruct_append (first second : List (String × Option Value)) :
    jsonStruct format (first ++ second) = jsonStruct format first ++ jsonStruct format second := by
  induction first with
  | nil => rfl
  | cons field rest ih =>
    obtain ⟨key, value⟩ := field
    cases value <;> simp only [List.cons_append, jsonStruct, ih]

def ValuePlace.json : ValuePlace → Context F64
  | .whole => .hole
  | .field before key inner after name =>
    .member [] name (.member (jsonStruct format before) key inner.json (jsonStruct format after))
      []

theorem jsonValue_plug (place : ValuePlace) (value : Value) :
    jsonValue format (place.plug value) = (place.json format).plug (jsonValue format value) := by
  induction place with
  | whole => rfl
  | field before key inner after name ih =>
    simp only [ValuePlace.plug, ValuePlace.json, plug, jsonValue, jsonStruct_append,
      jsonStruct, ih, List.nil_append]

theorem listIntoJson_eq_traverse (nodes : List Node) :
    Node.listIntoJson format nodes = Outcome.traverse (Node.intoJson format) nodes := by
  induction nodes with
  | nil => rfl
  | cons node rest ih => rw [Node.listIntoJson, Outcome.traverse, ih]

def entryIntoJson (entry : String × Node) : Outcome Empty (String × JSON) := do
  let value ← entry.2.intoJson format
  .ok (entry.1, value)

theorem entriesIntoJson_eq_traverse (entries : List (String × Node)) :
    Node.entriesIntoJson format entries = Outcome.traverse (entryIntoJson format) entries := by
  induction entries with
  | nil => rfl
  | cons entry rest ih =>
    obtain ⟨key, node⟩ := entry
    rw [Node.entriesIntoJson, Outcome.traverse, ih, entryIntoJson]
    cases node.intoJson format <;> rfl

theorem intoJson_plug {place : NodePlace} {some_ : Value} {json : JSON}
    (converted : (place.plug some_).intoJson format = .ok json) :
    ∃ context : Context F64, ∀ value,
      (place.plug value).intoJson format = .ok (context.plug (jsonValue format value)) := by
  induction place generalizing json with
  | leafValue inner =>
    refine ⟨inner.json format, ?_⟩
    intro value
    exact congrArg Outcome.ok (jsonValue_plug format inner value)
  | leafAttribute iid type_ inner =>
    refine ⟨inner.json format, ?_⟩
    intro value
    exact congrArg Outcome.ok (jsonValue_plug format inner value)
  | entry before key inner after ih =>
    simp only [NodePlace.plug, Node.intoJson, entriesIntoJson_eq_traverse,
      Outcome.bind_eq_ok_iff, Outcome.traverse_append_cons] at converted
    obtain ⟨_, ⟨first, _, second, firstOk, entryOk, secondOk, _⟩, _⟩ := converted
    obtain ⟨_, innerOk, _⟩ := Outcome.bind_eq_ok_iff.mp entryOk
    obtain ⟨context, each⟩ := ih innerOk
    refine ⟨.member first key context second, ?_⟩
    intro value
    have entry : entryIntoJson format (key, inner.plug value) =
        .ok (key, context.plug (jsonValue format value)) := by
      rw [entryIntoJson, each value]
      rfl
    have members := Outcome.traverse_append_cons.mpr
      ⟨first, _, second, firstOk, entry, secondOk, rfl⟩
    simp only [NodePlace.plug, Node.intoJson, entriesIntoJson_eq_traverse, members,
      Outcome.ok_bind, plug]
  | elem before inner after ih =>
    simp only [NodePlace.plug, Node.intoJson, listIntoJson_eq_traverse, Outcome.bind_eq_ok_iff,
      Outcome.traverse_append_cons] at converted
    obtain ⟨_, ⟨first, _, second, firstOk, innerOk, secondOk, _⟩, _⟩ := converted
    obtain ⟨context, each⟩ := ih innerOk
    refine ⟨.elem first context second, ?_⟩
    intro value
    have elems := Outcome.traverse_append_cons.mpr
      ⟨first, _, second, firstOk, each value, secondOk, rfl⟩
    simp only [NodePlace.plug, Node.intoJson, listIntoJson_eq_traverse, elems,
      Outcome.ok_bind, plug]

end Conversion

namespace JSON

theorem joined_around (before after : List Text) :
    ∃ left right, ∀ text, joined (before ++ text :: after) = left ++ text ++ right := by
  induction before with
  | nil =>
    cases after with
    | nil => exact ⟨[], [], fun text => by simp [joined]⟩
    | cons next after =>
      exact ⟨[], ',' :: ' ' :: joined (next :: after), fun text => by simp [joined]⟩
  | cons head before ih =>
    obtain ⟨left, right, around⟩ := ih
    refine ⟨head ++ ',' :: ' ' :: left, right, ?_⟩
    intro text
    have inner := around text
    cases before with
    | nil => simp only [List.nil_append, List.cons_append, joined] at inner ⊢; simp [inner]
    | cons next before => simp only [List.cons_append, joined] at inner ⊢; simp [inner]

theorem fmt_plug (number : F64 → Text) (context : Context F64) :
    ∃ left right, ∀ json, fmt number (context.plug json) = left ++ fmt number json ++ right := by
  induction context with
  | hole => exact ⟨[], [], fun json => by simp [plug]⟩
  | member before key inner after ih =>
    obtain ⟨innerLeft, innerRight, innerText⟩ := ih
    obtain ⟨left, right, around⟩ :=
      joined_around (before.map (memberText number)) (after.map (memberText number))
    refine ⟨'{' :: left ++ '"' :: key.toList ++ ['"', ':', ' '] ++ innerLeft,
      innerRight ++ right ++ ['}'], ?_⟩
    intro json
    simp only [plug, fmt_object, List.map_append, List.map_cons, around, memberText, innerText]
    simp
  | elem before inner after ih =>
    obtain ⟨innerLeft, innerRight, innerText⟩ := ih
    obtain ⟨left, right, around⟩ :=
      joined_around (before.map (fmt number)) (after.map (fmt number))
    refine ⟨'[' :: left ++ innerLeft, innerRight ++ right ++ [']'], ?_⟩
    intro json
    simp only [plug, fmt_array, List.map_append, List.map_cons, around, innerText]
    simp

def isNumeric (char : Char) : Bool := char.isDigit || char == '-'

/-- How often the token stands in the text between characters that belong to no integer. -/
def occurrences (token text : Text) : Nat :=
  (text.splitOnP fun char => !isNumeric char).count token

section Occurrences

variable {token : Text} (nonempty : token ≠ []) {separator : Char}

theorem occurrences_separator (separates : isNumeric separator = false) (first second : Text) :
    occurrences token (first ++ separator :: second) =
      occurrences token first + occurrences token second := by
  rw [occurrences, List.splitOnP_append_cons _ _ (by simp [separates]), List.count_append]
  rfl

include nonempty

theorem occurrences_nil : occurrences token [] = 0 := by
  simp [occurrences, nonempty]

theorem occurrences_cons (separates : isNumeric separator = false) (text : Text) :
    occurrences token (separator :: text) = occurrences token text := by
  have split := @occurrences_separator token _ separates [] text
  rw [occurrences_nil nonempty, Nat.zero_add] at split
  exact split

theorem occurrences_joined (texts : List Text) :
    occurrences token (joined texts) = (texts.map (occurrences token)).sum := by
  induction texts with
  | nil => exact occurrences_nil nonempty
  | cons text others ih =>
    cases others with
    | nil => simp [joined]
    | cons next others =>
      rw [joined, occurrences_separator rfl, occurrences_cons nonempty rfl, ih]
      rfl

end Occurrences

theorem occurrences_numeric {token text : Text} (numeric : ∀ char ∈ text, isNumeric char = true) :
    occurrences token text = if text = token then 1 else 0 := by
  have whole : (text.splitOnP fun char => !isNumeric char) = [text] :=
    List.splitOnP_eq_singleton fun char listed => by simp [numeric char listed]
  rw [occurrences, whole, List.count_singleton]
  simp

def tokenCount (number : F64 → Text) (token : Text) : JSON → Nat :=
  Json.fold {
    object := fun members =>
      (members.map fun (key, value) => occurrences token key.toList + value).sum
    array := List.sum
    string := fun content => occurrences token (writeEscapedString content)
    number := fun value => occurrences token (number value)
    boolean := fun value => occurrences token (fmt number (.boolean value))
    null := occurrences token (fmt number .null)
  }

variable (number : F64 → Text) (token : Text)

theorem tokenCount_object (members : List (String × JSON)) :
    tokenCount number token (.object members) = (members.map fun member =>
      occurrences token member.1.toList + tokenCount number token member.2).sum := by
  simp only [tokenCount, Json.fold_object, List.map_map]
  rfl

theorem tokenCount_array (elems : List JSON) :
    tokenCount number token (.array elems) = (elems.map (tokenCount number token)).sum := by
  simp only [tokenCount, Json.fold_array]

variable {token}

theorem tokenCount_congr {first second : JSON} (same : Same first second) :
    tokenCount number token first = tokenCount number token second :=
  same.fold_eq fun reordered => (reordered.map _).sum_nat

theorem occurrences_memberText (nonempty : token ≠ []) (member : String × JSON) :
    occurrences token (memberText number member) =
      occurrences token member.1.toList + occurrences token (fmt number member.2) := by
  have shape : memberText number member =
      '"' :: (member.1.toList ++ '"' :: ':' :: ' ' :: fmt number member.2) := by
    simp [memberText]
  rw [shape, occurrences_cons nonempty rfl, occurrences_separator rfl,
    occurrences_cons nonempty rfl, occurrences_cons nonempty rfl]

theorem occurrences_bracketed (nonempty : token ≠ []) {opening closing : Char}
    (opens : isNumeric opening = false) (closes : isNumeric closing = false) (text : Text) :
    occurrences token (opening :: text ++ [closing]) = occurrences token text := by
  rw [List.cons_append, occurrences_cons nonempty opens, occurrences_separator closes,
    occurrences_nil nonempty, Nat.add_zero]

theorem occurrences_fmt (nonempty : token ≠ []) (json : JSON) :
    occurrences token (fmt number json) = tokenCount number token json := by
  induction json using Json.induct with
  | object members ih =>
    rw [fmt_object, occurrences_bracketed nonempty rfl rfl, occurrences_joined nonempty,
      List.map_map, tokenCount_object]
    congr 1
    apply List.map_congr_left
    intro member listed
    rw [Function.comp_apply, occurrences_memberText number nonempty, ih member listed]
  | array elems ih =>
    rw [fmt_array, occurrences_bracketed nonempty rfl rfl, occurrences_joined nonempty,
      List.map_map, tokenCount_array]
    congr 1
    exact List.map_congr_left ih
  | string content => rfl
  | number value => rfl
  | boolean value => rfl
  | null => rfl

theorem tokenCount_plug (context : Context F64) : ∃ others, ∀ json,
    tokenCount number token (context.plug json) = others + tokenCount number token json := by
  induction context with
  | hole => exact ⟨0, fun json => (Nat.zero_add _).symm⟩
  | member before key inner after ih =>
    obtain ⟨others, each⟩ := ih
    refine ⟨tokenCount number token (.object (before ++ (key, .array []) :: after)) + others, ?_⟩
    intro json
    simp only [plug, tokenCount_object, tokenCount_array, List.map_append,
      List.map_cons, List.map_nil, List.sum_append, List.sum_cons, List.sum_nil, each]
    omega
  | elem before inner after ih =>
    obtain ⟨others, each⟩ := ih
    refine ⟨tokenCount number token (.array (before ++ after)) + others, ?_⟩
    intro json
    simp only [plug, tokenCount_array, List.map_append, List.map_cons,
      List.sum_append, List.sum_cons, each]
    omega

end JSON

theorem isNumeric_integerText (integer : Int) :
    ∀ char ∈ integerText integer, JSON.isNumeric char = true := by
  intro char listed
  rcases List.mem_append.mp listed with sign | digit
  · have isSign : char = '-' := by
      split at sign <;> simp_all
    rw [isSign]
    rfl
  · simp [JSON.isNumeric, Nat.isDigit_of_mem_toDigits (by decide) (by decide) digit]

theorem integerText_ne_nil (integer : Int) : integerText integer ≠ [] := by
  intro empty
  exact Nat.toDigits_ne_nil (List.append_eq_nil_iff.mp empty).2

/-- An integral double is written as the integer. -/
def PrintsIntegers (number : F64 → Text) : Prop :=
  ∀ {double : F64} {integer : Int}, double.toInt? = some integer →
    number double = integerText integer

def Renders (format : ChronoFormat) (number : F64 → Text) (document : ConceptDocument)
    (text : Text) : Prop :=
  ∃ json, document.intoJson format = .ok json ∧ JSON.fmt number json = text

/-- The rest of the document holds no entity and no relation. -/
def Place.Converts (format : ChronoFormat) (place : Place) : Prop :=
  ∃ value json, (place.document value).intoJson format = .ok json

/-- The document's text has the decimal numeral of the integer where the integer stands. -/
def RenderedExactly (format : ChronoFormat) (number : F64 → Text) (place : Place)
    (integer : Int64) : Prop :=
  ∃ left right,
    (∀ value, Renders format number (place.document value)
      (left ++ JSON.fmt number (jsonValue format value) ++ right)) ∧
    Renders format number (place.document (.integer integer))
      (left ++ integerText integer.toInt ++ right)

/-- No order of the members of the objects gives the two documents one text. -/
def Distinguished (format : ChronoFormat) (number : F64 → Text) (first second : ConceptDocument) :
    Prop :=
  ∀ {firstJson secondJson firstPrinted secondPrinted : JSON},
    first.intoJson format = .ok firstJson → second.intoJson format = .ok secondJson →
    Same firstPrinted firstJson → Same secondPrinted secondJson →
    JSON.fmt number firstPrinted ≠ JSON.fmt number secondPrinted

section Integers

variable {format : ChronoFormat} {number : F64 → Text}

theorem fmt_integer (prints : PrintsIntegers number) (integer : Int64) :
    JSON.fmt number (jsonValue format (.integer integer)) =
      integerText (roundInteger integer) :=
  prints (toInt?_asF64 integer)

variable {place : Place}

theorem Place.context (converts : place.Converts format) :
    ∃ context : Context F64, ∀ value,
      (place.document value).intoJson format = .ok (context.plug (jsonValue format value)) := by
  obtain ⟨value, json, converted⟩ := converts
  exact intoJson_plug format converted

variable {integer : Int64}

theorem renderedExactly_of_hasSignificand (prints : PrintsIntegers number)
    (significand : HasSignificand integer) (converts : place.Converts format) :
    RenderedExactly format number place integer := by
  obtain ⟨context, each⟩ := Place.context converts
  obtain ⟨left, right, around⟩ := JSON.fmt_plug number context
  have written : ∀ value, Renders format number (place.document value)
      (left ++ JSON.fmt number (jsonValue format value) ++ right) := by
    intro value
    exact ⟨_, each value, around _⟩
  refine ⟨left, right, written, ?_⟩
  have exact_ := written (.integer integer)
  rw [fmt_integer prints, (roundInteger_eq_iff integer).mpr significand] at exact_
  exact exact_

theorem hasSignificand_of_renderedExactly (prints : PrintsIntegers number)
    (rendered : RenderedExactly format number place integer) : HasSignificand integer := by
  obtain ⟨left, right, written, exact_⟩ := rendered
  obtain ⟨json, converted, text⟩ := written (.integer integer)
  obtain ⟨sameJson, sameConverted, exactText⟩ := exact_
  rw [converted, Outcome.ok.injEq] at sameConverted
  subst sameConverted
  rw [text, fmt_integer prints] at exactText
  have numerals : integerText (roundInteger integer) = integerText integer.toInt := by
    simpa using exactText
  exact (roundInteger_eq_iff integer).mp (integerText_injective numerals)

theorem distinguished_of_hasSignificand (prints : PrintsIntegers number) {first second : Int64}
    (firstSignificand : HasSignificand first) (secondSignificand : HasSignificand second)
    (different : first ≠ second) (place : Place) :
    Distinguished format number (place.document (.integer first))
      (place.document (.integer second)) := by
  intro firstJson secondJson firstPrinted secondPrinted firstConverted secondConverted
    firstSame secondSame sameText
  obtain ⟨context, each⟩ := Place.context ⟨_, _, firstConverted⟩
  rw [each, Outcome.ok.injEq] at firstConverted secondConverted
  subst firstConverted secondConverted
  -- the numeral of the first integer stands once more in the first text
  let token := integerText first.toInt
  have nonempty : token ≠ [] := integerText_ne_nil _
  obtain ⟨others, counted⟩ := @JSON.tokenCount_plug number token context
  have count : ∀ integer : Int64, HasSignificand integer →
      JSON.tokenCount number token (jsonValue format (.integer integer)) =
        if integerText integer.toInt = token then 1 else 0 := by
    intro integer significand
    rw [← JSON.occurrences_fmt number nonempty, fmt_integer prints,
      (roundInteger_eq_iff integer).mpr significand]
    exact JSON.occurrences_numeric (isNumeric_integerText _)
  have otherNumeral : integerText second.toInt ≠ token := by
    intro sameNumeral
    exact different (Int64.toInt_inj.mp (integerText_injective sameNumeral)).symm
  have sameCount := congrArg (JSON.occurrences token) sameText
  rw [JSON.occurrences_fmt number nonempty, JSON.occurrences_fmt number nonempty,
    JSON.tokenCount_congr number firstSame, JSON.tokenCount_congr number secondSame, counted,
    counted, count first firstSignificand, count second secondSignificand, if_pos rfl,
    if_neg otherNumeral] at sameCount
  omega

end Integers

def rootPlace : Place := ⟨⟨.readQuery⟩, .leafValue .whole⟩

/-- An integer is kept in every place exactly if 53 binary digits of it suffice. -/
theorem integers_survive_iff (format : ChronoFormat) {number : F64 → Text}
    (prints : PrintsIntegers number) :
    (∀ integer, (∀ place : Place, place.Converts format →
        RenderedExactly format number place integer) ↔ HasSignificand integer) ∧
      ∀ first second, HasSignificand first → HasSignificand second → first ≠ second →
        ∀ place : Place, Distinguished format number (place.document (.integer first))
          (place.document (.integer second)) := by
  refine ⟨?_, ?_⟩
  · intro integer
    constructor
    · intro rendered
      exact hasSignificand_of_renderedExactly prints (rendered rootPlace ⟨.integer integer, _, rfl⟩)
    · intro significand place converts
      exact renderedExactly_of_hasSignificand prints significand converts
  · intro first second firstSignificand secondSignificand different place
    exact distinguished_of_hasSignificand prints firstSignificand secondSignificand different place

/-- A printer that writes an integral double with all its digits. -/
def exactDisplay (double : F64) : Text :=
  match double.toInt? with
  | some integer => integerText integer
  | none => double.display

theorem printsIntegers_exactDisplay : PrintsIntegers exactDisplay := by
  intro double integer integral
  simp [exactDisplay, integral]

theorem integers_survive_iff_even :
    RenderedExactly noDates exactDisplay rootPlace 9007199254740994 ∧
      Distinguished noDates exactDisplay (rootPlace.document (.integer 9007199254740994))
        (rootPlace.document (.integer 9007199254740996)) := by
  have survive := integers_survive_iff noDates printsIntegers_exactDisplay
  have first : HasSignificand 9007199254740994 := by decide +kernel
  have second : HasSignificand 9007199254740996 := by decide +kernel
  exact ⟨(survive.1 _).mpr first rootPlace ⟨.integer 0, _, rfl⟩,
    survive.2 _ _ first second (by decide) rootPlace⟩

/-- The first integer without a double of its own is written as its predecessor. -/
theorem integer_lost :
    Renders noDates exactDisplay (rootPlace.document (.integer 9007199254740993))
        "9007199254740992".toList ∧
      Renders noDates exactDisplay (rootPlace.document (.integer 9007199254740992))
        "9007199254740992".toList ∧
      ¬ RenderedExactly noDates exactDisplay rootPlace 9007199254740993 := by
  have rounded : integerText (roundInteger 9007199254740993) = "9007199254740992".toList ∧
      integerText (roundInteger 9007199254740992) = "9007199254740992".toList := by
    decide +kernel
  refine ⟨⟨_, rfl, (fmt_integer printsIntegers_exactDisplay _).trans rounded.1⟩,
    ⟨_, rfl, (fmt_integer printsIntegers_exactDisplay _).trans rounded.2⟩, ?_⟩
  intro rendered
  exact absurd (hasSignificand_of_renderedExactly printsIntegers_exactDisplay rendered)
    (by decide +kernel)

end TypeDBDriver
