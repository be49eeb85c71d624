import TypeDBDriver.Answer.ConceptDocument

/-! The text of a document's JSON value and what the grammar of JSON texts reads from it. -/

namespace TypeDBDriver

open Library
open Proto (F64)
open Json (Plain Reads Same contentCost induct joined keys_array keys_object weight weight_append
  weight_cons)
open List (cons_append flatMap_cons forall_mem_flatMap forall_mem_nil length_append length_cons
  map_map)

def PlainKey (key : String) : Prop := ∀ char ∈ key.toList, Plain char

instance : DecidablePred PlainKey := fun key => List.decidableBAll Plain key.toList

mutual

/-- The names that become keys of objects: those of the structs and of their fields. -/
def Value.objectKeys : Value → List String
  | .struct fields name => name :: Value.fieldKeys fields
  | _ => []

def Value.fieldKeys : List (String × Option Value) → List String
  | [] => []
  | (key, some value) :: rest => key :: value.objectKeys ++ Value.fieldKeys rest
  | (key, none) :: rest => key :: Value.fieldKeys rest

end

def Leaf.objectKeys : Leaf → List String
  | .concept (.attribute instance_) => instance_.value.objectKeys
  | .concept (.value value) => value.objectKeys
  | _ => []

mutual

/-- The names that become keys of objects: the variables of the maps and the names in values. -/
def Node.objectKeys : Node → List String
  | .map entries => Node.entryKeys entries
  | .list nodes => Node.listKeys nodes
  | .leaf (some content) => content.objectKeys
  | .leaf none => []

def Node.entryKeys : List (String × Node) → List String
  | [] => []
  | (key, node) :: rest => key :: node.objectKeys ++ Node.entryKeys rest

def Node.listKeys : List Node → List String
  | [] => []
  | node :: rest => node.objectKeys ++ Node.listKeys rest

end

def ConceptDocument.objectKeys (document : ConceptDocument) : List String :=
  match document.root with
  | none => []
  | some root => root.objectKeys

section Keys

variable (format : ChronoFormat)

mutual

theorem keys_jsonValue : ∀ value : Value, (jsonValue format value).keys = value.objectKeys
  | .boolean _ => rfl
  | .integer _ => rfl
  | .double _ => rfl
  | .string _ => rfl
  | .decimal _ => rfl
  | .date _ => rfl
  | .datetime _ => rfl
  | .datetimeTZ _ => rfl
  | .duration _ => rfl
  | .struct fields name => by
    have inner := keys_jsonStruct fields
    simp only [jsonValue, Value.objectKeys, keys_object, flatMap_cons, List.flatMap_nil,
      List.append_nil, inner]

theorem keys_jsonStruct : ∀ fields : List (String × Option Value),
    ((jsonStruct format fields).flatMap fun member => member.1 :: member.2.keys) =
      Value.fieldKeys fields
  | [] => rfl
  | (key, some value) :: rest => by
    have head := keys_jsonValue value
    have tail := keys_jsonStruct rest
    simp only [jsonStruct, Value.fieldKeys, flatMap_cons, head, tail]
  | (key, none) :: rest => by
    have tail := keys_jsonStruct rest
    simp only [jsonStruct, Value.fieldKeys, flatMap_cons, tail]
    rfl

end

/-- The keys that are the same in every document. -/
def fixedKeys : List String := ["kind", "label", "value_type"]

theorem keys_jsonType (kind : Kind) (label : String) :
    (jsonType kind label).keys = ["kind", "label"] := rfl

theorem keys_jsonAttributeType (label : String) (valueType : Option ValueType) :
    (jsonAttributeType label valueType).keys = fixedKeys := rfl

variable {format}

theorem mem_keys_leaf {leaf : Leaf} {json : JSON} (converted : leaf.intoJson format = .ok json)
    {property : String → Prop} (fixed : ∀ key ∈ fixedKeys, property key) :
    (∀ key ∈ json.keys, property key) ↔ ∀ key ∈ leaf.objectKeys, property key := by
  have types : ∀ key ∈ ["kind", "label"], property key := by
    intro key listed
    exact fixed key (List.mem_of_mem_take (i := 2) listed)
  unfold Leaf.intoJson at converted
  split at converted <;> simp only [Outcome.ok.injEq, reduceCtorEq] at converted
  case h_2 | h_3 | h_5 =>
    rw [← converted, keys_jsonType]
    exact iff_of_true types (forall_mem_nil _)
  case h_4 =>
    rw [← converted, keys_jsonAttributeType]
    exact iff_of_true fixed (forall_mem_nil _)
  case h_6 | h_7 =>
    rw [← converted, keys_jsonValue]
    rfl
  all_goals
    rw [← converted]
    rfl

mutual

theorem mem_keys_node {property : String → Prop} (fixed : ∀ key ∈ fixedKeys, property key) :
    ∀ (node : Node) {json : JSON}, node.intoJson format = .ok json →
      ((∀ key ∈ json.keys, property key) ↔ ∀ key ∈ node.objectKeys, property key)
  | .map entries, json, converted => by
    simp only [Node.intoJson, Outcome.bind_eq_ok_iff, Outcome.ok.injEq] at converted
    obtain ⟨members, convertedEntries, rfl⟩ := converted
    have each := mem_keys_entries fixed entries convertedEntries
    rw [keys_object, Node.objectKeys, each]
  | .list nodes, json, converted => by
    simp only [Node.intoJson, Outcome.bind_eq_ok_iff, Outcome.ok.injEq] at converted
    obtain ⟨elems, convertedNodes, rfl⟩ := converted
    have each := mem_keys_list fixed nodes convertedNodes
    rw [keys_array, Node.objectKeys, each]
  | .leaf (some content), json, converted => by
    simp only [Node.intoJson] at converted
    exact mem_keys_leaf converted fixed
  | .leaf none, json, converted => by
    simp only [Node.intoJson, Outcome.ok.injEq] at converted
    rw [← converted]
    rfl

theorem mem_keys_entries {property : String → Prop} (fixed : ∀ key ∈ fixedKeys, property key) :
    ∀ (entries : List (String × Node)) {members : List (String × JSON)},
      Node.entriesIntoJson format entries = .ok members →
      ((∀ key ∈ members.flatMap fun member => member.1 :: member.2.keys, property key) ↔
        ∀ key ∈ Node.entryKeys entries, property key)
  | [], members, converted => by
    simp only [Node.entriesIntoJson, Outcome.ok.injEq] at converted
    rw [← converted]
    rfl
  | (key, node) :: rest, members, converted => by
    simp only [Node.entriesIntoJson, Outcome.bind_eq_ok_iff, Outcome.ok.injEq] at converted
    obtain ⟨value, convertedNode, others, convertedRest, rfl⟩ := converted
    have head := mem_keys_node fixed node convertedNode
    have tail := mem_keys_entries fixed rest convertedRest
    simp only [flatMap_cons, Node.entryKeys, List.forall_mem_append, List.forall_mem_cons,
      head, tail]

theorem mem_keys_list {property : String → Prop} (fixed : ∀ key ∈ fixedKeys, property key) :
    ∀ (nodes : List Node) {elems : List JSON},
      Node.listIntoJson format nodes = .ok elems →
      ((∀ key ∈ elems.flatMap Json.keys, property key) ↔
        ∀ key ∈ Node.listKeys nodes, property key)
  | [], elems, converted => by
    simp only [Node.listIntoJson, Outcome.ok.injEq] at converted
    rw [← converted]
    rfl
  | node :: rest, elems, converted => by
    simp only [Node.listIntoJson, Outcome.bind_eq_ok_iff, Outcome.ok.injEq] at converted
    obtain ⟨value, convertedNode, others, convertedRest, rfl⟩ := converted
    have head := mem_keys_node fixed node convertedNode
    have tail := mem_keys_list fixed rest convertedRest
    simp only [flatMap_cons, Node.listKeys, List.forall_mem_append, head, tail]

end

theorem plainKey_fixedKeys : ∀ key ∈ fixedKeys, PlainKey key := by decide

theorem plainKey_keys_iff {document : ConceptDocument} {json : JSON}
    (converted : document.intoJson format = .ok json) :
    (∀ key ∈ json.keys, PlainKey key) ↔ ∀ key ∈ document.objectKeys, PlainKey key := by
  unfold ConceptDocument.intoJson at converted
  unfold ConceptDocument.objectKeys
  cases root : document.root with
  | none =>
    simp only [root, Outcome.ok.injEq] at converted
    rw [← converted]
    rfl
  | some node =>
    simp only [root] at converted
    exact mem_keys_node plainKey_fixedKeys node converted

end Keys

namespace JSON

/-- The escapes that a tree's text lacks, because keys are written without any. -/
def unescaped : JSON → Nat :=
  Json.fold {
    object := fun members => (members.map fun (key, value) =>
      contentCost key.toList - weight key.toList + value).sum
    array := List.sum
    string := fun _ => 0
    number := fun _ => 0
    boolean := fun _ => 0
    null := 0
  }

theorem unescaped_object (members : List (String × JSON)) :
    unescaped (.object members) = (members.map fun member =>
      contentCost member.1.toList - weight member.1.toList + member.2.unescaped).sum := by
  simp only [unescaped, Json.fold_object, map_map]
  rfl

theorem unescaped_array (elems : List JSON) :
    unescaped (.array elems) = (elems.map unescaped).sum := by
  simp only [unescaped, Json.fold_array]

theorem unescaped_congr {first second : JSON} (same : Same first second) :
    first.unescaped = second.unescaped :=
  same.fold_eq fun reordered => (reordered.map _).sum_nat

theorem unescaped_eq_zero_iff (json : JSON) :
    json.unescaped = 0 ↔ ∀ key ∈ json.keys, PlainKey key := by
  induction json using induct with
  | object members ih =>
    rw [unescaped_object, keys_object, List.sum_eq_zero_iff_forall_eq_nat,
      List.forall_mem_map, forall_mem_flatMap]
    apply forall₂_congr
    intro member listed
    have bound := Json.weight_le_contentCost member.1.toList
    rw [List.forall_mem_cons, ← ih member listed, PlainKey, ← Json.weight_eq_contentCost_iff]
    omega
  | array elems ih =>
    rw [unescaped_array, keys_array, List.sum_eq_zero_iff_forall_eq_nat,
      List.forall_mem_map, forall_mem_flatMap]
    exact forall₂_congr ih
  | string content => exact iff_of_true rfl (forall_mem_nil _)
  | number value => exact iff_of_true rfl (forall_mem_nil _)
  | boolean value => exact iff_of_true rfl (forall_mem_nil _)
  | null => exact iff_of_true rfl (forall_mem_nil _)

theorem weight_joined (texts : List Text) : weight (joined texts) = (texts.map weight).sum := by
  induction texts with
  | nil => rfl
  | cons text others ih =>
    cases others with
    | nil => simp [joined]
    | cons next others =>
      have separator : weight [','] = 0 ∧ weight [' '] = 0 := ⟨rfl, rfl⟩
      rw [joined, weight_append, weight_cons, weight_cons ' ', ih]
      simp only [List.map_cons, List.sum_cons]
      omega

theorem weight_writeEscapedString (string : String) :
    weight (writeEscapedString string) = contentCost string.toList := by
  have quote : weight ['"'] = 0 := rfl
  have content : ∀ text : Text,
      weight (text.flatMap escapeCharacter) = contentCost text := by
    intro text
    induction text with
    | nil => rfl
    | cons first rest ih =>
      rw [flatMap_cons, weight_append, ih, weight_escapeCharacter]
      simp [contentCost]
  rw [writeEscapedString_eq, cons_append, weight_cons, weight_append, content, quote]
  omega

theorem weight_display {double : F64} (finite : double.Finite) : weight double.display = 0 := by
  apply List.countP_eq_zero.mpr
  intro char listed
  rcases F64.mem_display finite listed with digit | rfl | rfl
  · intro marked
    rcases (Bool.or_eq_true _ _).mp marked with same | same <;> rw [eq_of_beq same] at digit <;>
      exact absurd digit (by decide)
  · decide
  · decide

theorem weight_memberText (member : String × JSON) : weight (memberText F64.display member) =
    weight member.1.toList + weight (fmt F64.display member.2) := by
  have marks : weight ['"'] = 0 ∧ weight ['"', ':', ' '] = 0 := ⟨rfl, rfl⟩
  rw [memberText, cons_append, cons_append, weight_cons, weight_append, weight_append]
  omega

/-- A tree's text holds every escape that the tree needs, except those of its keys. -/
theorem weight_fmt {json : JSON} (finite : ∀ number ∈ json.numbers, number.Finite) :
    weight (fmt F64.display json) + json.unescaped = json.cost := by
  induction json using induct with
  | object members ih =>
    rw [Json.numbers_object, forall_mem_flatMap] at finite
    have brackets : weight ['{'] = 0 ∧ weight ['}'] = 0 := ⟨rfl, rfl⟩
    have each : ∀ member ∈ members, weight (memberText F64.display member) +
        (contentCost member.1.toList - weight member.1.toList + unescaped member.2) =
          contentCost member.1.toList + member.2.cost := by
      intro member listed
      have value := ih member listed (finite member listed)
      have bound := Json.weight_le_contentCost member.1.toList
      rw [weight_memberText]
      omega
    have total := Json.sum_map_add each
    rw [fmt_object, cons_append, weight_cons, weight_append, weight_joined,
      map_map, unescaped_object, Json.cost_object, brackets.1, brackets.2]
    rw [Nat.zero_add, Nat.add_zero]
    exact total
  | array elems ih =>
    rw [Json.numbers_array, forall_mem_flatMap] at finite
    have brackets : weight ['['] = 0 ∧ weight [']'] = 0 := ⟨rfl, rfl⟩
    have each : ∀ elem ∈ elems,
        weight (fmt F64.display elem) + unescaped elem = elem.cost := by
      intro elem listed
      exact ih elem listed (finite elem listed)
    have total := Json.sum_map_add each
    rw [fmt_array, cons_append, weight_cons, weight_append, weight_joined,
      map_map, unescaped_array, Json.cost_array, brackets.1, brackets.2]
    rw [Nat.zero_add, Nat.add_zero]
    exact total
  | string content =>
    rw [fmt_string, weight_writeEscapedString]
    rfl
  | number value =>
    rw [fmt_number, weight_display (finite value (List.mem_singleton.mpr rfl))]
    rfl
  | boolean value => cases value <;> rfl
  | null => rfl

theorem reads_key {key : String} (plain : PlainKey key) :
    Reads Json.quoted ('"' :: key.toList ++ ['"']) key := by
  have spelled :=
    Json.quoted_spelled fun char listed => Json.spells_plain (plain char listed)
  rwa [List.flatMap_singleton'] at spelled

theorem reads_memberText {member : String × JSON} (plain : PlainKey member.1) {fuel : Nat}
    {value : Json Json.Numeral} (read : Reads (Json.value fuel) (fmt F64.display member.2) value) :
    Reads (Json.member (Json.value fuel)) (memberText F64.display member)
      (member.1, value) := by
  have whole := (reads_key plain).member read
  simpa [memberText] using whole

theorem length_le_joined_of_mem {text : Text} {texts : List Text} (listed : text ∈ texts) :
    text.length ≤ (joined texts).length := by
  induction texts with
  | nil => cases listed
  | cons head others ih =>
    cases others with
    | nil =>
      rw [List.mem_singleton.mp listed]
      exact Nat.le_refl _
    | cons next others =>
      rw [joined, length_append, length_cons, length_cons]
      rcases List.mem_cons.mp listed with rfl | later
      · omega
      · have bound := ih later
        omega

theorem reads_fmt {json : JSON} (plain : ∀ key ∈ json.keys, PlainKey key)
    (finite : ∀ number ∈ json.numbers, number.Finite) {fuel : Nat}
    (enough : (fmt F64.display json).length ≤ fuel) :
    Reads (Json.value fuel) (fmt F64.display json) (json.map F64.printedNumeral) := by
  induction json using induct generalizing fuel with
  | object members ih =>
    rw [keys_object, forall_mem_flatMap] at plain
    rw [Json.numbers_object, forall_mem_flatMap] at finite
    rw [fmt_object] at enough ⊢
    obtain ⟨fuel, rfl⟩ : ∃ smaller, fuel = smaller + 1 := ⟨fuel - 1, by simp at enough; omega⟩
    rw [Json.map_object]
    apply Json.reads_object
    rw [List.forall₂_map_left_iff, List.forall₂_map_right_iff, List.forall₂_same]
    intro member listed
    obtain ⟨plainKey, plainValue⟩ := List.forall_mem_cons.mp (plain member listed)
    have written : memberText F64.display member ∈ members.map (memberText F64.display) :=
      List.mem_map_of_mem listed
    have bound := length_le_joined_of_mem written
    apply reads_memberText plainKey
    apply ih member listed plainValue (finite member listed)
    simp only [length_append, length_cons, memberText] at bound enough
    omega
  | array elems ih =>
    rw [keys_array, forall_mem_flatMap] at plain
    rw [Json.numbers_array, forall_mem_flatMap] at finite
    rw [fmt_array] at enough ⊢
    obtain ⟨fuel, rfl⟩ : ∃ smaller, fuel = smaller + 1 := ⟨fuel - 1, by simp at enough; omega⟩
    rw [Json.map_array]
    apply Json.reads_array
    rw [List.forall₂_map_left_iff, List.forall₂_map_right_iff, List.forall₂_same]
    intro elem listed
    have written : fmt F64.display elem ∈ elems.map (fmt F64.display) :=
      List.mem_map_of_mem listed
    have bound := length_le_joined_of_mem written
    apply ih elem listed (plain elem listed) (finite elem listed)
    simp only [length_append, length_cons] at bound enough
    omega
  | string content =>
    rw [fmt_string, writeEscapedString_eq] at enough ⊢
    obtain ⟨fuel, rfl⟩ : ∃ smaller, fuel = smaller + 1 := ⟨fuel - 1, by simp at enough; omega⟩
    exact Json.reads_string (fun char _ => spells_escapeCharacter char) fuel
  | number value =>
    rw [fmt_number] at enough ⊢
    have isFinite := finite value (List.mem_singleton.mpr rfl)
    obtain ⟨first, others, begins, _⟩ := (F64.reads_display isFinite 0).opens
    obtain ⟨fuel, rfl⟩ : ∃ smaller, fuel = smaller + 1 := by
      rw [begins, length_cons] at enough
      exact ⟨fuel - 1, by omega⟩
    exact F64.reads_display isFinite fuel
  | boolean value =>
    obtain ⟨fuel, rfl⟩ : ∃ smaller, fuel = smaller + 1 :=
      ⟨fuel - 1, by cases value <;> simp at enough <;> omega⟩
    exact Json.reads_boolean fuel value
  | null =>
    obtain ⟨fuel, rfl⟩ : ∃ smaller, fuel = smaller + 1 :=
      ⟨fuel - 1, by simp at enough; omega⟩
    exact Json.reads_null fuel

theorem parse_fmt {json : JSON} (plain : ∀ key ∈ json.keys, PlainKey key)
    (finite : ∀ number ∈ json.numbers, number.Finite) :
    Json.parse (fmt F64.display json) = some (json.map F64.printedNumeral) :=
  Json.parse_of_reads (reads_fmt plain finite (Nat.le_refl _))

/-- The text is that of a tree, and the tree that it denotes is the same. -/
def Faithful (printed json : JSON) : Prop :=
  ∃ tree, Json.parse (fmt F64.display printed) = some tree ∧
    Same (tree.map F64.ofNumeral) json

end JSON

/-- The iteration order of the maps of the JSON value is any, and `printed` is the value in
the order in which it is written. -/
theorem document_text_faithful_iff (format : ChronoFormat) {document : ConceptDocument}
    {json printed : JSON} (converted : document.intoJson format = .ok json)
    (same : Same printed json) (finite : ∀ number ∈ printed.numbers, number.Finite) :
    JSON.Faithful printed json ↔ ∀ key ∈ document.objectKeys, PlainKey key := by
  rw [← plainKey_keys_iff converted, ← JSON.unescaped_eq_zero_iff, ← JSON.unescaped_congr same]
  constructor
  · intro faithful
    obtain ⟨tree, denotes, sameTree⟩ := faithful
    have needed : tree.cost = printed.cost := by
      rw [← Json.cost_map F64.ofNumeral, sameTree.cost_eq, same.cost_eq]
    have held := Json.cost_le_weight Json.numeral_leaves denotes
    have lacking := JSON.weight_fmt finite
    omega
  · intro complete
    have plain := (JSON.unescaped_eq_zero_iff printed).mp complete
    refine ⟨_, JSON.parse_fmt plain finite, ?_⟩
    have unchanged : (printed.map F64.printedNumeral).map F64.ofNumeral = printed :=
      Json.map_map_eq_self fun number held => F64.ofNumeral_printedNumeral (finite number held)
    rw [unchanged]
    exact same

def noDates : ChronoFormat where
  date _ := []
  datetime _ := []
  datetimeTZ _ := []
  datetimeTZWithOffset _ := []

def documentOf (root : Node) : ConceptDocument := ⟨⟨.readQuery⟩, some root⟩

theorem document_text_faithful_iff_person :
    JSON.Faithful
      (.object [("age", .number (asF64 36)), ("name", .string "said \"yes\"")])
      (.object [("name", .string "said \"yes\""), ("age", .number (asF64 36))]) := by
  have person : ConceptDocument.intoJson noDates (documentOf (.map [
      ("name", .leaf (some (.concept (.value (.string "said \"yes\""))))),
      ("age", .leaf (some (.concept (.value (.integer 36)))))])) = .ok (.object [
        ("name", .string "said \"yes\""), ("age", .number (asF64 36))]) := rfl
  have finite : ∀ number ∈ [asF64 36], number.Finite := by decide +kernel
  exact (document_text_faithful_iff noDates person (.permute (.swap ..)) finite).mpr (by decide)

/-- A variable whose name is a quote: the text ends the key before the name. -/
theorem quote_in_key_breaks_text :
    (documentOf (.map [("\"", .leaf none)])).intoJson noDates =
        .ok (.object [("\"", .null)]) ∧
      (Json.object [("\"", .null)] : JSON).numbers = [] ∧
      JSON.fmt F64.display (.object [("\"", .null)]) =
        '{' :: "\"\"\": null".toList ++ ['}'] ∧
      Json.parse ('{' :: "\"\"\": null".toList ++ ['}']) = none ∧
      ¬ JSON.Faithful (.object [("\"", .null)]) (.object [("\"", .null)]) := by
  have unread : Json.parse (JSON.fmt F64.display (.object [("\"", .null)])) = none := rfl
  refine ⟨rfl, rfl, rfl, unread, ?_⟩
  intro faithful
  obtain ⟨tree, denotes, _⟩ := faithful
  rw [unread] at denotes
  exact absurd denotes (by simp)

end TypeDBDriver
