import TypeDBDriver.Answer.JsonProperties
import TypeDBDriver.Network.DecodingProperties

/-! Every document that is decoded is rendered as JSON in the shape of its message. -/

namespace TypeDBDriver

open Library
open Outcome (bind_eq_ok_iff okOr_eq_ok_iff ok_bind unwrap)

namespace Proto

def ValueTypeInner.name : ValueTypeInner → String
  | .boolean => "boolean"
  | .integer => "integer"
  | .double => "double"
  | .string => "string"
  | .decimal => "decimal"
  | .date => "date"
  | .datetime => "datetime"
  | .datetimeTz => "datetime-tz"
  | .duration => "duration"
  | .struct name => name

variable (chrono : Chrono) (format : ChronoFormat)

def Timezone.zone : Timezone → Option TimeZone
  | .named name => (chrono.tzFromStr name).map .iana
  | .offset seconds =>
    (if 0 ≤ seconds then chrono.eastOpt seconds else chrono.westOpt (-seconds)).map .fixed

/-- A truth value and a number as themselves, every other value as its text. -/
def valueJson : ValueInner → Option JSON
  | .boolean value => some (.boolean value)
  | .integer value => some (.number (asF64 value))
  | .double value => some (.number value)
  | .string value => some (.string value)
  | .decimal ⟨whole, fractional⟩ =>
    if valid : fractional.toNat < 10 ^ 19 then
      some (.string (String.ofList (TypeDBDriver.Decimal.mk whole fractional valid).display))
    else none
  | .date ⟨days⟩ => do
      let date ← chrono.fromNumDaysFromCeOpt days
      some (.string (String.ofList (format.date date)))
  | .datetime ⟨seconds, nanos⟩ => do
      let datetime ← chrono.fromTimestamp seconds nanos
      some (.string (String.ofList (format.datetime datetime)))
  | .datetimeTz ⟨datetime, timezone⟩ => do
      let ⟨seconds, nanos⟩ ← datetime
      let utc ← chrono.fromTimestamp seconds nanos
      let zone ← timezone.bind (·.zone chrono)
      some (.string (String.ofList (DateTime.display format ⟨utc, zone⟩)))
  | .duration ⟨months, days, nanos⟩ =>
    some (.string (String.ofList (TypeDBDriver.Duration.mk months days nanos).display))
  | .struct => none

/-- A type as its kind and label, an attribute as its value. -/
def leafJson : LeafInner → Option JSON
  | .empty => some .null
  | .entityType ⟨label⟩ => some (.object [("kind", .string "entity"), ("label", .string label)])
  | .relationType ⟨label⟩ =>
    some (.object [("kind", .string "relation"), ("label", .string label)])
  | .roleType ⟨label⟩ =>
    some (.object [("kind", .string "relation:role"), ("label", .string label)])
  | .attributeType ⟨label, held⟩ => do
      let name ← match held with
        | none => some "none"
        | some ⟨type⟩ => type.map ValueTypeInner.name
      some (.object [("kind", .string "attribute"), ("label", .string label),
        ("value_type", .string name)])
  | .valueType ⟨type⟩ => type.map (.string ·.name)
  | .attribute ⟨_, _, value⟩ => (value.bind Value.value).bind (valueJson chrono format)
  | .value ⟨value⟩ => value.bind (valueJson chrono format)
  | .kind number => (([(0, "entity"), (1, "relation"), (2, "attribute"),
      (3, "relation:role")] : List (Int32 × String)).lookup number).map .string

end Proto

section Shape

variable (chrono : Chrono) (format : ChronoFormat)

/-- A JSON value in the shape of a message: an object with the keys of the map, an array with one
element for each node of the list, and at a leaf the value of this leaf alone. -/
inductive Rendered : Proto.Node → JSON → Prop where
  | map {entries : List (String × Proto.Node)} {members : List (String × JSON)}
      (keys : entries.map Prod.fst = members.map Prod.fst)
      (values : List.Forall₂ Rendered (entries.map Prod.snd) (members.map Prod.snd)) :
      Rendered (.map entries) (.object members)
  | list {nodes : List Proto.Node} {elems : List JSON}
      (values : List.Forall₂ Rendered nodes elems) : Rendered (.list nodes) (.array elems)
  | leaf {inner : Proto.LeafInner} {json : JSON}
      (rendered : Proto.leafJson chrono format inner = some json) :
      Rendered (.leaf ⟨some inner⟩) json
  | absent : Rendered (.leaf ⟨none⟩) .null

end Shape

variable {chrono : Chrono} (format : ChronoFormat)

theorem unwrap_eq_ok {α ε : Type} {value : Option α} {result : α}
    (returned : (unwrap value : Outcome ε α) = .ok result) : value = some result := by
  cases value with
  | none => cases returned
  | some value =>
    cases returned
    rfl

theorem TimeZone.zone_of_tryFromProto {proto : Proto.Timezone} {zone : TimeZone}
    (decoded : TimeZone.tryFromProto chrono proto = .ok zone) : proto.zone chrono = some zone := by
  cases proto with
  | named name =>
    simp only [tryFromProto, bind_eq_ok_iff, okOr_eq_ok_iff, Outcome.ok.injEq] at decoded
    obtain ⟨tz, known, rfl⟩ := decoded
    simp [Proto.Timezone.zone, known]
  | offset seconds =>
    simp only [tryFromProto, negateI32] at decoded
    unfold Proto.Timezone.zone
    split_ifs at decoded ⊢ with ahead least
    all_goals
      simp only [ok_bind, Outcome.panicked_bind, bind_eq_ok_iff,
        okOr_eq_ok_iff, Outcome.ok.injEq, reduceCtorEq] at decoded
    all_goals
      obtain ⟨offset, known, rfl⟩ := decoded
      simp only [ahead, if_true, if_false, known, Option.map_some]

theorem Value.json_of_tryFromProto {proto : Proto.ValueInner} {value : Value}
    (decoded : Value.tryFromProto chrono ⟨some proto⟩ = .ok value) :
    Proto.valueJson chrono format proto = some (jsonValue format value) := by
  cases proto with
  | decimal proto =>
    obtain ⟨decimal, made, ⟨⟩⟩ := Outcome.bind_eq_ok_iff.mp decoded
    unfold Decimal.new at made
    split at made <;> cases made
    next valid => exact dif_pos valid
  | date proto =>
    obtain ⟨date, found, ⟨⟩⟩ := Outcome.bind_eq_ok_iff.mp decoded
    simp [Proto.valueJson, unwrap_eq_ok found, jsonValue]
  | datetime proto =>
    obtain ⟨datetime, found, ⟨⟩⟩ := Outcome.bind_eq_ok_iff.mp decoded
    simp [Proto.valueJson, unwrap_eq_ok found, jsonValue]
  | datetimeTz proto =>
    obtain ⟨datetime, timezone⟩ := proto
    simp only [tryFromProto, bind_eq_ok_iff, okOr_eq_ok_iff, Outcome.ok.injEq] at decoded
    obtain ⟨datetime, rfl, utc, found, timezone, rfl, zone, named, rfl⟩ := decoded
    simp [Proto.valueJson, unwrap_eq_ok found, TimeZone.zone_of_tryFromProto named, jsonValue]
  | boolean | integer | double | string | duration =>
    cases decoded
    rfl
  | struct => cases decoded

theorem jsonValueType_fromProto (type : Proto.ValueTypeInner) :
    jsonValueType (some (ValueType.fromProto type)) = .string type.name := by
  cases type <;> rfl

/-- The messages have no leaf for an entity or a relation, on which `into_json` panics. -/
theorem Leaf.json_of_tryFromProto {proto : Proto.LeafInner} {content : Option Leaf}
    (decoded : Leaf.tryFromProto chrono ⟨some proto⟩ = .ok content) :
    ∃ json, (Node.leaf content).intoJson format = .ok json ∧
      Proto.leafJson chrono format proto = some json := by
  cases proto with
  | empty | entityType | relationType | roleType =>
    cases decoded
    exact ⟨_, rfl, rfl⟩
  | attributeType proto =>
    rcases proto with ⟨label, _ | ⟨_ | type⟩⟩ <;> cases decoded
    · exact ⟨_, rfl, rfl⟩
    · refine ⟨_, rfl, ?_⟩
      rw [jsonAttributeType, jsonValueType_fromProto]
      rfl
  | valueType proto =>
    rcases proto with ⟨_ | type⟩ <;> cases decoded
    refine ⟨_, rfl, ?_⟩
    rw [jsonValueType_fromProto]
    rfl
  | «attribute» proto =>
    obtain ⟨held, made, ⟨⟩⟩ := Outcome.bind_eq_ok_iff.mp decoded
    rcases proto with ⟨iid, type, _ | ⟨_ | proto⟩⟩ <;>
      simp only [Attribute.tryFromProto, bind_eq_ok_iff, okOr_eq_ok_iff, Outcome.ok.injEq] at made
    all_goals obtain ⟨type, _, _, ⟨⟩, value, decodedValue, rfl⟩ := made
    · cases decodedValue
    · exact ⟨_, rfl, Value.json_of_tryFromProto format decodedValue⟩
  | value proto =>
    obtain ⟨value, made, ⟨⟩⟩ := Outcome.bind_eq_ok_iff.mp decoded
    rcases proto with ⟨_ | proto⟩
    · cases made
    · exact ⟨_, rfl, Value.json_of_tryFromProto format made⟩
  | kind number =>
    obtain ⟨kind, made, ⟨⟩⟩ := Outcome.bind_eq_ok_iff.mp decoded
    refine ⟨_, rfl, ?_⟩
    unfold Kind.tryFromProto at made
    split_ifs at made <;> cases made <;> subst_vars <;> rfl

mutual

theorem Node.rendered_of_tryFromProto : ∀ (proto : Proto.Node) {node : Node},
    Node.tryFromProto chrono proto = .ok node →
      ∃ json, node.intoJson format = .ok json ∧ Rendered chrono format proto json
  | .absent, _, decoded => by
    simp only [Node.tryFromProto, reduceCtorEq] at decoded
  | .map entries, _, decoded => by
    simp only [Node.tryFromProto, bind_eq_ok_iff, Outcome.ok.injEq] at decoded
    obtain ⟨nodes, decodedEntries, rfl⟩ := decoded
    obtain ⟨members, converted, keys, values⟩ :=
      Node.rendered_of_tryFromProtoMap entries decodedEntries
    refine ⟨.object members, ?_, .map keys values⟩
    rw [Node.intoJson, converted, ok_bind]
  | .list protos, _, decoded => by
    simp only [Node.tryFromProto, bind_eq_ok_iff, Outcome.ok.injEq] at decoded
    obtain ⟨nodes, decodedNodes, rfl⟩ := decoded
    obtain ⟨elems, converted, values⟩ :=
      Node.rendered_of_tryFromProtoList protos decodedNodes
    refine ⟨.array elems, ?_, .list values⟩
    rw [Node.intoJson, converted, ok_bind]
  | .leaf leafProto, _, decoded => by
    simp only [Node.tryFromProto, bind_eq_ok_iff, Outcome.ok.injEq] at decoded
    obtain ⟨content, decodedLeaf, rfl⟩ := decoded
    rcases leafProto with ⟨_ | inner⟩
    · cases decodedLeaf
      exact ⟨.null, rfl, .absent⟩
    · obtain ⟨json, converted, rendered⟩ := Leaf.json_of_tryFromProto format decodedLeaf
      exact ⟨json, converted, .leaf rendered⟩

theorem Node.rendered_of_tryFromProtoMap : ∀ (entries : List (String × Proto.Node))
    {nodes : List (String × Node)}, Node.tryFromProtoMap chrono entries = .ok nodes →
      ∃ members, Node.entriesIntoJson format nodes = .ok members ∧
        entries.map Prod.fst = members.map Prod.fst ∧
        List.Forall₂ (Rendered chrono format) (entries.map Prod.snd) (members.map Prod.snd)
  | [], _, decoded => by
    simp only [Node.tryFromProtoMap, Outcome.ok.injEq] at decoded
    subst decoded
    exact ⟨[], rfl, rfl, .nil⟩
  | (var, nodeProto) :: rest, _, decoded => by
    simp only [Node.tryFromProtoMap, bind_eq_ok_iff, Outcome.ok.injEq] at decoded
    obtain ⟨node, decodedNode, others, decodedRest, rfl⟩ := decoded
    obtain ⟨json, converted, shaped⟩ := Node.rendered_of_tryFromProto nodeProto decodedNode
    obtain ⟨members, convertedRest, keys, values⟩ :=
      Node.rendered_of_tryFromProtoMap rest decodedRest
    refine ⟨(var, json) :: members, ?_, congrArg (var :: ·) keys, .cons shaped values⟩
    rw [Node.entriesIntoJson, converted, convertedRest, ok_bind, ok_bind]

theorem Node.rendered_of_tryFromProtoList : ∀ (protos : List Proto.Node) {nodes : List Node},
    Node.tryFromProtoList chrono protos = .ok nodes →
      ∃ elems, Node.listIntoJson format nodes = .ok elems ∧
        List.Forall₂ (Rendered chrono format) protos elems
  | [], _, decoded => by
    simp only [Node.tryFromProtoList, Outcome.ok.injEq] at decoded
    subst decoded
    exact ⟨[], rfl, .nil⟩
  | nodeProto :: rest, _, decoded => by
    simp only [Node.tryFromProtoList, bind_eq_ok_iff, Outcome.ok.injEq] at decoded
    obtain ⟨node, decodedNode, others, decodedRest, rfl⟩ := decoded
    obtain ⟨json, converted, shaped⟩ := Node.rendered_of_tryFromProto nodeProto decodedNode
    obtain ⟨elems, convertedRest, values⟩ :=
      Node.rendered_of_tryFromProtoList rest decodedRest
    refine ⟨json :: elems, ?_, .cons shaped values⟩
    rw [Node.listIntoJson, converted, convertedRest, ok_bind, ok_bind]

end

/-- A decoded document never reaches `unreachable!`, and keeps the shape of its message. -/
theorem Node.intoJson_rendered {proto : Proto.Node} {node : Node}
    (decoded : Node.tryFromProto chrono proto = .ok node) :
    ∃ json, node.intoJson format = .ok json ∧ Rendered chrono format proto json :=
  Node.rendered_of_tryFromProto format proto decoded

theorem Node.intoJson_rendered_types : ∃ json,
    (Node.map [("types", .list [.leaf (some (.concept (.entityType ⟨"person"⟩))),
      .leaf none])]).intoJson noDates = .ok json ∧
    Rendered .documented noDates
      (.map [("types", .list [.leaf ⟨some (.entityType ⟨"person"⟩)⟩, .leaf ⟨none⟩])]) json :=
  Node.intoJson_rendered noDates rfl

end TypeDBDriver
