import TypeDBDriver.Concept.Concept

/-! Decoding of concepts, rows and documents from protocol messages. An absent
field is sometimes an error (`ok_or`) and sometimes a panic (`unwrap`), as in the
source; `?` and the conversion loops stop at the first element that fails. -/

namespace TypeDBDriver

open Library
open Outcome (okOr unwrap)

def missingResponseField (field : String) : Error := .connection (.missingResponseField field)

def EntityType.fromProto (proto : Proto.EntityType) : EntityType := ⟨proto.label⟩

def RelationType.fromProto (proto : Proto.RelationType) : RelationType := ⟨proto.label⟩

def RoleType.fromProto (proto : Proto.RoleType) : RoleType := ⟨proto.label⟩

def ValueType.fromProto : Proto.ValueTypeInner → ValueType
  | .boolean => .boolean
  | .integer => .integer
  | .double => .double
  | .string => .string
  | .decimal => .decimal
  | .date => .date
  | .datetime => .datetime
  | .datetimeTz => .datetimeTZ
  | .duration => .duration
  | .struct name => .struct name

def ValueType.tryFromProto (proto : Proto.ValueType) : Decoded ValueType := do
  let inner ← okOr (missingResponseField "value_type") proto.valueType
  .ok (ValueType.fromProto inner)

/-- A present value type is unwrapped although its own field may be absent. -/
def AttributeType.fromProto (proto : Proto.AttributeType) : Decoded AttributeType :=
  match proto.valueType with
  | none => .ok ⟨proto.label, none⟩
  | some valueTypeProto => do
      let inner ← unwrap valueTypeProto.valueType
      .ok ⟨proto.label, some (ValueType.fromProto inner)⟩

def Kind.tryFromProto (kind : Int32) : Decoded Kind :=
  if kind = 0 then .ok .entity
  else if kind = 1 then .ok .relation
  else if kind = 2 then .ok .attribute
  else if kind = 3 then .ok .role
  else .error (.connection (.unexpectedKind kind))

def naiveDatetimeFromTimestamp (chrono : Chrono) (seconds : Int64) (nanos : UInt32) :
    Decoded NaiveDateTime :=
  unwrap (chrono.fromTimestamp seconds nanos)

/-- Unary minus on an `i32` with overflow checks. -/
def negateI32 (value : Int32) : Decoded Int32 :=
  if value = Int32.minValue then .panicked else .ok (-value)

def TimeZone.tryFromProto (chrono : Chrono) : Proto.Timezone → Decoded TimeZone
  | .named name => do
      let tz ← okOr (.connection (.valueTimeZoneNameNotRecognised name))
        (chrono.tzFromStr name)
      .ok (.iana tz)
  | .offset offsetSeconds => do
      let fixedOffset ←
        if 0 ≤ offsetSeconds then
          Outcome.ok (chrono.eastOpt offsetSeconds)
        else do
          let seconds ← negateI32 offsetSeconds
          .ok (chrono.westOpt seconds)
      let offset ← okOr (.connection (.valueTimeZoneOffsetNotRecognised offsetSeconds))
        fixedOffset
      .ok (.fixed offset)

def Value.tryFromProto (chrono : Chrono) (proto : Proto.Value) : Decoded Value :=
  match proto.value with
  | some (.boolean inner) => .ok (.boolean inner)
  | some (.integer inner) => .ok (.integer inner)
  | some (.double inner) => .ok (.double inner)
  | some (.string inner) => .ok (.string inner)
  | some (.decimal inner) => do
      let value ← Decimal.new inner.integer inner.fractional
      .ok (.decimal value)
  | some (.date inner) => do
      let value ← unwrap (chrono.fromNumDaysFromCeOpt inner.numDaysSinceCe)
      .ok (.date value)
  | some (.datetime inner) => do
      let value ← naiveDatetimeFromTimestamp chrono inner.seconds inner.nanos
      .ok (.datetime value)
  | some (.datetimeTz inner) => do
      let datetimeProto ← okOr (missingResponseField "Value.datetime_tz.datetime")
        inner.datetime
      let naiveDatetime ←
        naiveDatetimeFromTimestamp chrono datetimeProto.seconds datetimeProto.nanos
      let timezone ← okOr (missingResponseField "Value.datetime_tz.timezone")
        inner.timezone
      let timeZone ← TimeZone.tryFromProto chrono timezone
      .ok (.datetimeTZ ⟨naiveDatetime, timeZone⟩)
  | some (.duration inner) => .ok (.duration ⟨inner.months, inner.days, inner.nanos⟩)
  | some .struct => .error (.connection .valueStructNotImplemented)
  | none => .error (missingResponseField "Value.value")

def Entity.tryFromProto (proto : Proto.Entity) : Decoded Entity :=
  .ok ⟨⟨proto.iid⟩, proto.entityType.map EntityType.fromProto⟩

def Relation.tryFromProto (proto : Proto.Relation) : Decoded Relation :=
  .ok ⟨⟨proto.iid⟩, proto.relationType.map RelationType.fromProto⟩

def AttributeType.fromOptionalProto : Option Proto.AttributeType → Decoded (Option AttributeType)
  | none => .ok none
  | some typeProto => do
      let type ← AttributeType.fromProto typeProto
      .ok (some type)

/-- The type is decoded before the value is looked at. -/
def Attribute.tryFromProto (chrono : Chrono) (proto : Proto.Attribute) : Decoded Attribute := do
  let type ← AttributeType.fromOptionalProto proto.attributeType
  let valueProto ← okOr (missingResponseField "value") proto.value
  let value ← Value.tryFromProto chrono valueProto
  .ok ⟨⟨proto.iid⟩, type, value⟩

def Concept.tryFromProto (chrono : Chrono) (proto : Proto.Concept) : Decoded Concept :=
  match proto.concept with
  | some (.entityType inner) => .ok (.entityType (EntityType.fromProto inner))
  | some (.relationType inner) => .ok (.relationType (RelationType.fromProto inner))
  | some (.attributeType inner) => do
      let type ← AttributeType.fromProto inner
      .ok (.attributeType type)
  | some (.roleType inner) => .ok (.roleType (RoleType.fromProto inner))
  | some (.entity inner) => do
      let value ← Entity.tryFromProto inner
      .ok (.entity value)
  | some (.relation inner) => do
      let value ← Relation.tryFromProto inner
      .ok (.relation value)
  | some (.attribute inner) => do
      let value ← Attribute.tryFromProto chrono inner
      .ok (.attribute value)
  | none => .error (missingResponseField "concept")

def RowEntry.tryFromProto (chrono : Chrono) (proto : Proto.RowEntry) :
    Decoded (Option Concept) := do
  let entry ← okOr (missingResponseField "ConceptRow.entry") proto.entry
  match entry with
  | .empty => .ok none
  | .concept conceptProto => do
      let concept ← Concept.tryFromProto chrono conceptProto
      .ok (some concept)
  | .value valueProto => do
      let value ← Value.tryFromProto chrono valueProto
      .ok (some (.value value))
  | .conceptList | .valueList => .error (.connection .listsNotImplemented)

def ConceptRow.tryFromProto (chrono : Chrono) (proto : Proto.ConceptRow) :
    Decoded (List (Option Concept)) :=
  Outcome.traverse (RowEntry.tryFromProto chrono) proto.row

def Leaf.tryFromProto (chrono : Chrono) (proto : Proto.Leaf) : Decoded (Option Leaf) :=
  match proto.leaf with
  | some .empty => .ok none
  | some (.entityType inner) =>
    .ok (some (.concept (.entityType (EntityType.fromProto inner))))
  | some (.relationType inner) =>
    .ok (some (.concept (.relationType (RelationType.fromProto inner))))
  | some (.attributeType inner) => do
      let type ← AttributeType.fromProto inner
      .ok (some (.concept (.attributeType type)))
  | some (.roleType inner) => .ok (some (.concept (.roleType (RoleType.fromProto inner))))
  | some (.valueType inner) => do
      let value ← ValueType.tryFromProto inner
      .ok (some (.valueType value))
  | some (.attribute inner) => do
      let value ← Attribute.tryFromProto chrono inner
      .ok (some (.concept (.attribute value)))
  | some (.value valueProto) => do
      let value ← Value.tryFromProto chrono valueProto
      .ok (some (.concept (.value value)))
  | some (.kind kindProto) => do
      let value ← Kind.tryFromProto kindProto
      .ok (some (.kind value))
  | none => .ok none

mutual

def Node.tryFromProto (chrono : Chrono) : Proto.Node → Decoded Node
  | .map entries => do
      let nodes ← Node.tryFromProtoMap chrono entries
      .ok (.map nodes)
  | .list protos => do
      let nodes ← Node.tryFromProtoList chrono protos
      .ok (.list nodes)
  | .leaf leafProto => do
      let result ← Leaf.tryFromProto chrono leafProto
      .ok (.leaf result)
  | .absent => .error (missingResponseField "node")

def Node.tryFromProtoMap (chrono : Chrono) :
    List (String × Proto.Node) → Decoded (List (String × Node))
  | [] => .ok []
  | (var, nodeProto) :: rest => do
      let node ← Node.tryFromProto chrono nodeProto
      let others ← Node.tryFromProtoMap chrono rest
      .ok ((var, node) :: others)

def Node.tryFromProtoList (chrono : Chrono) : List Proto.Node → Decoded (List Node)
  | [] => .ok []
  | nodeProto :: rest => do
      let node ← Node.tryFromProto chrono nodeProto
      let others ← Node.tryFromProtoList chrono rest
      .ok (node :: others)

end

def ConceptDocument.tryFromProto (chrono : Chrono) (proto : Proto.ConceptDocument) :
    Decoded (Option Node) :=
  match proto.root with
  | none => .ok none
  | some nodeProto => do
      let node ← Node.tryFromProto chrono nodeProto
      .ok (some node)

end TypeDBDriver
