import TypeDBDriver.Answer.Json
import TypeDBDriver.Concept.Display

/-! Fetched documents as JSON values. -/

namespace TypeDBDriver

open Library

def Kind.name : Kind → String
  | .entity => "entity"
  | .attribute => "attribute"
  | .relation => "relation"
  | .role => "relation:role"

def jsonKind (kind : Kind) : JSON := .string kind.name

def jsonType (kind : Kind) (label : String) : JSON :=
  .object [("kind", jsonKind kind), ("label", .string label)]

def jsonValueType (valueType : Option ValueType) : JSON :=
  .string (match valueType with
    | none => "none"
    | some .boolean => "boolean"
    | some .integer => "integer"
    | some .double => "double"
    | some .decimal => "decimal"
    | some .string => "string"
    | some .date => "date"
    | some .datetime => "datetime"
    | some .datetimeTZ => "datetime-tz"
    | some .duration => "duration"
    | some (.struct name) => name)

def jsonAttributeType (label : String) (valueType : Option ValueType) : JSON :=
  .object [("kind", .string Kind.attribute.name), ("label", .string label),
    ("value_type", jsonValueType valueType)]

section Values

variable (format : ChronoFormat)

mutual

def jsonValue : Value → JSON
  | .boolean boolean => .boolean boolean
  | .integer integer => .number (asF64 integer)
  | .double double => .number double
  | .string string => .string string
  | .decimal decimal => .string (String.ofList decimal.display)
  | .date date => .string (String.ofList (format.date date))
  | .datetime datetime => .string (String.ofList (format.datetime datetime))
  | .datetimeTZ datetime => .string (String.ofList (datetime.display format))
  | .duration duration => .string (String.ofList duration.display)
  | .struct fields name => .object [(name, .object (jsonStruct fields))]

def jsonStruct : List (String × Option Value) → List (String × JSON)
  | [] => []
  | (key, some value) :: rest => (key, jsonValue value) :: jsonStruct rest
  | (key, none) :: rest => (key, .null) :: jsonStruct rest

end

end Values

def Leaf.intoJson (format : ChronoFormat) : Leaf → Outcome Empty JSON
  | .empty => .ok .null
  | .concept (.entityType type) => .ok (jsonType .entity type.label)
  | .concept (.relationType type) => .ok (jsonType .relation type.label)
  | .concept (.attributeType type) => .ok (jsonAttributeType type.label type.valueType)
  | .concept (.roleType type) => .ok (jsonType .role type.label)
  | .concept (.attribute instance_) => .ok (jsonValue format instance_.value)
  | .concept (.value value) => .ok (jsonValue format value)
  -- unreachable!("Unexpected concept encountered in fetch response")
  | .concept (.entity _) => .panicked
  | .concept (.relation _) => .panicked
  | .valueType type => .ok (jsonValueType (some type))
  | .kind named => .ok (jsonKind named)

section Nodes

variable (format : ChronoFormat)

mutual

def Node.intoJson : Node → Outcome Empty JSON
  | .map entries => do
      let members ← Node.entriesIntoJson entries
      .ok (.object members)
  | .list nodes => do
      let elems ← Node.listIntoJson nodes
      .ok (.array elems)
  | .leaf (some content) => content.intoJson format
  | .leaf none => .ok .null

def Node.entriesIntoJson : List (String × Node) → Outcome Empty (List (String × JSON))
  | [] => .ok []
  | (key, node) :: rest => do
      let value ← Node.intoJson node
      let members ← Node.entriesIntoJson rest
      .ok ((key, value) :: members)

def Node.listIntoJson : List Node → Outcome Empty (List JSON)
  | [] => .ok []
  | node :: rest => do
      let value ← Node.intoJson node
      let elems ← Node.listIntoJson rest
      .ok (value :: elems)

end

end Nodes

def ConceptDocument.intoJson (format : ChronoFormat) (document : ConceptDocument) :
    Outcome Empty JSON :=
  match document.root with
  | none => .ok .null
  | some root => root.intoJson format

end TypeDBDriver
