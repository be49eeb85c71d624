import TypeDBDriver.Concept.Display

/-! What the getters of a concept return, and its text in the `Debug` format. -/

namespace TypeDBDriver

open Library
open Proto (F64)
open String (ofList)

/-- The texts of values that come from elsewhere: the calendar library, the `Display` format
of floating-point numbers, and the fields of a struct in the order of its map. -/
structure DisplayText where
  chrono : ChronoFormat
  double : F64 → Text
  struct : List (String × Option Value) → Text

def ValueType.name : ValueType → String
  | .boolean => "boolean"
  | .integer => "integer"
  | .double => "double"
  | .decimal => "decimal"
  | .string => "string"
  | .date => "date"
  | .datetime => "datetime"
  | .datetimeTZ => "datetime-tz"
  | .duration => "duration"
  | .struct name => name

namespace Value

def getType : Value → ValueType
  | .boolean _ => .boolean
  | .integer _ => .integer
  | .double _ => .double
  | .decimal _ => .decimal
  | .string _ => .string
  | .date _ => .date
  | .datetime _ => .datetime
  | .datetimeTZ _ => .datetimeTZ
  | .duration _ => .duration
  | .struct _ name => .struct name

def getTypeName (value : Value) : String := value.getType.name

def getString : Value → Option String
  | .string text => some text
  | _ => none

/-- `fmt::Display for Value`. A string stands between quotes as it is, without escapes. -/
def display (texts : DisplayText) : Value → String
  | .boolean value => if value then "true" else "false"
  | .integer value => ofList (integerText value.toInt)
  | .double value => ofList (texts.double value)
  | .string value => "\"" ++ value ++ "\""
  | .decimal value => ofList value.display
  | .date value => ofList (texts.chrono.date value)
  | .datetime value => ofList (texts.chrono.datetime value)
  | .datetimeTZ value => ofList (value.display texts.chrono)
  | .duration value => ofList value.display
  | .struct fields name => name ++ " " ++ ofList (texts.struct fields)

end Value

namespace Concept

def unknownLabel : String := "unknown"

def tryGetIid : Concept → Option IID
  | .entity instance_ => some instance_.iid
  | .relation instance_ => some instance_.iid
  | _ => none

def tryGetLabel : Concept → Option String
  | .entityType type | .relationType type | .attributeType type | .roleType type =>
    some type.label
  | .entity instance_ => instance_.type_.map (·.label)
  | .relation instance_ => instance_.type_.map (·.label)
  | .attribute instance_ => instance_.type_.map (·.label)
  | .value content => some content.getTypeName

def getLabel (concept : Concept) : String := concept.tryGetLabel.getD unknownLabel

def tryGetValue : Concept → Option Value
  | .attribute instance_ => some instance_.value
  | .value content => some content
  | _ => none

def tryGetString (concept : Concept) : Option String := concept.tryGetValue.bind Value.getString

def isType : Concept → Bool
  | .entityType _ | .relationType _ | .roleType _ | .attributeType _ => true
  | _ => false

theorem isType_of_tryGetValue {concept : Concept} {value : Value}
    (holds : concept.tryGetValue = some value) : concept.isType = false := by
  cases concept <;> first | rfl | cases holds

def categoryName : Concept → String
  | .entityType _ => "EntityType"
  | .relationType _ => "RelationType"
  | .roleType _ => "RoleType"
  | .attributeType _ => "AttributeType"
  | .entity _ => "Entity"
  | .relation _ => "Relation"
  | .attribute _ => "Attribute"
  | .value _ => "Value"

end Concept

/-- `fmt::Display for ID`: two hexadecimal digits for each byte. -/
def ID.display (id : ID) : String :=
  "0x" ++ ofList (id.bytes.flatMap fun byte =>
    [Nat.digitChar (byte.toNat / 16), Nat.digitChar (byte.toNat % 16)])

def Concept.debug (texts : DisplayText) (concept : Concept) : String :=
  let opening := concept.categoryName ++ "(" ++ concept.getLabel
  if concept.isType then opening ++ ")"
  else
    let value := concept.tryGetValue.map (Value.display texts)
    match concept.tryGetIid, value with
    | some iid, some value => opening ++ ": " ++ iid.display ++ ", " ++ value ++ ")"
    | some iid, none => opening ++ ": " ++ iid.display ++ ")"
    | none, some value => opening ++ ": " ++ value ++ ")"
    | none, none => opening ++ ")"

end TypeDBDriver
