import Mathlib.Algebra.Group.Nat.Defs
import TypeDBDriver.Proto.Message

/-! The concepts a user receives: values, types, instances, document nodes. Calendar
types of the `chrono` dependency are represented by the data that determines them. -/

namespace TypeDBDriver

open Library
open Proto (F64)

/-- A proleptic Gregorian date, by its day number with January 1 of year 1 as day 1. -/
structure NaiveDate where
  numDaysFromCe : Int
  deriving DecidableEq, Repr

/-- A date-time without time zone, by its distance from the epoch. -/
structure NaiveDateTime where
  seconds : Int
  nanos : Nat
  deriving DecidableEq, Repr

structure FixedOffset where
  localMinusUtc : Int
  deriving DecidableEq, Repr

structure Tz where
  name : String
  deriving DecidableEq, Repr

inductive TimeZone where
  | iana (tz : Tz)
  | fixed (offset : FixedOffset)
  deriving DecidableEq, Repr

structure DateTime where
  utc : NaiveDateTime
  timezone : TimeZone
  deriving DecidableEq, Repr

/-- The functions of `chrono` and `chrono_tz` that decoding calls. -/
structure Chrono where
  fromNumDaysFromCeOpt : Int32 → Option NaiveDate
  fromTimestamp : Int64 → UInt32 → Option NaiveDateTime
  eastOpt : Int32 → Option FixedOffset
  westOpt : Int32 → Option FixedOffset
  tzFromStr : String → Option Tz

def Decimal.fractionalPartDenominator : Nat := 10 ^ 19

/-- A fixed-point number with 19 digits after the point. -/
structure Decimal where
  integer : Int64
  fractional : UInt64
  valid : fractional.toNat < Decimal.fractionalPartDenominator
  deriving DecidableEq, Repr

/-- `Decimal::new`, whose assertion is what makes every `Decimal` valid. -/
def Decimal.new {ε : Type} (integer : Int64) (fractional : UInt64) : Outcome ε Decimal :=
  if valid : fractional.toNat < Decimal.fractionalPartDenominator then
    .ok ⟨integer, fractional, valid⟩
  else
    .panicked

structure Duration where
  months : UInt32
  days : UInt32
  nanos : UInt64
  deriving DecidableEq, Repr

inductive ValueType where
  | boolean
  | integer
  | double
  | decimal
  | string
  | date
  | datetime
  | datetimeTZ
  | duration
  | struct (name : String)
  deriving DecidableEq, Repr

inductive Value where
  | boolean (value : Bool)
  | integer (value : Int64)
  | double (value : F64)
  | decimal (value : Decimal)
  | string (value : String)
  | date (value : NaiveDate)
  | datetime (value : NaiveDateTime)
  | datetimeTZ (value : DateTime)
  | duration (value : Duration)
  | struct (fields : List (String × Option Value)) (name : String)

structure EntityType where
  label : String
  deriving DecidableEq, Repr

structure RelationType where
  label : String
  deriving DecidableEq, Repr

structure RoleType where
  label : String
  deriving DecidableEq, Repr

structure AttributeType where
  label : String
  valueType : Option ValueType
  deriving DecidableEq, Repr

structure Entity where
  iid : IID
  type_ : Option EntityType
  deriving DecidableEq, Repr

structure Relation where
  iid : IID
  type_ : Option RelationType
  deriving DecidableEq, Repr

structure Attribute where
  iid : IID
  type_ : Option AttributeType
  value : Value

inductive Concept where
  | entityType (type : EntityType)
  | relationType (type : RelationType)
  | roleType (type : RoleType)
  | attributeType (type : AttributeType)
  | entity (instance_ : Entity)
  | relation (instance_ : Relation)
  | attribute (instance_ : Attribute)
  | value (value : Value)

inductive Kind where
  | entity
  | attribute
  | relation
  | role
  deriving DecidableEq, Repr

inductive QueryType where
  | readQuery
  | writeQuery
  | schemaQuery
  deriving DecidableEq, Repr

inductive Leaf where
  | empty
  | concept (concept : Concept)
  | valueType (valueType : ValueType)
  | kind (kind : Kind)

inductive Node where
  | map (entries : List (String × Node))
  | list (nodes : List Node)
  | leaf (leaf : Option Leaf)

structure ConceptRowHeader where
  columnNames : List String
  queryType : QueryType
  deriving DecidableEq, Repr

structure ConceptRow where
  header : ConceptRowHeader
  row : List (Option Concept)

structure ConceptDocumentHeader where
  queryType : QueryType
  deriving DecidableEq, Repr

structure ConceptDocument where
  header : ConceptDocumentHeader
  root : Option Node

end TypeDBDriver
