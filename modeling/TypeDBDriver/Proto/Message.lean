import TypeDBDriver.Common.Error

/-! The protocol messages that the driver decodes. Every message field that
protobuf makes optional is an `Option` (an absent `oneof` is `none`), every integer
has its wire type, and a repeated field or a map is the list of its elements in the
order in which the decoder visits them. -/

namespace TypeDBDriver.Proto

/-- A double as its 64 bits: the driver passes it on and never computes with it here. -/
structure F64 where
  bits : UInt64
  deriving DecidableEq, Repr

structure Decimal where
  integer : Int64
  fractional : UInt64
  deriving DecidableEq, Repr

structure Date where
  numDaysSinceCe : Int32
  deriving DecidableEq, Repr

structure Datetime where
  seconds : Int64
  nanos : UInt32
  deriving DecidableEq, Repr

inductive Timezone where
  | named (name : String)
  | offset (seconds : Int32)
  deriving DecidableEq, Repr

structure DatetimeTz where
  datetime : Option Datetime
  timezone : Option Timezone
  deriving DecidableEq, Repr

structure Duration where
  months : UInt32
  days : UInt32
  nanos : UInt64
  deriving DecidableEq, Repr

/-- The `oneof` of `Value`. The decoder never looks inside a struct. -/
inductive ValueInner where
  | boolean (value : Bool)
  | integer (value : Int64)
  | double (value : F64)
  | string (value : String)
  | decimal (value : Decimal)
  | date (value : Date)
  | datetime (value : Datetime)
  | datetimeTz (value : DatetimeTz)
  | duration (value : Duration)
  | struct
  deriving DecidableEq, Repr

structure Value where
  value : Option ValueInner
  deriving DecidableEq, Repr

inductive ValueTypeInner where
  | boolean
  | integer
  | double
  | string
  | decimal
  | date
  | datetime
  | datetimeTz
  | duration
  | struct (name : String)
  deriving DecidableEq, Repr

structure ValueType where
  valueType : Option ValueTypeInner
  deriving DecidableEq, Repr

structure EntityType where
  label : String
  deriving DecidableEq, Repr

structure RelationType where
  label : String
  deriving DecidableEq, Repr

structure RoleType where
  label : String
  deriving DecidableEq, Repr

structure AttributeType where
  label : String
  valueType : Option ValueType
  deriving DecidableEq, Repr

structure Entity where
  iid : Bytes
  entityType : Option EntityType
  deriving DecidableEq, Repr

structure Relation where
  iid : Bytes
  relationType : Option RelationType
  deriving DecidableEq, Repr

structure Attribute where
  iid : Bytes
  attributeType : Option AttributeType
  value : Option Value
  deriving DecidableEq, Repr

inductive ConceptInner where
  | entityType (proto : EntityType)
  | relationType (proto : RelationType)
  | attributeType (proto : AttributeType)
  | roleType (proto : RoleType)
  | entity (proto : Entity)
  | relation (proto : Relation)
  | attribute (proto : Attribute)
  deriving DecidableEq, Repr

structure Concept where
  concept : Option ConceptInner
  deriving DecidableEq, Repr

/-- The decoder rejects both kinds of lists unread. -/
inductive Entry where
  | empty
  | concept (proto : Concept)
  | value (proto : Value)
  | conceptList
  | valueList
  deriving DecidableEq, Repr

structure RowEntry where
  entry : Option Entry
  deriving DecidableEq, Repr

structure ConceptRow where
  row : List RowEntry
  deriving DecidableEq, Repr

inductive LeafInner where
  | empty
  | entityType (proto : EntityType)
  | relationType (proto : RelationType)
  | attributeType (proto : AttributeType)
  | roleType (proto : RoleType)
  | valueType (proto : ValueType)
  | attribute (proto : Attribute)
  | value (proto : Value)
  | kind (kind : Int32)
  deriving DecidableEq, Repr

structure Leaf where
  leaf : Option LeafInner
  deriving DecidableEq, Repr

/-- A document node; `absent` is a message without its `node` field. -/
inductive Node where
  | absent
  | map (entries : List (String × Node))
  | list (nodes : List Node)
  | leaf (leaf : Leaf)

structure ConceptDocument where
  root : Option Node

structure Error where
  errorCode : String
  domain : String
  stackTrace : List String
  deriving DecidableEq, Repr

namespace Query

inductive OkInner where
  | done (queryType : Int32)
  | conceptDocumentStream (queryType : Int32)
  | conceptRowStream (columnVariableNames : List String) (queryType : Int32)
  deriving DecidableEq, Repr

inductive InitialResInner where
  | error (error : Error)
  | ok (header : Option OkInner)
  deriving DecidableEq, Repr

structure InitialRes where
  res : Option InitialResInner
  deriving DecidableEq, Repr

inductive ResPartInner where
  | documentsRes (documents : List ConceptDocument)
  | rowsRes (rows : List ConceptRow)

structure ResPart where
  res : Option ResPartInner

end Query

namespace Transaction

inductive ResInner where
  | openRes (serverDurationMillis : UInt64)
  | commitRes
  | rollbackRes
  | queryInitialRes (initialRes : Query.InitialRes)
  deriving DecidableEq, Repr

structure Res where
  reqId : Bytes
  res : Option ResInner
  deriving DecidableEq, Repr

inductive StreamState where
  | continue
  | done
  | error (error : Error)
  deriving DecidableEq, Repr

inductive ResPartInner where
  | queryRes (queryRes : Query.ResPart)
  | streamRes (state : Option StreamState)

structure ResPart where
  reqId : Bytes
  resPart : Option ResPartInner

inductive ServerInner where
  | res (res : Res)
  | resPart (resPart : ResPart)

structure Server where
  server : Option ServerInner

structure Options where
  parallel : Option Bool
  prefetchSize : Option UInt64
  prefetch : Option Bool
  transactionTimeoutMillis : Option UInt64
  schemaLockAcquireTimeoutMillis : Option UInt64
  readAnyReplica : Option Bool
  deriving DecidableEq, Repr

inductive Kind where
  | read
  | write
  | schema
  deriving DecidableEq, Repr

inductive ReqInner where
  | openReq (database : String) (type : Kind) (options : Option Options)
      (networkLatencyMillis : UInt64)
  | commitReq
  | rollbackReq
  | queryReq (query : String) (options : Option Options)
  | streamReq
  deriving DecidableEq, Repr

/-- A request; its metadata is always empty. -/
structure Req where
  reqId : Bytes
  req : Option ReqInner
  deriving DecidableEq, Repr

structure Client where
  reqs : List Req
  deriving DecidableEq, Repr

end Transaction

structure Replica where
  address : String
  primary : Bool
  preferred : Bool
  term : Int64
  deriving DecidableEq, Repr

structure DatabaseReplicas where
  name : String
  replicas : List Replica
  deriving DecidableEq, Repr

/-- `connection::open::Res`; the two nested messages are flattened to their only fields. -/
structure ConnectionOpenRes where
  databasesAll : Option (List DatabaseReplicas)
  connectionId : Option Bytes
  serverDurationMillis : UInt64
  deriving DecidableEq, Repr

end TypeDBDriver.Proto
