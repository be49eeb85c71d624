import TypeDBDriver.Network.ConceptDecoding

/-! The requests and responses of a connection, and their translation to and from
protocol messages. -/

namespace TypeDBDriver

open Library

abbrev StdDuration := Nat

def StdDuration.asMillisU64 (duration : StdDuration) : UInt64 := UInt64.ofNat (duration / 1000000)

structure Options where
  parallel : Option Bool := none
  prefetch : Option Bool := none
  prefetchSize : Option UInt64 := none
  transactionTimeout : Option StdDuration := none
  schemaLockAcquireTimeout : Option StdDuration := none
  readAnyReplica : Option Bool := none
  deriving DecidableEq, Repr

def Options.intoProto (options : Options) : Proto.Transaction.Options where
  parallel := options.parallel
  prefetchSize := options.prefetchSize
  prefetch := options.prefetch
  transactionTimeoutMillis := options.transactionTimeout.map StdDuration.asMillisU64
  schemaLockAcquireTimeoutMillis := options.schemaLockAcquireTimeout.map StdDuration.asMillisU64
  readAnyReplica := options.readAnyReplica

inductive TransactionType where
  | read
  | write
  | schema
  deriving DecidableEq, Repr

def TransactionType.intoProto : TransactionType → Proto.Transaction.Kind
  | .read => .read
  | .write => .write
  | .schema => .schema

structure QueryRequest where
  query : String
  options : Options
  deriving DecidableEq, Repr

inductive TransactionRequest where
  | open (database : String) (transactionType : TransactionType) (options : Options)
      (networkLatency : StdDuration)
  | commit
  | rollback
  | query (request : QueryRequest)
  | stream (requestId : RequestID)
  deriving DecidableEq, Repr

/-- `into_proto`. Only a stream request carries its id; every other request takes the
one that `RequestID::generate` returned. -/
def TransactionRequest.intoProto (generated : RequestID) :
    TransactionRequest → Proto.Transaction.Req
  | .open database transactionType options networkLatency =>
    ⟨generated.bytes, some (.openReq database transactionType.intoProto
      (some options.intoProto) networkLatency.asMillisU64)⟩
  | .commit => ⟨generated.bytes, some .commitReq⟩
  | .rollback => ⟨generated.bytes, some .rollbackReq⟩
  | .query request =>
    ⟨generated.bytes, some (.queryReq request.query (some request.options.intoProto))⟩
  | .stream requestId => ⟨requestId.bytes, some .streamReq⟩

inductive QueryResponse where
  | ok (queryType : QueryType)
  | conceptRowsHeader (header : ConceptRowHeader)
  | conceptDocumentsHeader (header : ConceptDocumentHeader)
  | streamConceptRows (rows : List (List (Option Concept)))
  | streamConceptDocuments (documents : List (Option Node))
  | error (error : ServerError)

inductive TransactionResponse where
  | open (serverDurationMillis : UInt64)
  | commit
  | rollback
  | query (response : QueryResponse)
  | close

def QueryType.tryFromProto (queryType : Int32) : Decoded QueryType :=
  if queryType = 0 then .ok .readQuery
  else if queryType = 1 then .ok .writeQuery
  else if queryType = 2 then .ok .schemaQuery
  else .error (.connection (.unexpectedQueryType queryType))

def QueryResponse.fromProto (proto : Proto.Error) : QueryResponse :=
  .error ⟨proto.errorCode, proto.domain, "", proto.stackTrace⟩

def QueryResponse.tryFromProtoOk : Proto.Query.OkInner → Decoded QueryResponse
  | .done queryTypeProto => do
      let queryType ← QueryType.tryFromProto queryTypeProto
      .ok (.ok queryType)
  | .conceptDocumentStream queryTypeProto => do
      let queryType ← QueryType.tryFromProto queryTypeProto
      .ok (.conceptDocumentsHeader ⟨queryType⟩)
  | .conceptRowStream columnVariableNames queryTypeProto => do
      let queryType ← QueryType.tryFromProto queryTypeProto
      .ok (.conceptRowsHeader ⟨columnVariableNames, queryType⟩)

def TransactionResponse.tryFromProto (proto : Proto.Transaction.Res) :
    Decoded TransactionResponse :=
  match proto.res with
  | some (.openRes serverDurationMillis) => .ok (.open serverDurationMillis)
  | some .commitRes => .ok .commit
  | some .rollbackRes => .ok .rollback
  | some (.queryInitialRes initialRes) =>
    match initialRes.res with
    | some (.error error) => .ok (.query (QueryResponse.fromProto error))
    | some (.ok none) =>
      .error (missingResponseField "transaction.res.query.initial_res.res.Ok.ok")
    | some (.ok (some header)) => do
        let response ← QueryResponse.tryFromProtoOk header
        .ok (.query response)
    | none => .error (missingResponseField "transaction.res.query.initial_res.res")
  | none => .error (missingResponseField "res")

def QueryResponse.tryFromProtoPart (chrono : Chrono) :
    Proto.Query.ResPartInner → Decoded QueryResponse
  | .documentsRes documents => do
      let converted ← Outcome.traverse (ConceptDocument.tryFromProto chrono) documents
      .ok (.streamConceptDocuments converted)
  | .rowsRes rows => do
      let converted ← Outcome.traverse (ConceptRow.tryFromProto chrono) rows
      .ok (.streamConceptRows converted)

def TransactionResponse.tryFromProtoPart (chrono : Chrono) (proto : Proto.Query.ResPart) :
    Decoded TransactionResponse :=
  match proto.res with
  | some res => do
      let response ← QueryResponse.tryFromProtoPart chrono res
      .ok (.query response)
  | none => .error (missingResponseField "query.ResPart.res")

def ReplicaInfo.tryFromProto (http : Http) (proto : Proto.Replica) : Decoded ReplicaInfo := do
  let server ← Address.fromStr http proto.address
  .ok ⟨server, proto.primary, proto.preferred, proto.term⟩

def DatabaseInfo.tryFromProto (http : Http) (proto : Proto.DatabaseReplicas) :
    Decoded DatabaseInfo := do
  let replicas ← Outcome.traverse (ReplicaInfo.tryFromProto http) proto.replicas
  .ok ⟨proto.name, replicas⟩

structure Uuid where
  bytes : Bytes
  length_eq : bytes.length = 16
  deriving DecidableEq, Repr

def Uuid.fromSlice (bytes : Bytes) : Option Uuid :=
  if length_eq : bytes.length = 16 then some ⟨bytes, length_eq⟩ else none

structure ConnectionOpen where
  connectionId : Uuid
  serverDurationMillis : UInt64
  databases : List DatabaseInfo
  deriving DecidableEq, Repr

/-- `TryFromProto<connection::open::Res> for Response`. The databases are converted
before the connection id is unwrapped. -/
def ConnectionOpen.tryFromProto (http : Http) (proto : Proto.ConnectionOpenRes) :
    Decoded ConnectionOpen := do
  let databasesAll ← Outcome.unwrap proto.databasesAll
  let databaseInfos ← Outcome.traverse (DatabaseInfo.tryFromProto http) databasesAll
  let connectionIdProto ← Outcome.unwrap proto.connectionId
  let connectionId ← Outcome.unwrap (Uuid.fromSlice connectionIdProto)
  .ok ⟨connectionId, proto.serverDurationMillis, databaseInfos⟩

end TypeDBDriver
