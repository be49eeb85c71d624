import TypeDBDriver.Network.ResponseSink

/-! The user's side of a transaction: what the promises and answer streams of
`TransactionStream` make of the responses that arrive on the channel of a call. -/

namespace TypeDBDriver

/-- The `Debug` texts that error messages quote. -/
structure DebugText where
  transactionResponse : TransactionResponse → String
  queryResponse : QueryResponse → String

inductive UserRequest where
  | commit
  | rollback
  | query (request : QueryRequest)
  deriving DecidableEq, Repr

namespace UserRequest

def toRequest : UserRequest → TransactionRequest
  | .commit => .commit
  | .rollback => .rollback
  | .query request => .query request

/-- `single` answers over a one-shot channel, `stream` over an unbounded one. -/
def sink (sync : Bool) (ticket : Ticket) : UserRequest → ResponseSink
  | .query _ => .streamed ticket
  | .commit | .rollback => if sync then .blockingOneShot ticket else .asyncOneShot ticket

def isQuery : UserRequest → Bool
  | .query _ => true
  | .commit | .rollback => false

@[simp] theorem sink_ticket (sync : Bool) (ticket : Ticket) (request : UserRequest) :
    (request.sink sync ticket).ticket = ticket := by
  cases request <;> cases sync <;> rfl

@[simp] theorem sink_isStreamed (sync : Bool) (ticket : Ticket) (request : UserRequest) :
    (request.sink sync ticket).isStreamed = request.isQuery := by
  cases request <;> cases sync <;> rfl

end UserRequest

def transactionIsClosed : Error := .connection .transactionIsClosed

/-- `process_response`: the item for the stream, and the request that asks for more.
`accepting` says whether the request channel still has its receiver. -/
def processResponse (accepting : Bool) :
    StreamResponse TransactionResponse →
      Option (Result TransactionResponse) × Option TransactionRequest
  | .result result => (some result, none)
  | .continue requestId =>
    if accepting then (none, some (.stream requestId))
    else (some (.error transactionIsClosed), none)

def queryResponse (debug : DebugText) : Result TransactionResponse → Result QueryResponse
  | .ok (.query response) => .ok response
  | .ok other =>
    .error (.internal (.unexpectedResponseType (debug.transactionResponse other)))
  | .error err => .error err

inductive AnswerHeader where
  | documents (header : ConceptDocumentHeader)
  | rows (header : ConceptRowHeader)
  deriving DecidableEq, Repr

inductive Answer where
  | document (document : ConceptDocument)
  | row (row : ConceptRow)

inductive QueryAnswer where
  | ok (queryType : QueryType)
  | stream (header : AnswerHeader)
  deriving DecidableEq, Repr

def openAnswer (debug : DebugText) : Option (Result QueryResponse) → Result QueryAnswer
  | none => .error (.connection .queryStreamNoResponse)
  | some (.error err) => .error err
  | some (.ok header) =>
    match header with
    | .ok queryType => .ok (.ok queryType)
    | .conceptDocumentsHeader documentsHeader => .ok (.stream (.documents documentsHeader))
    | .conceptRowsHeader rowsHeader => .ok (.stream (.rows rowsHeader))
    | .error error => .error (.server error)
    | other => .error (.internal (.unexpectedResponseType (debug.queryResponse other)))

/-- The function under `flat_map`. -/
def unbatch (debug : DebugText) :
    AnswerHeader → Result QueryResponse → List (Result Answer)
  | .documents header, .ok (.streamConceptDocuments documents) =>
    documents.map fun document => .ok (.document ⟨header, document⟩)
  | .rows header, .ok (.streamConceptRows rows) => rows.map fun row => .ok (.row ⟨header, row⟩)
  | _, .ok (.error error) => [.error (.server error)]
  | _, .ok other => [.error (.internal (.unexpectedResponseType (debug.queryResponse other)))]
  | _, .error err => [.error err]

inductive ConsumerPhase where
  | awaitingHeader
  | resolved (answer : Result QueryType)
  | streaming (header : AnswerHeader)

/-- A query seen from the user: how much of the channel was read, the answers that the
current batch still holds, and everything handed out so far. -/
structure Consumer where
  cursor : Nat := 0
  phase : ConsumerPhase := .awaitingHeader
  batch : List (Result Answer) := []
  yielded : List (Result Answer) := []
  ended : Bool := false

namespace Consumer

def resolve (consumer : Consumer) : Result QueryAnswer → Consumer
  | .error err => { consumer with phase := .resolved (.error err) }
  | .ok (.ok queryType) => { consumer with phase := .resolved (.ok queryType) }
  | .ok (.stream header) => { consumer with phase := .streaming header }

def yield (consumer : Consumer) (answer : Result Answer) (rest : List (Result Answer)) : Consumer :=
  { consumer with batch := rest, yielded := consumer.yielded ++ [answer] }

def receive (debug : DebugText) (consumer : Consumer) (item : Result TransactionResponse) :
    Consumer :=
  match consumer.phase with
  | .awaitingHeader => consumer.resolve (openAnswer debug (some (queryResponse debug item)))
  | .streaming header => { consumer with batch := unbatch debug header (queryResponse debug item) }
  | .resolved _ => consumer

def finish (debug : DebugText) (consumer : Consumer) : Consumer :=
  match consumer.phase with
  | .awaitingHeader => consumer.resolve (openAnswer debug none)
  | .streaming _ => { consumer with ended := true }
  | .resolved _ => consumer

end Consumer

end TypeDBDriver
