import TypeDBDriver.Library.PromiseQueue
import TypeDBDriver.Library.Transition

/-! The stream of one transaction in the Node.js driver: the collectors of responses, a queue of
promises for each request, the generators that consume the response parts, and the events of the
gRPC stream. JavaScript runs one callback at a time, so a step is what happens between two
awaits. -/

namespace TypeDBDriver.Nodejs

open Library

/-- A UUID. `uuid.parse` and `uuid.stringify` are inverse to each other. -/
abbrev RequestId := Nat

abbrev CloseError := String

inductive TransactionStreamState where
  | continue
  | done
  | unrecognized (value : Int)
  deriving DecidableEq, Repr

structure TransactionRes (Content : Type) where
  reqId : RequestId
  content : Content

structure TransactionResPart (Content : Type) where
  reqId : RequestId
  streamResPart : Option TransactionStreamState
  content : Content

inductive TransactionServer (Content : Type) where
  | res (res : TransactionRes Content)
  | resPart (part : TransactionResPart Content)
  | empty

inductive StreamError where
  | transactionClosed
  | ofError (error : CloseError)
  | unknownStreamState (state : TransactionStreamState)
  deriving DecidableEq, Repr

inductive QueueElement (α : Type) where
  | value (value : α)
  | done (error : Option CloseError)

def QueueElement.outcome {α : Type} : QueueElement α → Except StreamError α
  | .value content => .ok content
  | .done (some error) => .error (.ofError error)
  | .done none => .error .transactionClosed

/-- Its `_queue` is a `BlockingQueue`. -/
abbrev ResponseQueue (α : Type) := PromiseQueue (QueueElement α)

namespace ResponseQueue

variable {α : Type}

def put (queue : ResponseQueue α) (elem : α) : ResponseQueue α :=
  queue.add (.value elem)

def close (queue : ResponseQueue α) (error : Option CloseError) : ResponseQueue α :=
  queue.add (.done error)

end ResponseQueue

abbrev ResponseCollector (α : Type) := RequestId → Option (ResponseQueue α)

namespace ResponseCollector

variable {α : Type}

def set (collector : ResponseCollector α) (requestId : RequestId) (queue : ResponseQueue α) :
    ResponseCollector α :=
  Function.update collector requestId (some queue)

def close (collector : ResponseCollector α) (error : Option CloseError) : ResponseCollector α :=
  fun requestId => (collector requestId).map (·.close error)

end ResponseCollector

inductive IteratorPhase where
  /-- It was created, or has yielded a part. -/
  | idle
  /-- `next` awaits the promise that `take` returned. -/
  | awaiting (promise : Nat)
  | ended
  | threw (error : StreamError)
  /-- The consumer left its loop. -/
  | abandoned
  deriving DecidableEq, Repr

def IteratorPhase.isOver : IteratorPhase → Bool
  | .ended | .threw _ => true
  | _ => false

structure ResponsePartIterator (Content : Type) where
  phase : IteratorPhase := .idle
  yielded : List (TransactionResPart Content) := []

inductive Dispatched where
  | request (requestId : RequestId)
  | streamReq (requestId : RequestId)
  deriving DecidableEq, Repr

structure Single where
  requestId : RequestId
  promise : Nat

structure BidirectionalStream (Content : Type) where
  isOpen : Bool := true
  error : Option CloseError := none
  responseCollector : ResponseCollector (TransactionRes Content) := fun _ => none
  responsePartCollector : ResponseCollector (TransactionResPart Content) := fun _ => none
  /-- What was passed to the dispatcher. -/
  dispatched : List Dispatched := []
  iterators : RequestId → Option (ResponsePartIterator Content) := fun _ => none
  singles : List Single := []

namespace BidirectionalStream

variable {Content : Type}

def single (stream : BidirectionalStream Content) (requestId : RequestId) :
    Option (BidirectionalStream Content) := do
  let (taken, queue) := ({} : ResponseQueue (TransactionRes Content)).take
  let promise ← taken
  some { stream with
    responseCollector := stream.responseCollector.set requestId queue
    dispatched := stream.dispatched ++ [.request requestId]
    singles := stream.singles ++ [⟨requestId, promise⟩] }

def stream (stream : BidirectionalStream Content) (requestId : RequestId) :
    BidirectionalStream Content :=
  { stream with
    responsePartCollector := stream.responsePartCollector.set requestId {}
    dispatched := stream.dispatched ++ [.request requestId]
    iterators := Function.update stream.iterators requestId (some {}) }

def close (stream : BidirectionalStream Content) (error : Option CloseError) :
    BidirectionalStream Content :=
  { stream with
    isOpen := false
    error
    responseCollector := stream.responseCollector.close error
    responsePartCollector := stream.responsePartCollector.close error }

/-- A response to an unknown request throws inside the handler of the event. -/
def collectRes (stream : BidirectionalStream Content) (res : TransactionRes Content) :
    BidirectionalStream Content :=
  match stream.responseCollector res.reqId with
  | none => stream
  | some queue =>
    { stream with responseCollector := stream.responseCollector.set res.reqId (queue.put res) }

def collectResPart (stream : BidirectionalStream Content) (part : TransactionResPart Content) :
    BidirectionalStream Content :=
  match stream.responsePartCollector part.reqId with
  | none => stream
  | some queue =>
    { stream with
      responsePartCollector := stream.responsePartCollector.set part.reqId (queue.put part) }

def onData (stream : BidirectionalStream Content) (message : TransactionServer Content) :
    BidirectionalStream Content :=
  if !stream.isOpen then stream
  else match message with
    | .res res => stream.collectRes res
    | .resPart part => stream.collectResPart part
    | .empty => stream

def setIterator (stream : BidirectionalStream Content) (requestId : RequestId)
    (iterator : ResponsePartIterator Content) : BidirectionalStream Content :=
  { stream with iterators := Function.update stream.iterators requestId (some iterator) }

def next (stream : BidirectionalStream Content) (requestId : RequestId)
    (iterator : ResponsePartIterator Content) : Option (BidirectionalStream Content) := do
  let queue ← stream.responsePartCollector requestId
  let (taken, queue) := queue.take
  let promise ← taken
  some ({ stream with
    responsePartCollector := stream.responsePartCollector.set requestId queue }.setIterator
      requestId { iterator with phase := .awaiting promise })

def receive (stream : BidirectionalStream Content) (requestId : RequestId)
    (iterator : ResponsePartIterator Content) (part : TransactionResPart Content) :
    Option (BidirectionalStream Content) :=
  match part.streamResPart with
  | none =>
    some (stream.setIterator requestId ⟨.idle, iterator.yielded ++ [part]⟩)
  | some .done => some (stream.setIterator requestId { iterator with phase := .ended })
  | some .continue =>
    next { stream with dispatched := stream.dispatched ++ [.streamReq requestId] } requestId
      iterator
  | some (.unrecognized value) =>
    some (stream.setIterator requestId
      { iterator with phase := .threw (.unknownStreamState (.unrecognized value)) })

def resume (stream : BidirectionalStream Content) (requestId : RequestId) :
    Option (BidirectionalStream Content) := do
  let iterator ← stream.iterators requestId
  let queue ← stream.responsePartCollector requestId
  match iterator.phase with
  | .awaiting promise =>
    let elem ← queue.value promise
    match elem.outcome with
    | .ok part => stream.receive requestId iterator part
    | .error error =>
      some (stream.setIterator requestId { iterator with phase := .threw error })
  | _ => none

def pull (stream : BidirectionalStream Content) (requestId : RequestId) :
    Option (BidirectionalStream Content) := do
  let iterator ← stream.iterators requestId
  match iterator.phase with
  | .idle => stream.next requestId iterator
  | .awaiting _ => none
  | _ => some stream

def abandon (stream : BidirectionalStream Content) (requestId : RequestId) :
    Option (BidirectionalStream Content) := do
  let iterator ← stream.iterators requestId
  match iterator.phase with
  | .idle => some (stream.setIterator requestId { iterator with phase := .abandoned })
  | _ => none

inductive Label (Content : Type) where
  | rpcExecute (requestId : RequestId)
  | rpcStream (requestId : RequestId)
  | pull (requestId : RequestId)
  | resume (requestId : RequestId)
  | abandon (requestId : RequestId)
  /-- The user closes the transaction. -/
  | close (error : Option CloseError)
  | dataEvent (message : TransactionServer Content)
  | errorEvent (error : CloseError)
  | endEvent

def unused (stream : BidirectionalStream Content) (requestId : RequestId) : Bool :=
  (stream.responseCollector requestId).isNone && (stream.responsePartCollector requestId).isNone

/-- `rpcExecute` and `rpcStream` throw on a closed stream. Nothing listens to `end` events. -/
def step (stream : BidirectionalStream Content) :
    Label Content → Option (BidirectionalStream Content)
  | .rpcExecute requestId =>
    if !stream.isOpen then some stream
    else if stream.unused requestId then stream.single requestId
    else none
  | .rpcStream requestId =>
    if !stream.isOpen then some stream
    else if stream.unused requestId then some (stream.stream requestId)
    else none
  | .pull requestId => stream.pull requestId
  | .resume requestId => stream.resume requestId
  | .abandon requestId => stream.abandon requestId
  | .close error => some (stream.close error)
  | .dataEvent message => some (stream.onData message)
  | .errorEvent error => some (stream.close (some error))
  | .endEvent => some stream

def system (Content : Type) :
    TransitionSystem (BidirectionalStream Content) (Label Content) where
  step := step

/-- The arrivals for one request: the parts with its id that came after the request and before
the first close. -/
structure Arrivals (Content : Type) where
  requested : Bool := false
  closed : Bool := false
  parts : List (TransactionResPart Content) := []

def Arrivals.observe (requestId : RequestId) (arrivals : Arrivals Content) :
    Label Content → Arrivals Content
  | .rpcStream other =>
    { arrivals with
      requested := arrivals.requested || (!arrivals.closed && decide (other = requestId)) }
  | .close _ | .errorEvent _ => { arrivals with closed := true }
  | .dataEvent (.resPart part) =>
    if arrivals.requested && !arrivals.closed && decide (part.reqId = requestId) then
      { arrivals with parts := arrivals.parts ++ [part] }
    else arrivals
  | _ => arrivals

def arrivals (requestId : RequestId) (labels : List (Label Content)) :
    List (TransactionResPart Content) :=
  (labels.foldl (Arrivals.observe requestId) {}).parts

end BidirectionalStream

namespace TransactionResPart

variable {Content : Type}

def isAnswer (part : TransactionResPart Content) : Bool :=
  part.streamResPart.isNone

def isContinue (part : TransactionResPart Content) : Bool :=
  part.streamResPart == some .continue

def isFinal (part : TransactionResPart Content) : Bool :=
  match part.streamResPart with
  | some .done | some (.unrecognized _) => true
  | _ => false

end TransactionResPart

namespace BidirectionalStream

variable {Content : Type}

/-- Where an iterator stands that has consumed the parts `consumed` and has yet to consume
`rest`. -/
inductive Standing (isOpen : Bool) (consumed rest : List (TransactionResPart Content)) :
    IteratorPhase → Prop where
  | idle (going : ∀ part ∈ consumed, part.isFinal = false) : Standing isOpen consumed rest .idle
  | abandoned (going : ∀ part ∈ consumed, part.isFinal = false) :
      Standing isOpen consumed rest .abandoned
  | awaiting (going : ∀ part ∈ consumed, part.isFinal = false) :
      Standing isOpen consumed rest (.awaiting consumed.length)
  | ended {before : List (TransactionResPart Content)} {last : TransactionResPart Content}
      (consumes : consumed = before ++ [last]) (going : ∀ part ∈ before, part.isFinal = false)
      (done : last.streamResPart = some .done) : Standing isOpen consumed rest .ended
  | unrecognized {before : List (TransactionResPart Content)}
      {last : TransactionResPart Content} {value : Int} (consumes : consumed = before ++ [last])
      (going : ∀ part ∈ before, part.isFinal = false)
      (signal : last.streamResPart = some (.unrecognized value)) :
      Standing isOpen consumed rest (.threw (.unknownStreamState (.unrecognized value)))
  | closed {error : Option CloseError} (going : ∀ part ∈ consumed, part.isFinal = false)
      (drained : rest = []) (closed : isOpen = false) :
      Standing isOpen consumed rest (.threw (error.elim .transactionClosed .ofError))

/-- A promise: of the n-th call of `single`, or the one that a generator got from `take`. -/
inductive Awaited where
  | single (call : Nat)
  | part (requestId : RequestId) (promise : Nat)
  deriving DecidableEq, Repr

def Awaits (stream : BidirectionalStream Content) : Awaited → Prop
  | .single call => call < stream.singles.length
  | .part requestId promise =>
    (stream.iterators requestId).map (·.phase) = some (.awaiting promise)

def settlement (stream : BidirectionalStream Content) : Awaited → Option (Except StreamError Unit)
  | .single call => do
      let single ← stream.singles[call]?
      let queue ← stream.responseCollector single.requestId
      let elem ← queue.value single.promise
      some (elem.outcome.map fun _ => ())
  | .part requestId promise => do
      let queue ← stream.responsePartCollector requestId
      let elem ← queue.value promise
      some (elem.outcome.map fun _ => ())

/-- The step to `after` closes the stream and rejects what was pending before it. -/
def Settles (stream after : BidirectionalStream Content) : Prop :=
  after.isOpen = false ∧ ∀ awaited, stream.Awaits awaited → stream.settlement awaited = none →
    ∃ error, after.settlement awaited = some (.error error)

/-- The last event of a stream of grpc-js: an error, or an end and nothing else. -/
inductive LastEvent where
  | error (reason : CloseError)
  | «end»
  deriving DecidableEq, Repr

def LastEvent.label : LastEvent → Label Content
  | .error reason => .errorEvent reason
  | .end => .endEvent

def LastEvent.isError : LastEvent → Bool
  | .error _ => true
  | .end => false

end BidirectionalStream

end TypeDBDriver.Nodejs
