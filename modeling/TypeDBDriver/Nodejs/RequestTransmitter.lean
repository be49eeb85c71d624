import TypeDBDriver.Nodejs.BidirectionalStream

/-! How the Node.js driver sends the requests of a transaction: it collects them in a buffer, which
a timer writes to the stream of gRPC as one message. -/

namespace TypeDBDriver.Nodejs

open Library

/-- A call on the stream of gRPC. A message of the client is the list of its requests. -/
inductive StreamCall (Request : Type) where
  | write (clientReq : List Request)
  | «end»
  deriving DecidableEq, Repr

namespace StreamCall

variable {Request : Type}

def isEnd : StreamCall Request → Bool
  | .write _ => false
  | .end => true

def batch : StreamCall Request → Option (List Request)
  | .write clientReq => some clientReq
  | .end => none

end StreamCall

def batches {Request : Type} (calls : List (StreamCall Request)) : List (List Request) :=
  calls.filterMap StreamCall.batch

/-- The messages that were written after the first call of `end`. -/
def writtenAfterEnd {Request : Type} (calls : List (StreamCall Request)) : List (List Request) :=
  batches (calls.dropWhile fun call => !call.isEnd)

structure BatchDispatcher (Request : Type) where
  /-- What was called on `_transactionStream`. -/
  calls : List (StreamCall Request) := []
  bufferedRequests : List Request := []
  isRunning : Bool := false
  /-- The delays of the timers that are pending. -/
  timers : List Nat := []
  deriving DecidableEq, Repr

namespace BatchDispatcher

variable {Request : Type}

def batchWindowSmallMillis : Nat := 1

def batchWindowLargeMillis : Nat := 3

def push (dispatcher : BatchDispatcher Request) (req : Request) : BatchDispatcher Request :=
  { dispatcher with bufferedRequests := dispatcher.bufferedRequests ++ [req] }

def sendNow (dispatcher : BatchDispatcher Request) : BatchDispatcher Request :=
  { dispatcher with
    calls := dispatcher.calls ++ [.write dispatcher.bufferedRequests]
    bufferedRequests := [] }

def setSchedule (dispatcher : BatchDispatcher Request) (first : Bool) : BatchDispatcher Request :=
  let wait := if first then batchWindowSmallMillis else batchWindowLargeMillis
  { dispatcher with timers := dispatcher.timers ++ [wait] }

def sendScheduledBatch (dispatcher : BatchDispatcher Request) : BatchDispatcher Request :=
  if dispatcher.isRunning then dispatcher
  else setSchedule { dispatcher with isRunning := true } true

def dispatch (dispatcher : BatchDispatcher Request) (req : Request) : BatchDispatcher Request :=
  (dispatcher.push req).sendScheduledBatch

def dispatchNow (dispatcher : BatchDispatcher Request) (req : Request) : BatchDispatcher Request :=
  (dispatcher.push req).sendNow

def close (dispatcher : BatchDispatcher Request) : BatchDispatcher Request :=
  { dispatcher with calls := dispatcher.calls ++ [.end] }

def onTimeout (dispatcher : BatchDispatcher Request) : BatchDispatcher Request :=
  if 0 < dispatcher.bufferedRequests.length then dispatcher.sendNow.setSchedule false
  else { dispatcher with isRunning := false }

def fire (dispatcher : BatchDispatcher Request) (timer : Nat) :
    Option (BatchDispatcher Request) :=
  if timer < dispatcher.timers.length then
    some { dispatcher with timers := dispatcher.timers.eraseIdx timer }.onTimeout
  else none

inductive Event (Request : Type) where
  | dispatch (req : Request)
  | dispatchNow (req : Request)
  /-- A pending timer, by its place among them. -/
  | fire (timer : Nat)
  | close
  deriving DecidableEq, Repr

def step (dispatcher : BatchDispatcher Request) :
    Event Request → Option (BatchDispatcher Request)
  | .dispatch req => some (dispatcher.dispatch req)
  | .dispatchNow req => some (dispatcher.dispatchNow req)
  | .fire timer => dispatcher.fire timer
  | .close => some dispatcher.close

def system (Request : Type) : TransitionSystem (BatchDispatcher Request) (Event Request) where
  step := step

def Event.dispatched : Event Request → Option Request
  | .dispatch req => some req
  | .dispatchNow req => some req
  | .fire _ | .close => none

def dispatched (events : List (Event Request)) : List Request :=
  events.filterMap Event.dispatched

def ended (dispatcher : BatchDispatcher Request) : Bool :=
  dispatcher.calls.any StreamCall.isEnd

end BatchDispatcher

structure DispatchedStream (Content : Type) where
  stream : BidirectionalStream Content := {}
  dispatcher : BatchDispatcher Dispatched := {}

namespace DispatchedStream

variable {Content : Type}

inductive Label (Content : Type) where
  /-- A step of the stream. Only `rpcExecute` has the parameter `batch`. -/
  | stream (label : BidirectionalStream.Label Content) (batch : Bool)
  /-- What `dispatcher()` returns is used. -/
  | dispatch (req : Dispatched)
  | dispatchNow (req : Dispatched)
  | fire (timer : Nat)

def send (label : BidirectionalStream.Label Content) (batch : Bool) :
    BatchDispatcher Dispatched → Dispatched → BatchDispatcher Dispatched :=
  match label with
  | .rpcExecute _ => if batch then BatchDispatcher.dispatch else BatchDispatcher.dispatchNow
  | _ => BatchDispatcher.dispatch

/-- The step is a call of `BidirectionalStream.close`, which closes the dispatcher. -/
def closes : BidirectionalStream.Label Content → Bool
  | .close _ | .errorEvent _ => true
  | _ => false

/-- The dispatcher after a step of its stream from `before` to `after`. -/
def transmit (before after : BidirectionalStream Content)
    (label : BidirectionalStream.Label Content) (batch : Bool)
    (dispatcher : BatchDispatcher Dispatched) : BatchDispatcher Dispatched :=
  let requests := after.dispatched.drop before.dispatched.length
  let dispatcher := requests.foldl (send label batch) dispatcher
  if closes label then dispatcher.close else dispatcher

def step (state : DispatchedStream Content) : Label Content → Option (DispatchedStream Content)
  | .stream label batch => do
      let after ← state.stream.step label
      some ⟨after, transmit state.stream after label batch state.dispatcher⟩
  | .dispatch req => some { state with dispatcher := state.dispatcher.dispatch req }
  | .dispatchNow req => some { state with dispatcher := state.dispatcher.dispatchNow req }
  | .fire timer => do
      let dispatcher ← state.dispatcher.fire timer
      some { state with dispatcher }

def system (Content : Type) :
    TransitionSystem (DispatchedStream Content) (Label Content) where
  step := step

/-- A step that writes nothing, unless the stream of gRPC has not ended: no timer fires while
requests are buffered, and `dispatchNow` is not called. -/
def Quiet (state : DispatchedStream Content) : Label Content → Prop
  | .fire _ => state.dispatcher.ended = true → state.dispatcher.bufferedRequests = []
  | .dispatchNow _ => state.dispatcher.ended = false
  | .stream _ _ | .dispatch _ => True

instance (state : DispatchedStream Content) : ∀ label, Decidable (state.Quiet label)
  | .fire _ => inferInstanceAs (Decidable (_ → _))
  | .dispatchNow _ => inferInstanceAs (Decidable (_ = _))
  | .stream _ _ | .dispatch _ => isTrue trivial

end DispatchedStream

end TypeDBDriver.Nodejs
