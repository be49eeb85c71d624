import TypeDBDriver.Library.Transition
import TypeDBDriver.Network.ResponseCollector
import TypeDBDriver.Transaction.TransactionStream

/-! One transaction as a system of threads: the user's calls, the dispatch loop, the
listen loop, the callback handler, and the gRPC stream between the driver and the server.
A step is what a thread does between two points where another thread could notice. -/

namespace TypeDBDriver

open Library
open Proto.Transaction (Server Client Req)

/-- What the transmitter takes from elsewhere: the calendar and message libraries, the
`Debug` texts, and whether the driver is built with the `sync` feature. -/
structure Environment where
  chrono : Chrono
  debug : DebugText
  encodedLen : Req → Nat
  sync : Bool

def Environment.basic : Environment where
  chrono := Chrono.documented
  debug := ⟨fun _ => "response", fun _ => "query response"⟩
  encodedLen _ := 16
  sync := false

/-- A callback is named by the number of the `on_close` call that passed it. -/
abbrev Callback := Nat

inductive CallPhase where
  /-- `is_open` was true; the request is not sent yet. -/
  | admitted
  /-- `is_open` was false; the error is not read yet. -/
  | refused
  | rejected (error : Error)
  /-- The request channel had lost its receiver. -/
  | unsent
  | sent

structure Call where
  request : UserRequest
  phase : CallPhase

inductive ForceClosePhase where
  | idle
  | storingError
  | sendingShutdown
  | finished
  deriving DecidableEq, Repr

structure TransactionRequestBuffer where
  reqs : List Req := []
  len : Nat := 0

inductive DispatchPhase where
  | polling
  | pollingCallbacks
  | pushing (callback : Callback)
  | draining
  | registering (request : Req) (sink : ResponseSink)
  | buffering (request : Req)
  | flushing
  | ended
  | panicked (cause : PanicCause)

inductive ListenPhase where
  | receiving
  | collecting (message : Server) (rest : Action Unit)
  | deadlocked (message : Server)
  | storingError (error : Error)
  | takingListeners (error : Option Error)
  | finishing (error : Option Error) (listeners : List ResponseSink)
  | takingCallbacks (error : Option Error)
  | calling (error : Option Error) (callbacks : List Callback)
  | awaiting (error : Option Error) (callback : Callback) (callbacks : List Callback)
  | signalling
  | ended
  | panicked (cause : PanicCause) (message : Option Server)
  | aborted

inductive Termination where
  | clean
  | failed (error : Error)

structure Transmitter.State where
  -- shared between the user and the loops
  isOpen : Bool := true
  error : Option Error := none
  requestQueue : List (TransactionRequest × Option ResponseSink) := []
  callbackQueue : List Callback := []
  shutdownSignals : Nat := 0
  -- the user
  calls : List Call := []
  consumers : Ticket → Consumer := fun _ => {}
  forceClosing : ForceClosePhase := .idle
  /-- `ServerConnection` still holds the shutdown sender. -/
  shutdownSender : Bool := true
  -- the collector
  lock : RwLock := {}
  collector : Collector := {}
  onClose : List Callback := []
  -- the loops
  dispatch : DispatchPhase := .polling
  buffer : TransactionRequestBuffer := {}
  listen : ListenPhase := .receiving
  -- the callback handler
  handlerAlive : Bool := true
  handlerQueue : List Callback := []
  invoked : List Callback := []
  -- the stream to and from the server
  requestSinkOpen : Bool := true
  inFlight : List Client := []
  delivered : List Req := []
  incoming : List Server := []
  termination : Option Termination := none
  -- history
  /-- The id that `into_proto` generated for a call. -/
  assigned : Ticket → Option RequestID := fun _ => none
  enqueued : List TransactionRequest := []
  /-- The continue signals that consumers passed, and whether the request was enqueued. -/
  passed : List (Ticket × Bool) := []
  sent : List Server := []
  collected : List Server := []
  /-- For each `on_close` call, whether the transaction was open when it returned. -/
  registrations : List Bool := []

namespace DispatchPhase

def isOver : DispatchPhase → Bool
  | .ended | .panicked _ => true
  | _ => false

end DispatchPhase

namespace ListenPhase

def isOver : ListenPhase → Bool
  | .ended | .panicked _ _ | .aborted => true
  | _ => false

def beforeClose : ListenPhase → Bool
  | .receiving | .collecting _ _ | .deadlocked _ | .panicked _ (some _) => true
  | _ => false

def isStuck : ListenPhase → Bool
  | .deadlocked _ | .panicked _ _ => true
  | _ => false

def inHand : ListenPhase → List Server
  | .collecting message _ | .deadlocked message | .panicked _ (some message) => [message]
  | _ => []

def stuckOn : ListenPhase → List Server
  | .deadlocked message | .panicked _ (some message) => [message]
  | _ => []

/-- `close` takes the collector by value, so it is gone before the last signal is sent. -/
def holdsCollector : ListenPhase → Bool
  | .signalling | .ended | .panicked _ _ | .aborted => false
  | _ => true

end ListenPhase

namespace Transmitter.State

def accepting (state : State) : Bool := !state.dispatch.isOver

def senderAlive (state : State) (ticket : Ticket) : Bool :=
  state.requestQueue.any (fun entry => entry.2.any (·.ticket == ticket)) ||
  (match state.dispatch with
    | .registering _ sink => sink.ticket == ticket
    | _ => false) ||
  ((state.listen.holdsCollector || state.accepting) &&
    state.collector.callbacks.entries.any (·.2.ticket == ticket)) ||
  (match state.listen with
    | .finishing _ listeners => listeners.any (·.ticket == ticket)
    | _ => false)

def mentions (state : State) (requestId : RequestID) : Bool :=
  (List.range state.calls.length).any (fun ticket => state.assigned ticket == some requestId) ||
  state.buffer.reqs.any (·.reqId == requestId.bytes) ||
  state.inFlight.any (fun client => client.reqs.any (·.reqId == requestId.bytes)) ||
  state.delivered.any (·.reqId == requestId.bytes) ||
  state.sent.any (·.requestId == some requestId)

/-- The server knows an id from a request, or makes up one that no call has. -/
def nameable (state : State) (requestId : RequestID) : Bool :=
  state.delivered.any (·.reqId == requestId.bytes) ||
  !(List.range state.calls.length).any fun ticket => state.assigned ticket == some requestId

end Transmitter.State

namespace Transmitter

/-- `single` and `stream` up to the load of `is_open`. -/
def call (state : State) (request : UserRequest) : State :=
  { state with
    calls := state.calls ++ [⟨request, if state.isOpen then .admitted else .refused⟩] }

def proceed (env : Environment) (state : State) (ticket : Ticket) :
    Option State :=
  match state.calls[ticket]? with
  | some ⟨request, .admitted⟩ =>
    if state.accepting then
      some { state with
        calls := state.calls.set ticket ⟨request, .sent⟩
        requestQueue :=
          state.requestQueue ++ [(request.toRequest, some (request.sink env.sync ticket))]
        enqueued := state.enqueued ++ [request.toRequest] }
    else some { state with calls := state.calls.set ticket ⟨request, .unsent⟩ }
  | some ⟨request, .refused⟩ =>
    some { state with
      calls := state.calls.set ticket
        ⟨request, .rejected (state.error.getD transactionIsClosed)⟩ }
  | _ => none

def pollResponse (env : Environment) (state : State) (ticket : Ticket)
    (response : StreamResponse TransactionResponse) : State :=
  let consumer := { state.consumers ticket with cursor := (state.consumers ticket).cursor + 1 }
  let processed := processResponse state.accepting response
  { state with
    consumers := Function.update state.consumers ticket
      (processed.1.elim consumer (consumer.receive env.debug))
    requestQueue := state.requestQueue ++ processed.2.toList.map fun request => (request, none)
    enqueued := state.enqueued ++ processed.2.toList
    passed := match response with
      | .continue _ => state.passed ++ [(ticket, state.accepting)]
      | .result _ => state.passed }

def poll (env : Environment) (state : State) (ticket : Ticket) :
    Option State :=
  match state.calls[ticket]? with
  | some ⟨.query _, .sent⟩ =>
    let consumer := state.consumers ticket
    match consumer.phase, consumer.batch with
    | .resolved _, _ => none
    | _, answer :: rest =>
      some { state with
        consumers := Function.update state.consumers ticket (consumer.yield answer rest) }
    | _, [] =>
      if consumer.ended then none
      else match (state.collector.receivers.streams ticket)[consumer.cursor]? with
        | some response => some (pollResponse env state ticket response)
        | none =>
          if state.senderAlive ticket then none
          else some { state with
            consumers := Function.update state.consumers ticket
              (consumer.finish env.debug) }
  | _ => none

/-- What the promise of `commit` or `rollback` resolves to, if it does. -/
def promise (state : State) (ticket : Ticket) : Option (Result Unit) :=
  match state.calls[ticket]? with
  | some ⟨_, .rejected error⟩ => some (.error error)
  | some ⟨_, .unsent⟩ => some (.error transactionIsClosed)
  | some ⟨_, .sent⟩ =>
    match state.collector.receivers.oneShots ticket with
    | some result => some (result.map fun _ => ())
    | none =>
      if state.senderAlive ticket then none else some (.error (.internal .recvError))
  | _ => none

def onClose (state : State) : State :=
  { state with
    callbackQueue :=
      if state.accepting then state.callbackQueue ++ [state.registrations.length]
      else state.callbackQueue
    registrations := state.registrations ++ [state.isOpen] }

def signalShutdown (state : State) : State :=
  { state with
    shutdownSignals :=
      if state.accepting then state.shutdownSignals + 1 else state.shutdownSignals }

/-- `force_close` up to its exchange of the flag, which only one caller wins. -/
def forceClose (state : State) : State :=
  if state.isOpen then { state with isOpen := false, forceClosing := .storingError } else state

def forceCloseStep (state : State) : Option State :=
  match state.forceClosing with
  | .storingError =>
    some { state with error := some transactionIsClosed, forceClosing := .sendingShutdown }
  | .sendingShutdown => some { signalShutdown state with forceClosing := .finished }
  | _ => none

def connectionForceClose (state : State) : Option State :=
  if state.shutdownSender then some { signalShutdown state with shutdownSender := false }
  else none

def maxGrpcMessageLen : Nat := 1000000

def leaveDispatch (state : State) (phase : DispatchPhase) : State :=
  { state with
    dispatch := phase
    buffer := {}
    requestQueue := []
    callbackQueue := []
    shutdownSignals := 0 }

def forward (state : State) : State :=
  { state with inFlight := state.inFlight ++ [⟨state.buffer.reqs⟩], buffer := {} }

def sendBuffer (state : State) (next : State → State) :
    State :=
  if state.requestSinkOpen then next (forward state)
  else leaveDispatch state (.panicked .requestSinkClosed)

def pushRequest (env : Environment) (request : Req) (state : State) :
    State :=
  { state with
    buffer := ⟨state.buffer.reqs ++ [request], state.buffer.len + env.encodedLen request⟩
    dispatch := .draining }

/-- One request is taken off the queue and translated. `fresh` is what
`RequestID::generate` returns: random, so it occurs nowhere so far. -/
def takeRequest (state : State) (fresh : RequestID) : Option State :=
  match state.requestQueue with
  | [] => some { state with dispatch := .flushing }
  | (request, some sink) :: rest =>
    if state.mentions fresh then none
    else some { state with
      requestQueue := rest
      assigned := Function.update state.assigned sink.ticket (some fresh)
      dispatch := .registering (request.intoProto fresh) sink }
  | (request, none) :: rest =>
    some { state with requestQueue := rest, dispatch := .buffering (request.intoProto fresh) }

def dispatchStep (env : Environment) (state : State) (fresh : RequestID) :
    Option State :=
  match state.dispatch with
  | .polling =>
    if state.shutdownSignals = 0 then some { state with dispatch := .pollingCallbacks }
    else if state.buffer.reqs.isEmpty then some (leaveDispatch state .ended)
    else some (sendBuffer state fun state => leaveDispatch state .ended)
  | .pollingCallbacks =>
    match state.callbackQueue with
    | [] => some { state with dispatch := .draining }
    | callback :: rest =>
      some { state with callbackQueue := rest, dispatch := .pushing callback }
  | .pushing callback =>
    some { state with onClose := state.onClose ++ [callback], dispatch := .draining }
  | .draining => takeRequest state fresh
  | .registering request sink =>
    if !state.lock.grants .write then none
    else if state.lock.poisoned then some (leaveDispatch state (.panicked .poisonedLock))
    else some { state with
      collector := state.collector.register ⟨request.reqId⟩ sink
      dispatch := .buffering request }
  | .buffering request =>
    if state.buffer.len + env.encodedLen request > maxGrpcMessageLen then
      some (sendBuffer state (pushRequest env request))
    else some (pushRequest env request state)
  | .flushing =>
    if state.buffer.reqs.isEmpty then some { state with dispatch := .polling }
    else some (sendBuffer state fun state => { state with dispatch := .polling })
  | .ended | .panicked _ => none

def endSection (state : State) (message : Server) :
    Progress Collector PanicCause Unit → State
  | .finished _ lock memory =>
    { state with
      lock := lock
      collector := memory
      listen := .receiving
      collected := state.collected ++ [message] }
  | .paused rest lock memory =>
    { state with lock := lock, collector := memory, listen := .collecting message rest }
  | .panicked cause lock memory =>
    { state with lock := lock, collector := memory, listen := .panicked cause (some message) }
  | .deadlocked lock memory =>
    { state with lock := lock, collector := memory, listen := .deadlocked message }

def collectSection (state : State) (message : Server) (program : Action Unit) :
    Option State :=
  (program.resume .poisonedLock state.lock state.collector).map (endSection state message)

def receive (env : Environment) (state : State) : Option State :=
  match state.incoming with
  | message :: rest =>
    collectSection { state with incoming := rest } message
      (ResponseCollector.collect env.chrono message)
  | [] =>
    match state.termination with
    | none => none
    | some (.failed error) =>
      some { state with isOpen := false, listen := .storingError error }
    | some .clean => some { state with isOpen := false, listen := .takingListeners none }

def takeListeners (state : State) (error : Option Error) : Option State :=
  if !state.lock.grants .write then none
  else if state.lock.poisoned then
    some { state with listen := .panicked .poisonedLock none }
  else some { state with
    collector := { state.collector with callbacks := ∅ }
    listen := .finishing error (state.collector.callbacks.entries.map (·.2)) }

/-- The loop over the drained map, in whatever order the map yields its entries. -/
def finishListener (state : State) (error : Option Error)
    (listeners : List ResponseSink) (choice : Nat) : Option State :=
  match listeners, listeners[choice]? with
  | [], _ => some { state with listen := .takingCallbacks error }
  | _, none => none
  | _, some listener =>
    some { state with
      collector := state.collector.deliver (match error with
        | none => listener.finish (.ok .close)
        | some error => listener.error error)
      listen := .finishing error (listeners.eraseIdx choice) }

def listenStep (env : Environment) (state : State) (choice : Nat) :
    Option State :=
  match state.listen with
  | .receiving => receive env state
  | .collecting message rest => collectSection state message rest
  | .storingError error =>
    some { state with error := some error, listen := .takingListeners (some error) }
  | .takingListeners error => takeListeners state error
  | .finishing error listeners => finishListener state error listeners choice
  | .takingCallbacks error =>
    some { state with onClose := [], listen := .calling error state.onClose }
  | .calling _ [] => some { state with listen := .signalling }
  | .calling error (callback :: rest) =>
    if state.handlerAlive then
      some { state with
        handlerQueue := state.handlerQueue ++ [callback]
        listen := .awaiting error callback rest }
    else some { state with listen := .panicked .callbackHandlerGone none }
  | .awaiting error callback rest =>
    if callback ∈ state.handlerQueue then none
    else some { state with listen := .calling error rest }
  | .signalling => some { signalShutdown state with listen := .ended }
  | .deadlocked _ | .ended | .panicked _ _ | .aborted => none

def shutdownRuntime (state : State) : Option State :=
  match state.listen with
  | .receiving | .awaiting _ _ _ => some { state with listen := .aborted }
  | _ => none

def runCallback (state : State) (panics : Bool) : Option State :=
  match state.handlerQueue with
  | [] => none
  | callback :: rest =>
    some { state with
      invoked := state.invoked ++ [callback]
      handlerAlive := state.handlerAlive && !panics
      handlerQueue := if panics then [] else rest }

def loseHandler (state : State) : State :=
  { state with handlerAlive := false, handlerQueue := [] }

def deliver (state : State) : Option State :=
  match state.inFlight with
  | [] => none
  | client :: rest =>
    some { state with inFlight := rest, delivered := state.delivered ++ client.reqs }

/-- The server sends a message. It cannot guess the id of a request it has not seen. -/
def serverSend (state : State) (message : Server) : Option State :=
  if state.termination.isSome || message.requestId.any (fun id => !state.nameable id) then none
  else some { state with
    incoming := state.incoming ++ [message], sent := state.sent ++ [message] }

/-- The stream ends, losing all but the first `arriving` messages under way. -/
def terminate (state : State) (termination : Termination) (arriving : Nat) :
    Option State :=
  if state.termination.isSome then none
  else some { state with
    termination := some termination, incoming := state.incoming.take arriving }

inductive Label where
  | call (request : UserRequest)
  | proceed (ticket : Ticket)
  | poll (ticket : Ticket)
  | onClose
  | forceClose
  | forceCloseStep
  | connectionForceClose
  | shutdownRuntime
  | dispatch (fresh : RequestID)
  | listen (choice : Nat)
  | runCallback (panics : Bool)
  | loseHandler
  | deliver
  | serverSend (message : Server)
  | endStream
  | failStream (error : Error) (arriving : Nat)
  | closeRequestSink

def step (env : Environment) (state : State) : Label → Option State
  | .call request => some (call state request)
  | .proceed ticket => proceed env state ticket
  | .poll ticket => poll env state ticket
  | .onClose => some (onClose state)
  | .forceClose => some (forceClose state)
  | .forceCloseStep => forceCloseStep state
  | .connectionForceClose => connectionForceClose state
  | .shutdownRuntime => shutdownRuntime state
  | .dispatch fresh => dispatchStep env state fresh
  | .listen choice => listenStep env state choice
  | .runCallback panics => runCallback state panics
  | .loseHandler => some (loseHandler state)
  | .deliver => deliver state
  | .serverSend message => serverSend state message
  | .endStream => terminate state .clean state.incoming.length
  | .failStream error arriving => terminate state (.failed error) arriving
  | .closeRequestSink => some { state with requestSinkOpen := false }

def currentMessage (state : State) : Option Server :=
  match state.listen with
  | .receiving => state.incoming.head?
  | .collecting message _ => some message
  | _ => none

def system (env : Environment) : TransitionSystem State Label where
  step := step env

def requestRun (ticket : Ticket) (request : UserRequest) (requestId : RequestID) : List Label :=
  [.call request, .proceed ticket] ++ List.replicate 7 (.dispatch requestId) ++ [.deliver]

def commitRun : List Label :=
  requestRun 0 .commit ⟨[7]⟩ ++
    [.serverSend ⟨some (.res ⟨[7], some .commitRes⟩)⟩, .listen 0, .listen 0]

end Transmitter

end TypeDBDriver
