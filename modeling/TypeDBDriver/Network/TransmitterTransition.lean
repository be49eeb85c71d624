import TypeDBDriver.Network.ResponseCollectorProperties
import TypeDBDriver.Network.TransactionTransmitter

/-! Everything a step of the transmitter can do. `Transition` lists the cases with their
guards, and one inversion theorem connects it with the step function, so that no later
proof looks inside that function. -/

namespace TypeDBDriver

open Library
open Proto.Transaction (Server Client Req Res)
open ResponseCollector (Begins Completes Resumable)

/-- The dispatcher takes a request from the queue and assigns a fresh id to its caller. -/
abbrev Transmitter.State.take (state : Transmitter.State) (request : TransactionRequest)
    (sink : ResponseSink) (rest : List (TransactionRequest × Option ResponseSink))
    (fresh : RequestID) : Transmitter.State :=
  { state with
    requestQueue := rest
    assigned := Function.update state.assigned sink.ticket (some fresh)
    dispatch := .registering (request.intoProto fresh) sink }

namespace Transmitter

/-- The listener holds no guard between two sections, and what it has left to do after a
first section is known. -/
structure Locking (state : State) : Prop where
  free : state.listen.isStuck = false → state.lock = {}
  resumable : ∀ message rest, state.listen = .collecting message rest → Resumable message rest
  registered : ∀ res rest, state.listen = .collecting ⟨some (.res res)⟩ rest →
    ∃ sink, state.collector.callbacks.lookup ⟨res.reqId⟩ = some sink

inductive Transition (env : Environment) (state : State) :
    Label → State → Prop where
  -- the user
  | called (request : UserRequest) : Transition env state (.call request) (call state request)
  | sent {ticket : Ticket} {request : UserRequest}
      (admitted : state.calls[ticket]? = some ⟨request, .admitted⟩)
      (accepting : state.accepting = true) :
      Transition env state (.proceed ticket) { state with
        calls := state.calls.set ticket ⟨request, .sent⟩
        requestQueue :=
          state.requestQueue ++ [(request.toRequest, some (request.sink env.sync ticket))]
        enqueued := state.enqueued ++ [request.toRequest] }
  | unsent {ticket : Ticket} {request : UserRequest}
      (admitted : state.calls[ticket]? = some ⟨request, .admitted⟩) :
      Transition env state (.proceed ticket)
        { state with calls := state.calls.set ticket ⟨request, .unsent⟩ }
  | rejected {ticket : Ticket} {request : UserRequest} {error : Error}
      (refused : state.calls[ticket]? = some ⟨request, .refused⟩) :
      Transition env state (.proceed ticket)
        { state with calls := state.calls.set ticket ⟨request, .rejected error⟩ }
  | yielded {ticket : Ticket} {query : QueryRequest} {answer : Result Answer}
      {rest : List (Result Answer)} (called : state.calls[ticket]? = some ⟨.query query, .sent⟩)
      (unresolved : ∀ result, (state.consumers ticket).phase ≠ .resolved result)
      (batch : (state.consumers ticket).batch = answer :: rest) :
      Transition env state (.poll ticket) { state with
        consumers := Function.update state.consumers ticket
          ((state.consumers ticket).yield answer rest) }
  | polled {ticket : Ticket} {query : QueryRequest} {response : StreamResponse TransactionResponse}
      (called : state.calls[ticket]? = some ⟨.query query, .sent⟩)
      (unresolved : ∀ result, (state.consumers ticket).phase ≠ .resolved result)
      (batch : (state.consumers ticket).batch = [])
      (running : (state.consumers ticket).ended = false)
      (next : (state.collector.receivers.streams ticket)[(state.consumers ticket).cursor]? =
        some response) :
      Transition env state (.poll ticket) (pollResponse env state ticket response)
  | exhausted {ticket : Ticket} {query : QueryRequest}
      (called : state.calls[ticket]? = some ⟨.query query, .sent⟩)
      (unresolved : ∀ result, (state.consumers ticket).phase ≠ .resolved result)
      (batch : (state.consumers ticket).batch = [])
      (drained : (state.collector.receivers.streams ticket)[(state.consumers ticket).cursor]? =
        none)
      (gone : state.senderAlive ticket = false) :
      Transition env state (.poll ticket) { state with
        consumers := Function.update state.consumers ticket
          ((state.consumers ticket).finish env.debug) }
  | onClose : Transition env state .onClose (onClose state)
  | forceClosed (isOpen : state.isOpen = true) :
      Transition env state .forceClose
        { state with isOpen := false, forceClosing := .storingError }
  | alreadyClosed (isOpen : state.isOpen = false) : Transition env state .forceClose state
  | forceCloseError :
      Transition env state .forceCloseStep
        { state with error := some transactionIsClosed, forceClosing := .sendingShutdown }
  | forceCloseSignal :
      Transition env state .forceCloseStep { signalShutdown state with forceClosing := .finished }
  | connectionForceClosed :
      Transition env state .connectionForceClose
        { signalShutdown state with shutdownSender := false }
  -- the dispatch loop
  | noSignal {fresh : RequestID} (phase : state.dispatch = .polling) :
      Transition env state (.dispatch fresh) { state with dispatch := .pollingCallbacks }
  | stopped {fresh : RequestID} (phase : state.dispatch = .polling) :
      Transition env state (.dispatch fresh) (leaveDispatch state .ended)
  | stoppedForwarding {fresh : RequestID} (phase : state.dispatch = .polling) :
      Transition env state (.dispatch fresh) (leaveDispatch (forward state) .ended)
  | dispatchPanicked {fresh : RequestID} {cause : PanicCause} (running : state.accepting = true)
      (reason : state.lock.poisoned = true ∨
        ∀ request sink, state.dispatch ≠ .registering request sink) :
      Transition env state (.dispatch fresh) (leaveDispatch state (.panicked cause))
  | noCallback {fresh : RequestID} (phase : state.dispatch = .pollingCallbacks) :
      Transition env state (.dispatch fresh) { state with dispatch := .draining }
  | callbackTaken {fresh : RequestID} {callback : Callback} {rest : List Callback}
      (phase : state.dispatch = .pollingCallbacks)
      (queue : state.callbackQueue = callback :: rest) :
      Transition env state (.dispatch fresh)
        { state with callbackQueue := rest, dispatch := .pushing callback }
  | callbackPushed {fresh : RequestID} {callback : Callback}
      (phase : state.dispatch = .pushing callback) :
      Transition env state (.dispatch fresh)
        { state with onClose := state.onClose ++ [callback], dispatch := .draining }
  | drained {fresh : RequestID} (phase : state.dispatch = .draining) :
      Transition env state (.dispatch fresh) { state with dispatch := .flushing }
  | requestTaken {fresh : RequestID} {request : TransactionRequest} {sink : ResponseSink}
      {rest : List (TransactionRequest × Option ResponseSink)}
      (phase : state.dispatch = .draining)
      (queue : state.requestQueue = (request, some sink) :: rest)
      (new : state.mentions fresh = false) :
      Transition env state (.dispatch fresh) { state with
        requestQueue := rest
        assigned := Function.update state.assigned sink.ticket (some fresh)
        dispatch := .registering (request.intoProto fresh) sink }
  | streamTaken {fresh : RequestID} {request : TransactionRequest}
      {rest : List (TransactionRequest × Option ResponseSink)}
      (phase : state.dispatch = .draining)
      (queue : state.requestQueue = (request, none) :: rest) :
      Transition env state (.dispatch fresh)
        { state with requestQueue := rest, dispatch := .buffering (request.intoProto fresh) }
  | registered {fresh : RequestID} {request : Req} {sink : ResponseSink}
      (phase : state.dispatch = .registering request sink)
      (granted : state.lock.grants .write = true) :
      Transition env state (.dispatch fresh) { state with
        collector := state.collector.register ⟨request.reqId⟩ sink
        dispatch := .buffering request }
  | buffered {fresh : RequestID} {request : Req} (phase : state.dispatch = .buffering request) :
      Transition env state (.dispatch fresh) (pushRequest env request state)
  | bufferedForwarding {fresh : RequestID} {request : Req}
      (phase : state.dispatch = .buffering request) :
      Transition env state (.dispatch fresh) (pushRequest env request (forward state))
  | flushed {fresh : RequestID} (phase : state.dispatch = .flushing) :
      Transition env state (.dispatch fresh) { state with dispatch := .polling }
  | flushedForwarding {fresh : RequestID} (phase : state.dispatch = .flushing) :
      Transition env state (.dispatch fresh) { forward state with dispatch := .polling }
  -- the listen loop
  | begins {choice : Nat} {message : Server} {rest : List Server}
      {progress : Progress Collector PanicCause Unit} (phase : state.listen = .receiving)
      (next : state.incoming = message :: rest)
      (collects : Begins env.chrono state.collector message progress) :
      Transition env state (.listen choice)
        (endSection { state with incoming := rest } message progress)
  | completes {choice : Nat} {message : Server} {rest : Action Unit}
      {progress : Progress Collector PanicCause Unit}
      (phase : state.listen = .collecting message rest)
      (collects : Completes state.collector message progress) :
      Transition env state (.listen choice) (endSection state message progress)
  | closing {choice : Nat} (phase : state.listen = .receiving) :
      Transition env state (.listen choice)
        { state with isOpen := false, listen := .takingListeners none }
  | closingWithError {choice : Nat} {error : Error} (phase : state.listen = .receiving) :
      Transition env state (.listen choice)
        { state with isOpen := false, listen := .storingError error }
  | errorStored {choice : Nat} {error : Error} (phase : state.listen = .storingError error) :
      Transition env state (.listen choice)
        { state with error := some error, listen := .takingListeners (some error) }
  | listenersTaken {choice : Nat} {error : Option Error}
      (phase : state.listen = .takingListeners error) :
      Transition env state (.listen choice) { state with
        collector := { state.collector with callbacks := ∅ }
        listen := .finishing error (state.collector.callbacks.entries.map (·.2)) }
  | listenersDone {choice : Nat} {error : Option Error}
      (phase : state.listen = .finishing error []) :
      Transition env state (.listen choice) { state with listen := .takingCallbacks error }
  | listenerFinished {choice : Nat} {error : Option Error} {listeners : List ResponseSink}
      {listener : ResponseSink} (phase : state.listen = .finishing error listeners)
      (chosen : listeners[choice]? = some listener) :
      Transition env state (.listen choice) { state with
        collector := state.collector.deliver
          (listener.settle (error.elim (.ok .close) .error))
        listen := .finishing error (listeners.eraseIdx choice) }
  | callbacksTaken {choice : Nat} {error : Option Error}
      (phase : state.listen = .takingCallbacks error) :
      Transition env state (.listen choice)
        { state with onClose := [], listen := .calling error state.onClose }
  | callbacksDone {choice : Nat} {error : Option Error}
      (phase : state.listen = .calling error []) :
      Transition env state (.listen choice) { state with listen := .signalling }
  | callbackSent {choice : Nat} {error : Option Error} {callback : Callback}
      {rest : List Callback} (phase : state.listen = .calling error (callback :: rest))
      (alive : state.handlerAlive = true) :
      Transition env state (.listen choice) { state with
        handlerQueue := state.handlerQueue ++ [callback]
        listen := .awaiting error callback rest }
  | handlerGone {choice : Nat} {error : Option Error} {callback : Callback}
      {rest : List Callback} (phase : state.listen = .calling error (callback :: rest))
      (gone : state.handlerAlive = false) :
      Transition env state (.listen choice)
        { state with listen := .panicked .callbackHandlerGone none }
  | callbackAnswered {choice : Nat} {error : Option Error} {callback : Callback}
      {rest : List Callback} (phase : state.listen = .awaiting error callback rest)
      (answered : callback ∉ state.handlerQueue) :
      Transition env state (.listen choice) { state with listen := .calling error rest }
  | signalled {choice : Nat} (phase : state.listen = .signalling) :
      Transition env state (.listen choice) { signalShutdown state with listen := .ended }
  | aborted (phase : state.listen = .receiving ∨
        ∃ error callback rest, state.listen = .awaiting error callback rest) :
      Transition env state .shutdownRuntime { state with listen := .aborted }
  -- the callback handler
  | callbackRun {panics : Bool} {callback : Callback} {rest : List Callback}
      (queue : state.handlerQueue = callback :: rest) :
      Transition env state (.runCallback panics) { state with
        invoked := state.invoked ++ [callback]
        handlerAlive := state.handlerAlive && !panics
        handlerQueue := if panics then [] else rest }
  | handlerLost :
      Transition env state .loseHandler
        { state with handlerAlive := false, handlerQueue := [] }
  -- the stream
  | delivered {client : Client} {rest : List Client} (next : state.inFlight = client :: rest) :
      Transition env state .deliver
        { state with inFlight := rest, delivered := state.delivered ++ client.reqs }
  | serverSent {message : Server}
      (nameable : ∀ requestId, message.requestId = some requestId →
        state.nameable requestId = true) (running : state.termination = none) :
      Transition env state (.serverSend message)
        { state with incoming := state.incoming ++ [message], sent := state.sent ++ [message] }
  | ended : Transition env state .endStream { state with
        termination := some .clean, incoming := state.incoming.take state.incoming.length }
  | failed {error : Error} {arriving : Nat} :
      Transition env state (.failStream error arriving) { state with
        termination := some (.failed error), incoming := state.incoming.take arriving }
  | requestSinkClosed :
      Transition env state .closeRequestSink { state with requestSinkOpen := false }

section Inversion

variable {env : Environment} {state next : State} {ticket : Ticket}

theorem proceed_transition (took : proceed env state ticket = some next) :
    Transition env state (.proceed ticket) next := by
  unfold proceed at took
  split at took
  case h_1 request admitted =>
    split at took
    case isTrue accepting =>
      cases took
      exact .sent admitted accepting
    case isFalse =>
      cases took
      exact .unsent admitted
  case h_2 request refused =>
    cases took
    exact .rejected refused
  case h_3 => cases took

theorem poll_transition (took : poll env state ticket = some next) :
    Transition env state (.poll ticket) next := by
  unfold poll at took
  split at took
  case h_2 => cases took
  case h_1 query called =>
    dsimp only at took
    split at took
    case h_1 => cases took
    case h_2 answer rest batch unresolved =>
      cases took
      exact .yielded called unresolved batch
    case h_3 batch unresolved =>
      split at took
      case isTrue => cases took
      case isFalse running =>
        have running := Bool.eq_false_iff.mpr running
        split at took
        case h_1 response next =>
          cases took
          exact .polled called unresolved batch running next
        case h_2 drained =>
          split at took
          case isTrue => cases took
          case isFalse gone =>
            cases took
            exact .exhausted called unresolved batch drained
              (Bool.eq_false_iff.mpr gone)

theorem forceClose_transition : Transition env state .forceClose (forceClose state) := by
  unfold forceClose
  split
  case isTrue isOpen => exact .forceClosed isOpen
  case isFalse isOpen => exact .alreadyClosed (Bool.eq_false_iff.mpr isOpen)

theorem forceCloseStep_transition (took : forceCloseStep state = some next) :
    Transition env state .forceCloseStep next := by
  unfold forceCloseStep at took
  split at took
  case h_1 =>
    cases took
    exact .forceCloseError
  case h_2 =>
    cases took
    exact .forceCloseSignal
  case h_3 => cases took

variable {fresh : RequestID}

theorem sendBuffer_transition {phase : State → State} (running : state.accepting = true)
    (unregistering : ∀ request sink, state.dispatch ≠ .registering request sink)
    (forwarded : Transition env state (.dispatch fresh) (phase (forward state))) :
    Transition env state (.dispatch fresh) (sendBuffer state phase) := by
  unfold sendBuffer
  split
  case isTrue => exact forwarded
  case isFalse => exact .dispatchPanicked running (.inr unregistering)

theorem takeRequest_transition (phase : state.dispatch = .draining)
    (took : takeRequest state fresh = some next) : Transition env state (.dispatch fresh) next := by
  unfold takeRequest at took
  split at took
  case h_1 =>
    cases took
    exact .drained phase
  case h_2 request sink rest queue =>
    split at took
    case isTrue => cases took
    case isFalse new =>
      cases took
      exact .requestTaken phase queue (Bool.eq_false_iff.mpr new)
  case h_3 request rest queue =>
    cases took
    exact .streamTaken phase queue

theorem accepting_of_dispatching {dispatch : DispatchPhase} (phase : state.dispatch = dispatch)
    (going : dispatch.isOver = false) : state.accepting = true := by
  rw [State.accepting, phase, going]
  rfl

theorem dispatchStep_transition (took : dispatchStep env state fresh = some next) :
    Transition env state (.dispatch fresh) next := by
  cases phase : state.dispatch with
  | polling =>
    have running := accepting_of_dispatching phase rfl
    simp only [dispatchStep, phase] at took
    split at took
    case isTrue =>
      cases took
      exact .noSignal phase
    case isFalse =>
      split at took
      case isTrue =>
        cases took
        exact .stopped phase
      case isFalse =>
        cases took
        exact sendBuffer_transition running (by simp [phase]) (.stoppedForwarding phase)
  | pollingCallbacks =>
    simp only [dispatchStep, phase] at took
    split at took
    case h_1 =>
      cases took
      exact .noCallback phase
    case h_2 callback rest queue =>
      cases took
      exact .callbackTaken phase queue
  | pushing callback =>
    simp only [dispatchStep, phase] at took
    cases took
    exact .callbackPushed phase
  | draining =>
    simp only [dispatchStep, phase] at took
    exact takeRequest_transition phase took
  | registering request sink =>
    have running := accepting_of_dispatching phase rfl
    simp only [dispatchStep, phase] at took
    split at took
    case isTrue => cases took
    case isFalse granted =>
      split at took
      case isTrue poisoned =>
        cases took
        exact .dispatchPanicked running (.inl poisoned)
      case isFalse =>
        cases took
        exact .registered phase (by simpa using granted)
  | buffering request =>
    have running := accepting_of_dispatching phase rfl
    simp only [dispatchStep, phase] at took
    split at took
    case isTrue =>
      cases took
      exact sendBuffer_transition running (by simp [phase]) (.bufferedForwarding phase)
    case isFalse =>
      cases took
      exact .buffered phase
  | flushing =>
    have running := accepting_of_dispatching phase rfl
    simp only [dispatchStep, phase] at took
    split at took
    case isTrue =>
      cases took
      exact .flushed phase
    case isFalse =>
      cases took
      exact sendBuffer_transition running (by simp [phase]) (.flushedForwarding phase)
  | ended | panicked => simp only [dispatchStep, phase, reduceCtorEq] at took

variable {choice : Nat}

theorem receive_transition (locking : Locking state) (phase : state.listen = .receiving)
    (took : receive env state = some next) : Transition env state (.listen choice) next := by
  have free : state.lock = {} := locking.free (by simp [phase, ListenPhase.isStuck])
  unfold receive at took
  split at took
  case h_1 message rest incoming =>
    obtain ⟨progress, ran, begins⟩ :=
      ResponseCollector.collect_begins env.chrono state.collector message
    simp only [collectSection, free, ran, Option.map_some] at took
    cases took
    exact .begins phase incoming begins
  case h_2 =>
    split at took
    case h_1 => cases took
    case h_2 error =>
      cases took
      exact .closingWithError phase
    case h_3 =>
      cases took
      exact .closing phase

theorem finishListener_transition {error : Option Error} {listeners : List ResponseSink}
    (phase : state.listen = .finishing error listeners)
    (took : finishListener state error listeners choice = some next) :
    Transition env state (.listen choice) next := by
  unfold finishListener at took
  split at took
  case h_1 =>
    cases took
    exact .listenersDone phase
  case h_2 => cases took
  case h_3 listener _ chosen =>
    cases took
    have move : Transition env state (.listen choice) _ := .listenerFinished phase chosen
    cases error with
    | none => exact move
    | some error => exact move

theorem listenStep_transition (locking : Locking state)
    (took : listenStep env state choice = some next) :
    Transition env state (.listen choice) next := by
  cases phase : state.listen with
  | receiving =>
    simp only [listenStep, phase] at took
    exact receive_transition locking phase took
  | collecting message rest =>
    have free : state.lock = {} := locking.free (by simp [phase, ListenPhase.isStuck])
    obtain ⟨progress, ran, completes⟩ :=
      ResponseCollector.rest_completes state.collector (locking.resumable message rest phase)
    simp only [listenStep, phase, collectSection, free, ran, Option.map_some] at took
    cases took
    exact .completes phase completes
  | storingError error =>
    simp only [listenStep, phase] at took
    cases took
    exact .errorStored phase
  | takingListeners error =>
    have free : state.lock = {} := locking.free (by simp [phase, ListenPhase.isStuck])
    have granted : state.lock.grants .write = true := by rw [free]; rfl
    have healthy : state.lock.poisoned = false := by rw [free]
    simp only [listenStep, phase, takeListeners, granted, healthy] at took
    cases took
    exact .listenersTaken phase
  | finishing error listeners =>
    simp only [listenStep, phase] at took
    exact finishListener_transition phase took
  | takingCallbacks error =>
    simp only [listenStep, phase] at took
    cases took
    exact .callbacksTaken phase
  | calling error callbacks =>
    cases callbacks with
    | nil =>
      simp only [listenStep, phase] at took
      cases took
      exact .callbacksDone phase
    | cons callback rest =>
      simp only [listenStep, phase] at took
      split at took
      case isTrue alive =>
        cases took
        exact .callbackSent phase alive
      case isFalse gone =>
        cases took
        exact .handlerGone phase (Bool.eq_false_iff.mpr gone)
  | awaiting error callback rest =>
    simp only [listenStep, phase] at took
    split at took
    case isTrue => cases took
    case isFalse answered =>
      cases took
      exact .callbackAnswered phase answered
  | signalling =>
    simp only [listenStep, phase] at took
    cases took
    exact .signalled phase
  | deadlocked | ended | panicked | aborted =>
    simp only [listenStep, phase, reduceCtorEq] at took

theorem step_transition {label : Label} (locking : Locking state)
    (took : step env state label = some next) : Transition env state label next := by
  cases label with
  | call request =>
    cases took
    exact .called request
  | proceed ticket => exact proceed_transition took
  | poll ticket => exact poll_transition took
  | onClose =>
    cases took
    exact .onClose
  | forceClose =>
    cases took
    exact forceClose_transition
  | forceCloseStep => exact forceCloseStep_transition took
  | connectionForceClose =>
    simp only [step, connectionForceClose, Option.ite_none_right_eq_some, Option.some.injEq] at took
    obtain ⟨-, rfl⟩ := took
    exact .connectionForceClosed
  | shutdownRuntime =>
    simp only [step, shutdownRuntime] at took
    split at took
    case h_1 phase =>
      cases took
      exact .aborted (.inl phase)
    case h_2 error callback rest phase =>
      cases took
      exact .aborted (.inr ⟨error, callback, rest, phase⟩)
    case h_3 => cases took
  | dispatch fresh => exact dispatchStep_transition took
  | listen choice => exact listenStep_transition locking took
  | runCallback panics =>
    simp only [step, runCallback] at took
    split at took
    case h_1 => cases took
    case h_2 callback rest queue =>
      cases took
      exact .callbackRun queue
  | loseHandler =>
    cases took
    exact .handlerLost
  | deliver =>
    simp only [step, deliver] at took
    split at took
    case h_1 => cases took
    case h_2 client rest next =>
      cases took
      exact .delivered next
  | serverSend message =>
    simp only [step, serverSend, Option.ite_none_left_eq_some, Option.some.injEq,
      Bool.or_eq_true, not_or] at took
    obtain ⟨⟨running, nameable⟩, rfl⟩ := took
    refine .serverSent ?_ (by simpa using running)
    intro requestId named
    simpa [named] using nameable
  | endStream =>
    simp only [step, terminate, Option.ite_none_left_eq_some, Option.some.injEq] at took
    obtain ⟨-, rfl⟩ := took
    exact .ended
  | failStream error arriving =>
    simp only [step, terminate, Option.ite_none_left_eq_some, Option.some.injEq] at took
    obtain ⟨-, rfl⟩ := took
    exact .failed
  | closeRequestSink =>
    cases took
    exact .requestSinkClosed

end Inversion

section Locking

variable {env : Environment} {state next : State} {label : Label} {message : Server}

variable {rest : List Server}

theorem currentMessage_of_receiving (phase : state.listen = .receiving)
    (incoming : state.incoming = message :: rest) : currentMessage state = some message := by
  simp [currentMessage, phase, incoming]

theorem currentMessage_of_collecting {rest : Action Unit}
    (phase : state.listen = .collecting message rest) : currentMessage state = some message := by
  simp [currentMessage, phase]

theorem Locking.registeredResponse (locking : Locking state) {rest : Action Unit}
    (phase : state.listen = .collecting message rest) :
    ∀ res : Res, message = ⟨some (.res res)⟩ →
      ∃ sink, state.collector.callbacks.lookup ⟨res.reqId⟩ = some sink := by
  intro res same
  subst same
  exact locking.registered res rest phase

theorem locking_initial : Locking {} where
  free _ := rfl
  resumable _ _ phase := by cases phase
  registered _ _ phase := by cases phase

variable {progress : Progress Collector PanicCause Unit}

theorem Locking.of_begins (collects : Begins env.chrono state.collector message progress) :
    Locking (endSection { state with incoming := rest } message progress) := by
  cases collects with
  | ignored | unknown | removed | emitted => exact ⟨fun _ => rfl, nofun, nofun⟩
  | accepted found =>
    refine ⟨fun _ => rfl, ?_, ?_⟩
    · intro _ _ phase
      cases phase
      exact .completing _
    · intro _ _ phase
      cases phase
      exact ⟨_, found⟩
  | failedUnknown | failed =>
    refine ⟨fun _ => rfl, ?_, nofun⟩
    intro _ _ phase
    cases phase
    exact .unregistering _ _
  | oneShot | stalled | crashed => exact ⟨nofun, nofun, nofun⟩

theorem Locking.of_completes (collects : Completes state.collector message progress) :
    Locking (endSection state message progress) := by
  cases collects with
  | settled | emitted | unregistered => exact ⟨fun _ => rfl, nofun, nofun⟩
  | missing | oneShot => exact ⟨nofun, nofun, nofun⟩

theorem Transition.locking (locking : Locking state)
    (move : Transition env state label next) : Locking next := by
  cases move with
  | @registered fresh request sink =>
    refine ⟨locking.free, locking.resumable, fun res rest phase => ?_⟩
    obtain ⟨held, found⟩ := locking.registered res rest phase
    dsimp only
    rw [Collector.register_lookup]
    split_ifs
    · exact ⟨sink, rfl⟩
    · exact ⟨held, found⟩
  | begins phase next collects => exact .of_begins collects
  | completes phase collects => exact .of_completes collects
  | closing phase | closingWithError phase | errorStored phase | listenersTaken phase
    | listenersDone phase | listenerFinished phase | callbacksTaken phase | callbacksDone phase
    | callbackSent phase | handlerGone phase | callbackAnswered phase | signalled phase =>
      exact ⟨fun _ => locking.free (by simp [phase, ListenPhase.isStuck]), nofun, nofun⟩
  | aborted phase =>
    refine ⟨fun _ => locking.free ?_, nofun, nofun⟩
    rcases phase with phase | ⟨error, callback, rest, phase⟩ <;> simp [phase, ListenPhase.isStuck]
  | _ => exact ⟨locking.free, locking.resumable, locking.registered⟩

variable {invariant : State → Prop} {labels : List Label}

theorem run_invariant {condition : State → Label → Prop}
    (preserved : ∀ {state next label}, Locking state →
      invariant state → condition state label → Transition env state label next → invariant next)
    (initially : invariant {}) (meets : (system env).Meets condition {} labels)
    (ran : (system env).run {} labels = some state) : invariant state := by
  have kept : ∀ {state next label},
      Locking state ∧ invariant state → condition state label →
      (system env).step state label = some next → Locking next ∧ invariant next := by
    intro state next label given allowed took
    obtain ⟨locking, holds⟩ := given
    have move := step_transition locking took
    exact ⟨move.locking locking, preserved locking holds allowed move⟩
  exact (TransitionSystem.run_invariant kept ⟨locking_initial, initially⟩ meets ran).2

theorem run_preserves
    (preserved : ∀ {state next label}, Locking state →
      invariant state → Transition env state label next → invariant next) (initially : invariant {})
    (ran : (system env).run {} labels = some state) : invariant state := by
  have always : (system env).Meets (fun _ _ => True) {} labels :=
    TransitionSystem.meets_of_forall (fun _ _ => trivial) _ labels
  exact run_invariant (fun locking holds _ move => preserved locking holds move)
    initially always ran

end Locking

end Transmitter

end TypeDBDriver
