import TypeDBDriver.Network.TransmitterTransition

/-! What holds in every state that the transmitter reaches: which call every sink belongs
to, what the server can know, and where the sink of a request is while its exchange
goes on. -/

namespace TypeDBDriver

open Library
open Proto.Transaction (Server Req)
open ResponseCollector (Begins Completes)
open ListenPhase (inHand)

namespace Transmitter

variable {env : Environment} {state next : State} {label : Label}

def Dispatched (state : State) (ticket : Ticket) (request : UserRequest)
    (requestId : RequestID) : Prop :=
  state.calls[ticket]? = some ⟨request, .sent⟩ ∧ state.assigned ticket = some requestId

/-- Every sink belongs to the call that made it, and every id to one call. -/
structure Wiring (env : Environment) (state : State) : Prop where
  queued : ∀ request sink, (request, some sink) ∈ state.requestQueue →
    ∃ (ticket : Ticket) (user : UserRequest), state.calls[ticket]? = some ⟨user, .sent⟩ ∧
      state.assigned ticket = none ∧
      request = user.toRequest ∧ sink = user.sink env.sync ticket
  queuedOnce : (state.requestQueue.filterMap (·.2)).Nodup
  streams : ∀ request, (request, none) ∈ state.requestQueue →
    ∃ requestId, request = .stream requestId
  unassigned : ∀ ticket : Ticket, (∀ user, state.calls[ticket]? ≠ some ⟨user, .sent⟩) →
    state.assigned ticket = none
  distinct : ∀ ticket other requestId, state.assigned ticket = some requestId →
    state.assigned other = some requestId → ticket = other
  registering : ∀ request sink, state.dispatch = .registering request sink →
    ∃ ticket user requestId, Dispatched state ticket user requestId ∧
      request = user.toRequest.intoProto requestId ∧ sink = user.sink env.sync ticket
  callbacks : ∀ requestId sink, state.collector.callbacks.lookup requestId = some sink →
    ∃ ticket user, Dispatched state ticket user requestId ∧ sink = user.sink env.sync ticket
  finishing : ∀ error listeners, state.listen = .finishing error listeners →
    ∀ sink ∈ listeners, ∃ ticket user requestId, Dispatched state ticket user requestId ∧
      sink = user.sink env.sync ticket

structure Grows (state next : State) : Prop where
  calls : ∀ (ticket : Ticket) (user : UserRequest), state.calls[ticket]? = some ⟨user, .sent⟩ →
    next.calls[ticket]? = some ⟨user, .sent⟩
  assigned : ∀ ticket requestId, state.assigned ticket = some requestId →
    next.assigned ticket = some requestId
  delivered : state.delivered ⊆ next.delivered
  sent : state.sent ⊆ next.sent
  collected : state.collected ⊆ next.collected

variable {ticket : Ticket} {requestId : RequestID}

theorem Dispatched.grows {request : UserRequest}
    (dispatched : Dispatched state ticket request requestId) (grows : Grows state next) :
    Dispatched next ticket request requestId :=
  ⟨grows.calls _ _ dispatched.1, grows.assigned _ _ dispatched.2⟩

theorem Grows.refl (state : State) : Grows state state :=
  ⟨fun _ _ => id, fun _ _ => id, fun _ => id, fun _ => id, fun _ => id⟩

variable {user : UserRequest}

theorem calls_set_sent {other : Ticket} {request : UserRequest} {phase : CallPhase} {call : Call}
    (held : state.calls[ticket]? = some ⟨request, phase⟩) (pending : phase ≠ .sent)
    (called : state.calls[other]? = some ⟨user, .sent⟩) :
    (state.calls.set ticket call)[other]? = some ⟨user, .sent⟩ := by
  have differs : ticket ≠ other := by
    intro same
    subst same
    rw [held] at called
    cases called
    exact pending rfl
  rw [List.getElem?_set_ne differs, called]

theorem endSection_grows (state : State) (message : Server)
    (progress : Progress Collector PanicCause Unit) :
    Grows state (endSection state message progress) := by
  cases progress with
  | finished result lock memory =>
    exact { Grows.refl state with collected := List.subset_append_left _ _ }
  | paused | panicked | deadlocked => exact { Grows.refl state with }

theorem Transition.grows (wiring : Wiring env state) (move : Transition env state label next) :
    Grows state next := by
  cases move with
  | called request =>
    refine { Grows.refl state with calls := fun ticket user called => ?_ }
    exact List.getElem?_append_left (List.getElem?_eq_some_iff.mp called).1 |>.trans called
  | sent held | unsent held | rejected held =>
    exact { Grows.refl state with calls := fun _ _ => calls_set_sent held (by simp) }
  | @requestTaken fresh request sink rest phase queue new =>
    refine { Grows.refl state with assigned := fun ticket requestId assigned => ?_ }
    obtain ⟨owner, user, called, unassigned, rfl, rfl⟩ :=
      wiring.queued request sink (by simp [queue])
    have differs : ticket ≠ owner := by
      intro same
      subst same
      simp [unassigned] at assigned
    simpa [Function.update_of_ne differs] using assigned
  | @begins _ message rest progress =>
    exact { endSection_grows { state with incoming := rest } message progress with }
  | completes => exact endSection_grows state _ _
  | delivered next => exact { Grows.refl state with delivered := List.subset_append_left _ _ }
  | serverSent nameable running =>
    exact { Grows.refl state with sent := List.subset_append_left _ _ }
  | _ => exact { Grows.refl state with }

theorem wiring_initial (env : Environment) : Wiring env {} where
  queued _ _ member := by cases member
  queuedOnce := List.nodup_nil
  streams _ member := by cases member
  unassigned _ _ := rfl
  distinct _ _ _ assigned := by cases assigned
  registering _ _ phase := by cases phase
  callbacks _ _ found := by cases found
  finishing _ _ phase := by cases phase

theorem UserRequest.intoProto_reqId (request : UserRequest) (requestId : RequestID) :
    (request.toRequest.intoProto requestId).reqId = requestId.bytes := by
  cases request <;> rfl

section

variable (wiring : Wiring env state) (assigned : state.assigned ticket = some requestId)

include wiring assigned

theorem any_assigned :
    (List.range state.calls.length).any (fun ticket => state.assigned ticket == some requestId) =
      true := by
  have bound : ticket < state.calls.length := by
    by_contra beyond
    have absent : state.calls[ticket]? = none := List.getElem?_eq_none (not_lt.mp beyond)
    simp [wiring.unassigned ticket (by simp [absent])] at assigned
  exact List.any_eq_true.mpr ⟨ticket, List.mem_range.mpr bound, by simp [assigned]⟩

theorem mentions_of_assigned : state.mentions requestId = true := by
  simp only [State.mentions, any_assigned wiring assigned, Bool.true_or]

theorem delivered_of_nameable (nameable : state.nameable requestId = true) :
    ∃ req ∈ state.delivered, req.reqId = requestId.bytes := by
  simpa only [State.nameable, any_assigned wiring assigned, Bool.not_true, Bool.or_false,
    List.any_eq_true, beq_iff_eq] using nameable

end

variable {request : TransactionRequest} {sink : ResponseSink}
    {rest : List (TransactionRequest × Option ResponseSink)}

theorem Wiring.queue_tickets (wiring : Wiring env state)
    (queue : state.requestQueue = (request, some sink) :: rest) {other : TransactionRequest}
    {waiting : ResponseSink} (member : (other, some waiting) ∈ rest) :
    waiting.ticket ≠ sink.ticket := by
  intro same
  obtain ⟨ticket, user, called, -, -, rfl⟩ := wiring.queued request sink (by simp [queue])
  obtain ⟨ticket', user', called', -, -, rfl⟩ :=
    wiring.queued other waiting (by simp [queue, member])
  simp only [UserRequest.sink_ticket] at same
  subst same
  cases called.symm.trans called'
  have once := wiring.queuedOnce
  simp only [queue, List.filterMap_cons, List.nodup_cons, List.mem_filterMap] at once
  exact once.1 ⟨_, member, rfl⟩

theorem Wiring.shrink (wiring : Wiring env state) (grows : Grows state next)
    (assigned : next.assigned = state.assigned)
    (queue : next.requestQueue.Sublist state.requestQueue)
    (dispatch : ∀ request sink, next.dispatch = .registering request sink →
      state.dispatch = .registering request sink)
    (callbacks : ∀ requestId sink, next.collector.callbacks.lookup requestId = some sink →
      state.collector.callbacks.lookup requestId = some sink)
    (listen : ∀ error listeners, next.listen = .finishing error listeners →
      state.listen = .finishing error listeners) : Wiring env next where
  queued request sink member := by
    obtain ⟨ticket, user, called, unassigned, rest⟩ :=
      wiring.queued request sink (queue.subset member)
    exact ⟨ticket, user, grows.calls _ _ called, assigned ▸ unassigned, rest⟩
  queuedOnce := wiring.queuedOnce.sublist (queue.filterMap _)
  streams request member := wiring.streams request (queue.subset member)
  unassigned ticket pending := by
    rw [assigned]
    exact wiring.unassigned ticket fun user called => pending user (grows.calls _ _ called)
  distinct := by
    rw [assigned]
    exact wiring.distinct
  registering request sink phase := by
    obtain ⟨ticket, user, requestId, dispatched, rest⟩ :=
      wiring.registering request sink (dispatch request sink phase)
    exact ⟨ticket, user, requestId, dispatched.grows grows, rest⟩
  callbacks requestId sink found := by
    obtain ⟨ticket, user, dispatched, rest⟩ :=
      wiring.callbacks requestId sink (callbacks requestId sink found)
    exact ⟨ticket, user, dispatched.grows grows, rest⟩
  finishing error listeners phase sink member := by
    obtain ⟨ticket, user, requestId, dispatched, rest⟩ :=
      wiring.finishing error listeners (listen error listeners phase) sink member
    exact ⟨ticket, user, requestId, dispatched.grows grows, rest⟩

theorem Wiring.enqueue (wiring : Wiring env state)
    (called : state.calls[ticket]? = some ⟨user, .sent⟩) (unassigned : state.assigned ticket = none)
    (new : ∀ request sink, (request, some sink) ∈ state.requestQueue → sink.ticket ≠ ticket) :
    Wiring env { state with
      requestQueue :=
        state.requestQueue ++ [(user.toRequest, some (user.sink env.sync ticket))] } := by
  refine { wiring with queued := ?_, queuedOnce := ?_, streams := ?_ }
  · intro request sink member
    rcases List.mem_append.mp member with member | member
    · exact wiring.queued request sink member
    · cases List.mem_singleton.mp member
      exact ⟨ticket, user, called, unassigned, rfl, rfl⟩
  · simp only [List.filterMap_append, List.filterMap_cons, List.filterMap_nil]
    refine List.nodup_append.mpr ⟨wiring.queuedOnce, List.nodup_singleton _, ?_⟩
    intro sink member other last same
    obtain ⟨⟨request, _⟩, member, rfl⟩ := List.mem_filterMap.mp member
    refine new request sink member ?_
    rw [same, List.mem_singleton.mp last, UserRequest.sink_ticket]
  · intro request member
    rcases List.mem_append.mp member with member | member
    · exact wiring.streams request member
    · simp at member

theorem Wiring.enqueueStream (wiring : Wiring env state) {requests : List TransactionRequest}
    (stream : ∀ request ∈ requests, ∃ requestId, request = .stream requestId) :
    Wiring env { state with
      requestQueue := state.requestQueue ++ requests.map fun request => (request, none) } := by
  refine { wiring with queued := ?_, queuedOnce := ?_, streams := ?_ }
  · intro request sink member
    rcases List.mem_append.mp member with member | member
    · exact wiring.queued request sink member
    · simp at member
  · have empty : (requests.map fun request => (request, none)).filterMap (·.2) =
        ([] : List ResponseSink) := by simp
    simpa only [List.filterMap_append, empty, List.append_nil] using wiring.queuedOnce
  · intro request member
    rcases List.mem_append.mp member with member | member
    · exact wiring.streams request member
    · obtain ⟨request, member, ⟨⟩⟩ := List.mem_map.mp member
      exact stream request member

theorem processResponse_requests (accepting : Bool)
    (response : StreamResponse TransactionResponse) :
    ∀ request ∈ (processResponse accepting response).2.toList,
      ∃ requestId, request = .stream requestId := by
  cases response with
  | result result => simp [processResponse]
  | «continue» requestId => cases accepting <;> simp [processResponse]

theorem Wiring.sent (wiring : Wiring env state) {request : UserRequest}
    (admitted : state.calls[ticket]? = some ⟨request, .admitted⟩)
    (grows : Grows state { state with calls := state.calls.set ticket ⟨request, .sent⟩ }) :
    Wiring env { state with
      calls := state.calls.set ticket ⟨request, .sent⟩
      requestQueue :=
        state.requestQueue ++ [(request.toRequest, some (request.sink env.sync ticket))] } := by
  have called := wiring.shrink grows rfl (.refl _) (fun _ _ => id) (fun _ _ => id) (fun _ _ => id)
  refine called.enqueue ?_ (wiring.unassigned ticket (by simp [admitted])) ?_
  · exact List.getElem?_set_self (List.getElem?_eq_some_iff.mp admitted).1
  · intro other sink member same
    subst same
    obtain ⟨owner, user, held, -, -, rfl⟩ := wiring.queued other sink member
    simp [held] at admitted

variable {fresh : RequestID}

theorem Wiring.requestTaken (wiring : Wiring env state)
    (queue : state.requestQueue = (request, some sink) :: rest) (new : state.mentions fresh = false)
    (grows : Grows state (state.take request sink rest fresh)) :
    Wiring env (state.take request sink rest fresh) := by
  obtain ⟨ticket, user, called, unassigned, rfl, rfl⟩ :=
    wiring.queued request sink (by simp [queue])
  unfold State.take at grows ⊢
  have unused : ∀ other, state.assigned other ≠ some fresh := by
    intro other assigned
    simp [mentions_of_assigned wiring assigned] at new
  simp only [UserRequest.sink_ticket] at grows ⊢
  constructor
  case queued =>
    intro request sink member
    have differs := wiring.queue_tickets queue member
    obtain ⟨owner, other, held, pending, rfl, rfl⟩ :=
      wiring.queued request sink (by simp [queue, member])
    simp only [UserRequest.sink_ticket] at differs
    exact ⟨owner, other, held, by simpa [Function.update_of_ne differs] using pending, rfl, rfl⟩
  case queuedOnce =>
    have once := wiring.queuedOnce
    simp only [queue, List.filterMap_cons, List.nodup_cons] at once
    exact once.2
  case streams => exact fun request member => wiring.streams request (by simp [queue, member])
  case unassigned =>
    intro other pending
    have differs : other ≠ ticket := by
      intro equal
      subst equal
      exact pending user called
    simpa [Function.update_of_ne differs] using wiring.unassigned other pending
  case distinct =>
    intro first second requestId
    simp only [Function.update_apply]
    split_ifs with isFirst isSecond isSecond
    · simp [isFirst, isSecond]
    · intro same assigned
      cases same
      exact absurd assigned (unused second)
    · intro assigned same
      cases same
      exact absurd assigned (unused first)
    · exact wiring.distinct first second requestId
  case registering =>
    intro _ _ reached
    cases reached
    exact ⟨ticket, user, fresh, ⟨called, Function.update_self ..⟩, rfl, rfl⟩
  case callbacks =>
    intro requestId sink found
    obtain ⟨owner, other, dispatched, same⟩ := wiring.callbacks requestId sink found
    exact ⟨owner, other, dispatched.grows grows, same⟩
  case finishing =>
    intro error listeners phase sink member
    obtain ⟨owner, other, requestId, dispatched, same⟩ :=
      wiring.finishing error listeners phase sink member
    exact ⟨owner, other, requestId, dispatched.grows grows, same⟩

theorem Wiring.registered (wiring : Wiring env state) {request : Req}
    (phase : state.dispatch = .registering request sink) :
    Wiring env { state with
      collector := state.collector.register ⟨request.reqId⟩ sink
      dispatch := .buffering request } := by
  refine { wiring with registering := by rintro _ _ ⟨⟩, callbacks := ?_ }
  intro requestId held found
  dsimp only at found
  rw [Collector.register_lookup] at found
  split_ifs at found with same
  · obtain ⟨ticket, user, assigned, dispatched, rfl, rfl⟩ := wiring.registering request sink phase
    cases found
    cases same
    rw [UserRequest.intoProto_reqId]
    exact ⟨ticket, user, dispatched, rfl⟩
  · exact wiring.callbacks requestId held found

variable {message : Server} {progress : Progress Collector PanicCause Unit}

theorem endSection_wiring (wiring : Wiring env state)
    (subset : ∀ requestId sink, progress.memory.callbacks.lookup requestId = some sink →
      state.collector.callbacks.lookup requestId = some sink) :
    Wiring env (endSection state message progress) := by
  have grows := endSection_grows state message progress
  cases progress with
  | finished | paused | panicked | deadlocked =>
    exact wiring.shrink grows rfl (.refl _) (fun _ _ => id) subset (by rintro _ _ ⟨⟩)

theorem Wiring.listenersTaken (wiring : Wiring env state) {error : Option Error} :
    Wiring env { state with
      collector := { state.collector with callbacks := ∅ }
      listen := .finishing error (state.collector.callbacks.entries.map (·.2)) } := by
  refine { wiring with callbacks := ?_, finishing := ?_ }
  · intro requestId sink found
    simp at found
  · intro _ _ phase sink member
    cases phase
    obtain ⟨⟨requestId, _⟩, entry, rfl⟩ := List.mem_map.mp member
    obtain ⟨ticket, user, dispatched, same⟩ :=
      wiring.callbacks requestId _ (AList.mem_lookup_iff.mpr entry)
    exact ⟨ticket, user, requestId, dispatched, same⟩

theorem Transition.wiring (wiring : Wiring env state) (move : Transition env state label next) :
    Wiring env next := by
  have grows := move.grows wiring
  cases move with
  | called | unsent | rejected =>
    exact wiring.shrink grows rfl (.refl _) (fun _ _ => id) (fun _ _ => id) (fun _ _ => id)
  | sent admitted => exact { wiring.sent admitted { grows with } with }
  | polled =>
    exact { wiring.enqueueStream (processResponse_requests state.accepting _) with }
  | noSignal | noCallback | callbackTaken | callbackPushed | drained | buffered
    | bufferedForwarding | flushed | flushedForwarding =>
      exact wiring.shrink grows rfl (.refl _) (by rintro _ _ ⟨⟩) (fun _ _ => id) (fun _ _ => id)
  | stopped | stoppedForwarding | dispatchPanicked =>
    exact wiring.shrink grows rfl (List.nil_sublist _) (by rintro _ _ ⟨⟩) (fun _ _ => id)
      (fun _ _ => id)
  | requestTaken phase queue new => exact wiring.requestTaken queue new grows
  | streamTaken phase queue =>
    exact wiring.shrink grows rfl (queue ▸ List.sublist_cons_self _ _) (by rintro _ _ ⟨⟩)
      (fun _ _ => id) (fun _ _ => id)
  | registered phase => exact wiring.registered phase
  | @begins choice message rest progress phase incoming collects =>
    have arrived : Wiring env { state with incoming := rest } := { wiring with }
    exact endSection_wiring arrived fun _ _ => collects.lookup_subset
  | completes phase collects => exact endSection_wiring wiring fun _ _ => collects.lookup_subset
  | listenersTaken => exact wiring.listenersTaken
  | listenerFinished phase chosen =>
    refine { wiring with finishing := ?_ }
    intro _ _ reached sink member
    cases reached
    exact wiring.finishing _ _ phase sink (List.mem_of_mem_eraseIdx member)
  | closing | closingWithError | errorStored | listenersDone | callbacksTaken | callbacksDone
    | callbackSent | handlerGone | callbackAnswered | signalled | aborted =>
      exact wiring.shrink grows rfl (.refl _) (fun _ _ => id) (fun _ _ => id) (by rintro _ _ ⟨⟩)
  | _ => exact wiring.shrink grows rfl (.refl _) (fun _ _ => id) (fun _ _ => id) (fun _ _ => id)

/-- The messages that were sent arrive in order, and none is missing before the stream
has ended. -/
structure Arrival (state : State) : Prop where
  ordered : state.collected ++ state.listen.inHand ++ state.incoming <+: state.sent
  complete : state.termination = none →
    state.collected ++ state.listen.inHand ++ state.incoming = state.sent

theorem arrival_initial : Arrival {} := ⟨List.nil_prefix, fun _ => rfl⟩

theorem Arrival.current_split (arrival : Arrival state)
    (current : currentMessage state = some message) :
    ∃ after, state.collected ++ message :: after = state.sent := by
  obtain ⟨rest, sent⟩ := arrival.ordered
  cases phase : state.listen with
  | receiving =>
    simp only [currentMessage, phase] at current
    obtain ⟨incoming, split⟩ := List.head?_eq_some_iff.mp current
    refine ⟨incoming ++ rest, ?_⟩
    rw [← sent, split, phase]
    simp [inHand]
  | collecting held program =>
    simp only [currentMessage, phase, Option.some.injEq] at current
    refine ⟨state.incoming ++ rest, ?_⟩
    rw [← sent, phase, current]
    simp [inHand]
  | _ => simp [currentMessage, phase] at current

theorem Arrival.current_mem (arrival : Arrival state)
    (current : currentMessage state = some message) : message ∈ state.sent := by
  obtain ⟨after, sent⟩ := arrival.current_split current
  rw [← sent]
  simp

theorem Arrival.congr (arrival : Arrival state)
    (same : next.collected ++ next.listen.inHand ++ next.incoming =
      state.collected ++ state.listen.inHand ++ state.incoming)
    (sent : next.sent = state.sent) (termination : next.termination = state.termination) :
    Arrival next := by
  constructor
  · rw [same, sent]
    exact arrival.ordered
  · rw [same, sent, termination]
    exact arrival.complete

theorem Arrival.terminated (arrival : Arrival state) (termination : Termination) (arriving : Nat) :
    Arrival { state with
      termination := some termination, incoming := state.incoming.take arriving } := by
  refine ⟨List.IsPrefix.trans ?_ arrival.ordered, fun running => by cases running⟩
  exact (List.prefix_append_right_inj _).mpr (List.take_prefix _ _)

theorem Transition.arrival (arrival : Arrival state)
    (move : Transition env state label next) : Arrival next := by
  cases move with
  | @begins choice message rest progress phase incoming =>
    cases progress with
    | finished | paused | panicked | deadlocked =>
      exact arrival.congr (by simp [endSection, phase, inHand, incoming]) rfl rfl
  | @completes choice message rest progress phase =>
    cases progress with
    | finished =>
      exact arrival.congr (by simp [endSection, phase, inHand]) rfl rfl
    | paused | panicked | deadlocked =>
      exact arrival.congr (by simp [endSection, phase, inHand]) rfl rfl
  | closing phase | closingWithError phase | errorStored phase | listenersTaken phase
    | listenersDone phase | listenerFinished phase | callbacksTaken phase | callbacksDone phase
    | callbackSent phase | handlerGone phase | callbackAnswered phase | signalled phase =>
      exact arrival.congr (by simp [phase, inHand, signalShutdown]) rfl rfl
  | aborted phase =>
    refine arrival.congr ?_ rfl rfl
    rcases phase with phase | ⟨error, callback, rest, phase⟩ <;> simp [phase, inHand]
  | @serverSent message nameable running =>
    have complete := arrival.complete running
    refine ⟨?_, fun _ => ?_⟩
    · rw [← complete]
      simp
    · rw [← complete]
      simp
  | ended => exact arrival.terminated .clean _
  | failed => exact arrival.terminated (.failed _) _
  | _ => exact arrival.congr rfl rfl rfl

def outgoing (state : State) : List Req :=
  state.buffer.reqs ++ state.inFlight.flatMap (·.reqs) ++ state.delivered

/-- The server names an id only after the request with that id was delivered, and no
request leaves the loop before its sink is registered. -/
structure Secrecy (state : State) : Prop where
  known : ∀ message ∈ state.sent, ∀ requestId ticket, message.requestId = some requestId →
    state.assigned ticket = some requestId → ∃ req ∈ state.delivered, req.reqId = requestId.bytes
  unseen : ∀ request sink, state.dispatch = .registering request sink →
    ∀ req ∈ outgoing state, req.reqId ≠ request.reqId

theorem secrecy_initial : Secrecy {} where
  known _ member := by cases member
  unseen _ _ phase := by cases phase

theorem not_mentions (new : state.mentions requestId = false) :
    (∀ req ∈ outgoing state, req.reqId ≠ requestId.bytes) ∧
      ∀ message ∈ state.sent, message.requestId ≠ some requestId := by
  simp only [State.mentions, Bool.or_eq_false_iff, List.any_eq_false, beq_iff_eq] at new
  obtain ⟨⟨⟨⟨-, buffered⟩, inFlight⟩, delivered⟩, sent⟩ := new
  refine ⟨?_, fun message member => sent message member⟩
  intro req member
  rcases List.mem_append.mp member with member | member
  · rcases List.mem_append.mp member with member | member
    · exact buffered req member
    · obtain ⟨client, held, member⟩ := List.mem_flatMap.mp member
      have none := inFlight client held
      simp only [Bool.not_eq_true, List.any_eq_false, beq_iff_eq] at none
      exact none req member
  · exact delivered req member

theorem Transition.secrecy (wiring : Wiring env state) (secrecy : Secrecy state)
    (move : Transition env state label next) : Secrecy next := by
  cases move with
  | @requestTaken fresh request sink rest phase queue new =>
    obtain ⟨ticket, user, called, unassigned, rfl, rfl⟩ :=
      wiring.queued request sink (by simp [queue])
    obtain ⟨unused, unnamed⟩ := not_mentions new
    constructor
    · intro message member requestId owner named assigned
      simp only [Function.update_apply] at assigned
      split_ifs at assigned
      · cases assigned
        exact absurd named (unnamed message member)
      · exact secrecy.known message member requestId owner named assigned
    · intro _ _ reached req member
      cases reached
      rw [UserRequest.intoProto_reqId]
      exact unused req member
  | noSignal | stopped | stoppedForwarding | dispatchPanicked | noCallback | callbackTaken
    | callbackPushed | drained | streamTaken | registered | buffered | bufferedForwarding
    | flushed | flushedForwarding =>
      exact ⟨secrecy.known, by rintro _ _ ⟨⟩⟩
  | @begins choice message rest progress =>
    cases progress <;> exact ⟨secrecy.known, secrecy.unseen⟩
  | @completes choice message rest progress =>
    cases progress <;> exact ⟨secrecy.known, secrecy.unseen⟩
  | @delivered client rest next =>
    constructor
    · intro message member requestId ticket named assigned
      obtain ⟨req, held, same⟩ := secrecy.known message member requestId ticket named assigned
      exact ⟨req, List.mem_append_left _ held, same⟩
    · intro request sink phase req member
      refine secrecy.unseen request sink phase req ?_
      simp only [outgoing, next, List.flatMap_cons, List.mem_append] at member ⊢
      tauto
  | @serverSent message nameable =>
    refine ⟨?_, secrecy.unseen⟩
    intro sent member requestId ticket named assigned
    rcases List.mem_append.mp member with member | member
    · exact secrecy.known sent member requestId ticket named assigned
    · cases List.mem_singleton.mp member
      have known := delivered_of_nameable wiring assigned (nameable requestId named)
      exact known
  | _ => exact ⟨secrecy.known, secrecy.unseen⟩

def Ended (chrono : Chrono) (messages : List Server) (requestId : RequestID) : Prop :=
  ∃ message ∈ messages, message.requestId = some requestId ∧
    (message.reaction chrono).ends = true

theorem ended_append {chrono : Chrono} {messages : List Server} :
    Ended chrono (messages ++ [message]) requestId ↔
      Ended chrono messages requestId ∨
        (message.requestId = some requestId ∧ (message.reaction chrono).ends = true) := by
  simp [Ended, or_and_right, exists_or]

/-- Until the transaction is closed, the sink of a request is with the dispatch loop, in
the map, or gone because a message ended the exchange. -/
structure Exchanges (env : Environment) (state : State) : Prop where
  live : ∀ requestId sink, state.collector.callbacks.lookup requestId = some sink →
    ¬ Ended env.chrono state.collected requestId
  placed : state.listen.beforeClose = true → state.lock.poisoned = false →
    ∀ ticket requestId, state.assigned ticket = some requestId →
    (∃ request sink, state.dispatch = .registering request sink ∧
        request.reqId = requestId.bytes) ∨
      (∃ sink, state.collector.callbacks.lookup requestId = some sink) ∨
      Ended env.chrono state.collected requestId

theorem exchanges_initial (env : Environment) : Exchanges env {} where
  live _ _ found := by cases found
  placed _ _ _ _ assigned := by cases assigned

theorem not_named_of_registering (wiring : Wiring env state) (secrecy : Secrecy state)
    {request : Req} (phase : state.dispatch = .registering request sink)
    (member : message ∈ state.sent) : message.requestId ≠ some ⟨request.reqId⟩ := by
  intro named
  obtain ⟨ticket, user, requestId, dispatched, rfl, rfl⟩ := wiring.registering request sink phase
  rw [UserRequest.intoProto_reqId] at named
  obtain ⟨req, delivered, same⟩ :=
    secrecy.known message member requestId ticket named dispatched.2
  refine secrecy.unseen _ _ phase req (List.mem_append_right _ delivered) ?_
  rw [same, UserRequest.intoProto_reqId]

theorem Arrival.collected_subset (arrival : Arrival state) : state.collected ⊆ state.sent := by
  intro message member
  exact arrival.ordered.subset (by simp [member])

section

variable (exchanges : Exchanges env state)

include exchanges

theorem Exchanges.registered (wiring : Wiring env state) (arrival : Arrival state)
    (secrecy : Secrecy state) {request : Req} (phase : state.dispatch = .registering request sink) :
    Exchanges env { state with
      collector := state.collector.register ⟨request.reqId⟩ sink
      dispatch := .buffering request } := by
  constructor
  · intro requestId held found
    dsimp only at found
    rw [Collector.register_lookup] at found
    split_ifs at found with same
    · intro given
      obtain ⟨message, member, named, -⟩ := given
      exact not_named_of_registering wiring secrecy phase
        (arrival.collected_subset member) (same ▸ named)
    · exact exchanges.live requestId held found
  · intro before healthy ticket requestId assigned
    refine .inr ?_
    dsimp only
    rw [Collector.register_lookup]
    split_ifs with same
    · exact .inl ⟨sink, rfl⟩
    · rcases exchanges.placed before healthy ticket requestId assigned with
        ⟨request', sink', phase', same'⟩ | placed
      · cases phase.symm.trans phase'
        exact absurd (congrArg ID.mk same'.symm) same
      · exact placed

theorem Exchanges.dispatched (collected : next.collected = state.collected)
    (callbacks : next.collector.callbacks = state.collector.callbacks)
    (listen : next.listen = state.listen) (lock : next.lock = state.lock)
    (assigned : next.assigned = state.assigned) (idle : state.lock.poisoned = false →
      ∀ request sink, state.dispatch ≠ .registering request sink) : Exchanges env next := by
  constructor
  · rw [collected, callbacks]
    exact exchanges.live
  · rw [collected, callbacks, listen, lock, assigned]
    intro before healthy ticket requestId held
    rcases exchanges.placed before healthy ticket requestId held with
      ⟨request, sink, phase, -⟩ | placed
    · exact absurd phase (idle healthy request sink)
    · exact .inr placed

theorem Exchanges.collected {lock : RwLock} {memory : Collector}
    (before : state.listen.beforeClose = true) (healthy : state.lock.poisoned = false)
    (subset : ∀ requestId sink, memory.callbacks.lookup requestId = some sink →
      state.collector.callbacks.lookup requestId = some sink)
    (updates : ResponseCollector.Updates env.chrono state.collector message memory) :
    Exchanges env (endSection state message (.finished () lock memory)) := by
  constructor
  · intro requestId sink found
    simp only [endSection, ended_append, not_or]
    refine ⟨exchanges.live requestId sink (subset requestId sink found), ?_⟩
    intro given
    obtain ⟨named, ends⟩ := given
    have gone := updates.removes requestId named ends
    simp only [endSection] at found
    simp [gone] at found
  · intro _ _ ticket requestId assigned
    simp only [endSection, ended_append]
    rcases exchanges.placed before healthy ticket requestId assigned with
      registering | ⟨sink, found⟩ | ended
    · exact .inl registering
    · rcases updates.keeps requestId sink found with kept | ended
      · exact .inr (.inl ⟨sink, kept⟩)
      · exact .inr (.inr (.inr ended))
    · exact .inr (.inr (.inl ended))

theorem Exchanges.unfinished (collected : next.collected = state.collected)
    (assigned : next.assigned = state.assigned) (dispatch : next.dispatch = state.dispatch)
    (subset : ∀ requestId sink, next.collector.callbacks.lookup requestId = some sink →
      state.collector.callbacks.lookup requestId = some sink)
    (still : next.listen.beforeClose = true → next.lock.poisoned = false →
      state.listen.beforeClose = true ∧ state.lock.poisoned = false ∧
      next.collector.callbacks = state.collector.callbacks) : Exchanges env next := by
  constructor
  · intro requestId sink found
    rw [collected]
    exact exchanges.live requestId sink (subset requestId sink found)
  · intro before healthy
    obtain ⟨before, healthy, callbacks⟩ := still before healthy
    rw [collected, assigned, dispatch, callbacks]
    exact exchanges.placed before healthy

theorem Exchanges.begins (locking : Locking state) {rest : List Server}
    (phase : state.listen = .receiving)
    (collects : Begins env.chrono state.collector message progress) :
    Exchanges env (endSection { state with incoming := rest } message progress) := by
  have before : state.listen.beforeClose = true := by rw [phase]; rfl
  have healthy : state.lock.poisoned = false := by rw [locking.free (by rw [phase]; rfl)]
  have arrived : Exchanges env { state with incoming := rest } := ⟨exchanges.live, exchanges.placed⟩
  cases progress with
  | finished _ lock memory =>
    exact arrived.collected before healthy (fun _ _ => collects.lookup_subset) collects.updates
  | paused _ lock memory | panicked _ lock memory | deadlocked lock memory =>
    exact arrived.unfinished rfl rfl rfl (fun _ _ => collects.lookup_subset)
      fun _ _ => ⟨before, healthy, collects.unfinished_callbacks (by rintro _ _ _ ⟨⟩)⟩

theorem Exchanges.completes (locking : Locking state) {rest : Action Unit}
    (phase : state.listen = .collecting message rest)
    (collects : Completes state.collector message progress) :
    Exchanges env (endSection state message progress) := by
  have before : state.listen.beforeClose = true := by rw [phase]; rfl
  have healthy : state.lock.poisoned = false := by rw [locking.free (by rw [phase]; rfl)]
  cases progress with
  | finished _ lock memory =>
    exact exchanges.collected before healthy (fun _ _ => collects.lookup_subset) collects.updates
  | paused _ lock memory | deadlocked lock memory => cases collects
  | panicked _ lock memory =>
    refine exchanges.unfinished rfl rfl rfl (fun _ _ => collects.lookup_subset) ?_
    cases collects <;> rintro _ ⟨⟩

theorem Exchanges.requestTaken (wiring : Wiring env state) (phase : state.dispatch = .draining)
    (queue : state.requestQueue = (request, some sink) :: rest) :
    Exchanges env (state.take request sink rest fresh) := by
  unfold State.take
  refine ⟨exchanges.live, ?_⟩
  intro before healthy ticket requestId assigned
  simp only [Function.update_apply] at assigned
  split_ifs at assigned
  · cases assigned
    obtain ⟨owner, user, -, -, rfl, -⟩ := wiring.queued request sink (by simp [queue])
    exact .inl ⟨_, sink, rfl, UserRequest.intoProto_reqId user fresh⟩
  · rcases exchanges.placed before healthy ticket requestId assigned with
      ⟨request', sink', phase', -⟩ | placed
    · cases phase.symm.trans phase'
    · exact .inr placed

end

structure Sound (env : Environment) (state : State) : Prop where
  locking : Locking state
  wiring : Wiring env state
  arrival : Arrival state
  secrecy : Secrecy state
  exchanges : Exchanges env state

theorem sound_initial (env : Environment) : Sound env {} :=
  ⟨locking_initial, wiring_initial env, arrival_initial, secrecy_initial, exchanges_initial env⟩

theorem Transition.exchanges (sound : Sound env state)
    (move : Transition env state label next) : Exchanges env next := by
  have exchanges := sound.exchanges
  cases move with
  | noSignal phase | stopped phase | stoppedForwarding phase | noCallback phase
    | callbackTaken phase | callbackPushed phase | drained phase | streamTaken phase
    | buffered phase | bufferedForwarding phase | flushed phase | flushedForwarding phase =>
      exact exchanges.dispatched rfl rfl rfl rfl rfl (by simp [phase])
  | dispatchPanicked running reason =>
    refine exchanges.dispatched rfl rfl rfl rfl rfl fun healthy => ?_
    rcases reason with poisoned | idle
    · simp [healthy] at poisoned
    · exact idle
  | requestTaken phase queue new => exact exchanges.requestTaken sound.wiring phase queue
  | registered phase =>
    exact exchanges.registered sound.wiring sound.arrival sound.secrecy phase
  | begins phase incoming collects => exact exchanges.begins sound.locking phase collects
  | completes phase collects => exact exchanges.completes sound.locking phase collects
  | listenersTaken =>
    refine exchanges.unfinished rfl rfl rfl ?_ (by rintro ⟨⟩)
    intro requestId sink found
    simp at found
  | closing | closingWithError | errorStored | listenersDone | listenerFinished | callbacksTaken
    | callbacksDone | callbackSent | handlerGone | callbackAnswered | signalled | aborted =>
      exact exchanges.unfinished rfl rfl rfl (fun _ _ => id) (by rintro ⟨⟩)
  | _ => exact ⟨exchanges.live, exchanges.placed⟩

theorem Transition.sound (sound : Sound env state) (move : Transition env state label next) :
    Sound env next :=
  ⟨move.locking sound.locking, move.wiring sound.wiring,
    move.arrival sound.arrival, move.secrecy sound.wiring sound.secrecy, move.exchanges sound⟩

theorem sound_run_invariant {invariant : State → Prop} {condition : State → Label → Prop}
    (preserved : ∀ {state next label}, Sound env state →
      invariant state → condition state label → Transition env state label next → invariant next)
    (initially : invariant {}) {labels : List Label}
    (meets : (system env).Meets condition {} labels)
    (ran : (system env).run {} labels = some state) : Sound env state ∧ invariant state := by
  have kept : ∀ {state next label}, Locking state →
      Sound env state ∧ invariant state → condition state label →
      Transition env state label next → Sound env next ∧ invariant next := by
    intro state next label _ given allowed move
    obtain ⟨sound, holds⟩ := given
    exact ⟨move.sound sound, preserved sound holds allowed move⟩
  exact run_invariant kept ⟨sound_initial env, initially⟩ meets ran

end Transmitter

end TypeDBDriver
