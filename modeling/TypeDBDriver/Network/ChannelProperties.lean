import TypeDBDriver.Network.TransmitterInvariant

/-! What arrives on the channel of a query. `transcript` says it of a sequence of messages
alone, one request at a time; the invariant says that the shared map and the two loops make
it true of every request at once. -/

namespace TypeDBDriver

open Library
open Proto.Transaction (Server)
open ResponseCollector (Begins Completes)
open List (any_eq_false append_nil)

def Reaction.items : Reaction → List (StreamResponse TransactionResponse)
  | .emit item | .fail item => [item]
  | .settle result => [.result result]
  | .remove _ | .stall _ | .crash | .ignore => []

def transcript (chrono : Chrono) (requestId : RequestID) :
    List Server → List (StreamResponse TransactionResponse)
  | [] => []
  | message :: rest =>
    if message.requestId = some requestId then
      (message.reaction chrono).items ++
        if (message.reaction chrono).ends then [] else transcript chrono requestId rest
    else transcript chrono requestId rest

section Transcript

open Transmitter (Ended)

variable {chrono : Chrono} {requestId : RequestID} {messages : List Server} {message : Server}

theorem ended_cons :
    Ended chrono (message :: messages) requestId ↔
      (message.requestId = some requestId ∧ (message.reaction chrono).ends = true) ∨
        Ended chrono messages requestId := by
  simp [Ended, or_and_right, exists_or]

theorem transcript_append (running : ¬ Ended chrono messages requestId) (rest : List Server) :
    transcript chrono requestId (messages ++ rest) =
      transcript chrono requestId messages ++ transcript chrono requestId rest := by
  induction messages with
  | nil => rfl
  | cons message messages ih =>
    rw [ended_cons, not_or] at running
    simp only [List.cons_append, transcript]
    split_ifs with named ends
    · exact absurd ⟨named, ends⟩ running.1
    · rw [ih running.2, List.append_assoc]
    · exact ih running.2

theorem transcript_append_ended (ended : Ended chrono messages requestId) (rest : List Server) :
    transcript chrono requestId (messages ++ rest) = transcript chrono requestId messages := by
  induction messages with
  | nil =>
    obtain ⟨message, member, -⟩ := ended
    cases member
  | cons message messages ih =>
    simp only [List.cons_append, transcript]
    rcases ended_cons.mp ended with ⟨named, ends⟩ | later
    · simp [named, ends]
    · rw [ih later]

theorem transcript_singleton (message : Server) :
    transcript chrono requestId [message] =
      if message.requestId = some requestId then (message.reaction chrono).items else [] := by
  simp [transcript]

theorem transcript_eq_nil (unnamed : ∀ message ∈ messages, message.requestId ≠ some requestId) :
    transcript chrono requestId messages = [] := by
  induction messages with
  | nil => rfl
  | cons message messages ih =>
    rw [transcript, if_neg (unnamed message List.mem_cons_self)]
    exact ih fun other member => unnamed other (List.mem_cons_of_mem _ member)

theorem transcript_append_unnamed (unnamed : message.requestId ≠ some requestId) :
    transcript chrono requestId (messages ++ [message]) = transcript chrono requestId messages := by
  by_cases ended : Ended chrono messages requestId
  · exact transcript_append_ended ended [message]
  · rw [transcript_append ended, transcript_singleton, if_neg unnamed, append_nil]

end Transcript

/-- What a message puts on the channel of a call, given the map it is collected with. -/
def emitted (chrono : Chrono) (callbacks : HashMap RequestID ResponseSink) (message : Server)
    (ticket : Ticket) : List (StreamResponse TransactionResponse) :=
  match message.requestId with
  | some requestId =>
    if callbacks.lookup requestId = some (.streamed ticket) then (message.reaction chrono).items
    else []
  | none => []

variable {chrono : Chrono} {callbacks : HashMap RequestID ResponseSink} {message : Server}
    {requestId : RequestID}

theorem emitted_of_lookup {sink : ResponseSink} {reaction : Reaction}
    (named : message.requestId = some requestId) (found : callbacks.lookup requestId = some sink)
    (reacts : message.reaction chrono = reaction) (ticket : Ticket) :
    emitted chrono callbacks message ticket =
      if sink = .streamed ticket then reaction.items else [] := by
  simp [emitted, named, found, reacts]

theorem emitted_of_absent (named : message.requestId = some requestId)
    (absent : callbacks.lookup requestId = none) (ticket : Ticket) :
    emitted chrono callbacks message ticket = [] := by
  simp [emitted, named, absent]

theorem Receivers.sendStream_streams (receivers : Receivers TransactionResponse)
    (sender ticket : Ticket) (item : StreamResponse TransactionResponse) :
    (receivers.sendStream sender item).streams ticket =
      receivers.streams ticket ++
        if ResponseSink.streamed sender = .streamed ticket then [item] else [] := by
  rw [Receivers.sendStream_streams_apply]
  by_cases same : ticket = sender
  · subst same
    simp
  · have differs : ResponseSink.streamed sender ≠ .streamed ticket := by
      intro sameSink
      cases sameSink
      exact same rfl
    simp [same, differs]

theorem ResponseSink.settle_streams (sink : ResponseSink) (result : Result TransactionResponse)
    (receivers : Receivers TransactionResponse) (ticket : Ticket) :
    (sink.settle result receivers).streams ticket =
      receivers.streams ticket ++ if sink = .streamed ticket then [.result result] else [] := by
  cases sink with
  | streamed sender => cases result <;> exact Receivers.sendStream_streams receivers sender ticket _
  | immediateOneShot | asyncOneShot | blockingOneShot =>
    cases result <;> simp [ResponseSink.settle, ResponseSink.finish, ResponseSink.error]

def StreamResponse.isClosing : StreamResponse TransactionResponse → Bool
  | .result (.ok .close) | .result (.error _) => true
  | _ => false

namespace ListenPhase

def partInHand : ListenPhase → List Server
  | .collecting ⟨some (.resPart part)⟩ _ => [⟨some (.resPart part)⟩]
  | _ => []

def untaken : ListenPhase → Bool
  | .receiving | .collecting _ _ | .deadlocked _ | .storingError _ | .takingListeners _ => true
  | _ => false

end ListenPhase

namespace Transmitter

variable {env : Environment} {state next : State} {label : Label}

def visible (state : State) : List Server := state.collected ++ state.listen.partInHand

def Carries (env : Environment) (state : State) (message : Server)
    (next : State) : Prop :=
  visible next = visible state ++ [message] ∧
    ∀ ticket, next.collector.receivers.streams ticket =
      state.collector.receivers.streams ticket ++
        emitted env.chrono state.collector.callbacks message ticket

def Unheard (state next : State) : Prop :=
  visible next = visible state ∧
    next.collector.receivers.streams = state.collector.receivers.streams

variable {message : Server} {progress : Progress Collector PanicCause Unit}

theorem begins_channel (rest : List Server) (phase : state.listen = .receiving)
    (collects : Begins env.chrono state.collector message progress) :
    Carries env state message (endSection { state with incoming := rest } message progress) ∨
      Unheard state (endSection { state with incoming := rest } message progress) := by
  have before : visible state = state.collected := by simp [visible, phase, ListenPhase.partInHand]
  cases collects with
  | accepted found => exact .inr ⟨by rw [before]; exact append_nil _, rfl⟩
  | oneShot | stalled | crashed => exact .inr ⟨by rw [before]; exact append_nil _, rfl⟩
  | ignored =>
    refine .inl ⟨by rw [before]; exact append_nil _, fun ticket => ?_⟩
    exact (append_nil _).symm
  | unknown named absent =>
    refine .inl ⟨by rw [before]; exact append_nil _, fun ticket => ?_⟩
    rw [emitted_of_absent named absent]
    exact (append_nil _).symm
  | @failedUnknown reqId error absent =>
    refine .inl ⟨by rw [before]; rfl, fun ticket => ?_⟩
    rw [emitted_of_absent rfl absent]
    exact (append_nil _).symm
  | @removed part report reacts =>
    refine .inl ⟨by rw [before]; exact append_nil _, fun ticket => ?_⟩
    have nothing :
        emitted env.chrono state.collector.callbacks ⟨some (.resPart part)⟩ ticket = [] := by
      simp [emitted, Server.requestId, Server.reaction, reacts, Reaction.items]
    rw [nothing, append_nil]
    cases report <;> rfl
  | @emitted part sender item found reacts =>
    refine .inl ⟨by rw [before]; exact append_nil _, fun ticket => ?_⟩
    have reacts : Server.reaction env.chrono ⟨some (.resPart part)⟩ = .emit item := reacts
    rw [emitted_of_lookup rfl found reacts]
    exact Receivers.sendStream_streams _ sender ticket item
  | @failed reqId error sender found =>
    refine .inl ⟨by rw [before]; rfl, fun ticket => ?_⟩
    rw [emitted_of_lookup rfl found rfl]
    exact Receivers.sendStream_streams _ sender ticket _

variable {rest : Action Unit}

theorem completes_channel (env : Environment) (locking : Locking state)
    (phase : state.listen = .collecting message rest)
    (collects : Completes state.collector message progress) :
    (visible state = state.collected ∧
        Carries env state message (endSection state message progress)) ∨
      Unheard state (endSection state message progress) := by
  cases collects with
  | missing absent =>
    obtain ⟨sink, found⟩ := locking.registered _ _ phase
    simp [found] at absent
  | @settled res sink result found reacts =>
    have all : visible state = state.collected := by
      simp [visible, phase, ListenPhase.partInHand]
    refine .inl ⟨all, by rw [all]; exact append_nil _, fun ticket => ?_⟩
    have reacts : Server.reaction env.chrono ⟨some (.res res)⟩ = .settle result := reacts
    rw [emitted_of_lookup rfl found reacts]
    exact ResponseSink.settle_streams sink result _ ticket
  | @emitted res sender item found reacts =>
    have all : visible state = state.collected := by
      simp [visible, phase, ListenPhase.partInHand]
    refine .inl ⟨all, by rw [all]; exact append_nil _, fun ticket => ?_⟩
    have reacts : Server.reaction env.chrono ⟨some (.res res)⟩ = .emit item := reacts
    rw [emitted_of_lookup rfl found reacts]
    exact Receivers.sendStream_streams _ sender ticket item
  | oneShot =>
    exact .inr ⟨by simp [visible, endSection, phase, ListenPhase.partInHand], rfl⟩
  | unregistered =>
    exact .inr ⟨by simp [visible, endSection, phase, ListenPhase.partInHand], rfl⟩

/-- Every channel of a query carries the transcript of its request, and at the end what
the closing transaction puts there. -/
structure Channels (env : Environment) (state : State) : Prop where
  silent : ∀ ticket, state.assigned ticket = none →
    state.collector.receivers.streams ticket = []
  carried : ∀ ticket query requestId, Dispatched state ticket (.query query) requestId →
    ∃ tail, state.collector.receivers.streams ticket =
        transcript env.chrono requestId (visible state) ++ tail ∧
      (state.listen.untaken = true → tail = []) ∧ ∀ item ∈ tail, item.isClosing = true

theorem channels_initial (env : Environment) : Channels env {} where
  silent _ _ := rfl
  carried _ _ _ dispatched := by cases dispatched.2

variable {ticket : Ticket} {user : UserRequest} {requestId : RequestID}

theorem Dispatched.of_grows (wiring : Wiring env state) (grows : Grows state next)
    (assigned : state.assigned ticket = some requestId)
    (dispatched : Dispatched next ticket user requestId) :
    Dispatched state ticket user requestId := by
  refine ⟨?_, assigned⟩
  by_contra pending
  have unassigned := wiring.unassigned ticket fun other called => by
    cases (grows.calls _ _ called).symm.trans dispatched.1
    exact pending called
  simp [unassigned] at assigned

theorem Channels.frame (held : Channels env state) (wiring : Wiring env state)
    (grows : Grows state next) (assigned : next.assigned = state.assigned)
    (unheard : Unheard state next)
    (untaken : next.listen.untaken = true → state.listen.untaken = true) : Channels env next where
  silent ticket unassigned := by
    rw [unheard.2]
    exact held.silent ticket (assigned ▸ unassigned)
  carried ticket query requestId dispatched := by
    have earlier := dispatched.of_grows wiring grows (assigned ▸ dispatched.2)
    obtain ⟨tail, carries, empty, closing⟩ := held.carried ticket query requestId earlier
    rw [unheard.1, unheard.2]
    exact ⟨tail, carries, fun now => empty (untaken now), closing⟩

theorem UserRequest.eq_of_sink_eq {sync : Bool} {owner : Ticket}
    (same : user.sink sync owner = .streamed ticket) : owner = ticket := by
  rw [← UserRequest.sink_ticket sync owner user, same]
  rfl

theorem emitted_eq_nil (wiring : Wiring env state)
    (foreign : ∀ requestId, state.assigned ticket = some requestId →
      message.requestId ≠ some requestId) :
    emitted env.chrono state.collector.callbacks message ticket = [] := by
  cases named : message.requestId with
  | none => simp [emitted, named]
  | some requestId =>
    simp only [emitted, named]
    split_ifs with found
    · obtain ⟨owner, user, dispatched, same⟩ := wiring.callbacks _ _ found
      obtain rfl := UserRequest.eq_of_sink_eq same.symm
      exact absurd named (foreign requestId dispatched.2)
    · rfl

variable {sink : ResponseSink}

theorem lookup_streamed (wiring : Wiring env state) {query : QueryRequest}
    (dispatched : Dispatched state ticket (.query query) requestId)
    (found : state.collector.callbacks.lookup requestId = some sink) : sink = .streamed ticket := by
  obtain ⟨owner, user, dispatched', rfl⟩ := wiring.callbacks _ _ found
  obtain rfl := wiring.distinct owner ticket requestId dispatched'.2 dispatched.2
  cases dispatched.1.symm.trans dispatched'.1
  rfl

theorem registered_of_named (sound : Sound env state) (before : state.listen.beforeClose = true)
    (healthy : state.lock.poisoned = false) (sent : message ∈ state.sent)
    (assigned : state.assigned ticket = some requestId) (named : message.requestId = some requestId)
    (running : ¬ Ended env.chrono state.collected requestId) :
    ∃ sink, state.collector.callbacks.lookup requestId = some sink := by
  rcases sound.exchanges.placed before healthy ticket requestId assigned with
    ⟨request, sink, phase, same⟩ | found | ended
  · refine absurd named ?_
    have unnamed := not_named_of_registering sound.wiring sound.secrecy phase sent
    rwa [same] at unnamed
  · exact found
  · exact absurd ended running

theorem Arrival.visible_subset (arrival : Arrival state) : visible state ⊆ state.sent := by
  intro message member
  refine arrival.ordered.subset (List.mem_append_left _ ?_)
  refine (List.mem_append.mp member).elim (List.mem_append_left _) fun inHand => ?_
  refine List.mem_append_right _ ?_
  unfold ListenPhase.partInHand at inHand
  split at inHand
  case h_1 phase => simpa [phase, ListenPhase.inHand] using inHand
  case h_2 => cases inHand

section

variable (held : Channels env state)

include held

theorem Channels.carry (sound : Sound env state) (grows : Grows state next)
    (assigned : next.assigned = state.assigned) (carries : Carries env state message next)
    (before : state.listen.beforeClose = true) (healthy : state.lock.poisoned = false)
    (sent : message ∈ state.sent) (untaken : state.listen.untaken = true)
    (all : visible state = state.collected) :
    Channels env next where
  silent ticket unassigned := by
    rw [assigned] at unassigned
    rw [carries.2, held.silent ticket unassigned, List.nil_append]
    exact emitted_eq_nil sound.wiring (by simp [unassigned])
  carried ticket query requestId dispatched := by
    have earlier := dispatched.of_grows sound.wiring grows (assigned ▸ dispatched.2)
    obtain ⟨tail, carried, empty, -⟩ := held.carried ticket query requestId earlier
    rw [empty untaken, append_nil] at carried
    refine ⟨[], ?_, fun _ => rfl, by simp⟩
    rw [carries.1, carries.2, carried, all, append_nil]
    by_cases named : message.requestId = some requestId
    · by_cases ended : Ended env.chrono state.collected requestId
      · have absent : state.collector.callbacks.lookup requestId = none := by
          by_contra present
          obtain ⟨sink, found⟩ := Option.ne_none_iff_exists'.mp present
          exact sound.exchanges.live requestId sink found ended
        rw [transcript_append_ended ended, emitted_of_absent named absent, append_nil]
      · obtain ⟨sink, found⟩ :=
          registered_of_named sound before healthy sent earlier.2 named ended
        have same := lookup_streamed sound.wiring earlier found
        rw [transcript_append ended, transcript_singleton, if_pos named,
          emitted_of_lookup named found rfl, if_pos same]
    · rw [transcript_append_unnamed named, emitted_eq_nil sound.wiring, append_nil]
      intro other assigned'
      rw [earlier.2] at assigned'
      cases assigned'
      exact named

theorem Channels.begins (sound : Sound env state) {rest : List Server}
    (grows : Grows state (endSection { state with incoming := rest } message progress))
    (phase : state.listen = .receiving) (incoming : state.incoming = message :: rest)
    (collects : Begins env.chrono state.collector message progress) :
    Channels env (endSection { state with incoming := rest } message progress) := by
  have assigned : (endSection { state with incoming := rest } message progress).assigned =
      state.assigned := by cases progress <;> rfl
  have untaken : state.listen.untaken = true := by rw [phase]; rfl
  rcases begins_channel rest phase collects with carries | unheard
  · have current := currentMessage_of_receiving phase incoming
    exact held.carry sound grows assigned carries (by rw [phase]; rfl)
      (by rw [sound.locking.free (by rw [phase]; rfl)]) (sound.arrival.current_mem current) untaken
      (by simp [visible, phase, ListenPhase.partInHand])
  · exact held.frame sound.wiring grows assigned unheard fun _ => untaken

theorem Channels.completes (sound : Sound env state)
    (grows : Grows state (endSection state message progress))
    (phase : state.listen = .collecting message rest)
    (collects : Completes state.collector message progress) :
    Channels env (endSection state message progress) := by
  have assigned : (endSection state message progress).assigned = state.assigned := by
    cases progress <;> rfl
  have untaken : state.listen.untaken = true := by rw [phase]; rfl
  rcases completes_channel env sound.locking phase collects with ⟨all, carries⟩ | unheard
  · have current := currentMessage_of_collecting phase
    exact held.carry sound grows assigned carries (by rw [phase]; rfl)
      (by rw [sound.locking.free (by rw [phase]; rfl)]) (sound.arrival.current_mem current) untaken
      all
  · exact held.frame sound.wiring grows assigned unheard fun _ => untaken

theorem Channels.listenerFinished (wiring : Wiring env state) {choice : Nat} {error : Option Error}
    {listeners : List ResponseSink} {listener : ResponseSink}
    (phase : state.listen = .finishing error listeners)
    (chosen : listeners[choice]? = some listener) :
    Channels env { state with
      collector := state.collector.deliver (listener.settle (error.elim (.ok .close) .error))
      listen := .finishing error (listeners.eraseIdx choice) } := by
  constructor
  · intro ticket unassigned
    obtain ⟨owner, user, requestId, dispatched, rfl⟩ :=
      wiring.finishing _ _ phase listener (List.mem_of_getElem? chosen)
    have other : user.sink env.sync owner ≠ .streamed ticket := by
      intro same
      rw [UserRequest.eq_of_sink_eq same] at dispatched
      cases unassigned.symm.trans dispatched.2
    refine (ResponseSink.settle_streams ..).trans ?_
    rw [if_neg other, append_nil]
    exact held.silent ticket unassigned
  · intro ticket query requestId dispatched
    obtain ⟨tail, carried, -, closing⟩ := held.carried ticket query requestId dispatched
    refine ⟨tail ++ if listener = .streamed ticket then
      [.result (error.elim (.ok .close) .error)] else [], ?_, by rintro ⟨⟩, ?_⟩
    · refine (ResponseSink.settle_streams ..).trans ?_
      rw [carried, List.append_assoc]
      simp [visible, phase, ListenPhase.partInHand]
    · intro item member
      rcases List.mem_append.mp member with member | member
      · exact closing item member
      · split_ifs at member
        · rw [List.mem_singleton.mp member]
          cases error <;> rfl
        · cases member

theorem Channels.requestTaken (sound : Sound env state) {fresh : RequestID}
    {request : TransactionRequest} {rest : List (TransactionRequest × Option ResponseSink)}
    (queue : state.requestQueue = (request, some sink) :: rest)
    (new : state.mentions fresh = false) : Channels env (state.take request sink rest fresh) := by
  obtain ⟨owner, user, called, unassigned, rfl, rfl⟩ :=
    sound.wiring.queued request sink (by simp [queue])
  unfold State.take
  rw [UserRequest.sink_ticket]
  constructor
  · intro ticket
    simp only [Function.update_apply]
    split_ifs
    · intro unregistered
      cases unregistered
    · exact held.silent ticket
  · intro ticket query requestId given
    obtain ⟨called', assigned⟩ := given
    simp only [Function.update_apply] at assigned
    split_ifs at assigned with same
    · cases assigned
      subst same
      refine ⟨[], ?_, fun _ => rfl, by simp⟩
      have empty : transcript env.chrono fresh (visible state) = [] :=
        transcript_eq_nil fun message member =>
          (not_mentions new).2 message (sound.arrival.visible_subset member)
      exact (held.silent ticket unassigned).trans (by rw [append_nil]; exact empty.symm)
    · exact held.carried ticket query requestId ⟨called', assigned⟩

end

theorem Transition.channels (sound : Sound env state) (held : Channels env state)
    (move : Transition env state label next) : Channels env next := by
  have grows := move.grows sound.wiring
  cases move with
  | requestTaken phase queue new => exact held.requestTaken sound queue new
  | begins phase incoming collects => exact held.begins sound grows phase incoming collects
  | completes phase collects => exact held.completes sound grows phase collects
  | listenerFinished phase chosen => exact held.listenerFinished sound.wiring phase chosen
  | closing phase | closingWithError phase | errorStored phase =>
    refine held.frame sound.wiring grows rfl ⟨?_, rfl⟩ fun _ => by rw [phase]; rfl
    simp [visible, phase, ListenPhase.partInHand]
  | listenersTaken phase | listenersDone phase | callbacksTaken phase | callbacksDone phase
    | callbackSent phase | handlerGone phase | callbackAnswered phase | signalled phase =>
      refine held.frame sound.wiring grows rfl ⟨?_, rfl⟩ (by rintro ⟨⟩)
      simp [visible, phase, ListenPhase.partInHand, signalShutdown]
  | aborted phase =>
    refine held.frame sound.wiring grows rfl ⟨?_, rfl⟩ (by rintro ⟨⟩)
    rcases phase with phase | ⟨error, callback, rest, phase⟩ <;>
      simp [visible, phase, ListenPhase.partInHand]
  | _ => exact held.frame sound.wiring grows rfl ⟨rfl, rfl⟩ id

structure Released (state : State) (ticket : Ticket) : Prop where
  queue : ∀ request sink, (request, some sink) ∈ state.requestQueue → sink.ticket ≠ ticket
  dispatch : ∀ request sink, state.dispatch = .registering request sink → sink.ticket ≠ ticket
  callbacks : (state.listen.holdsCollector || state.accepting) = true →
    ∀ requestId sink, state.collector.callbacks.lookup requestId = some sink →
      sink.ticket ≠ ticket
  listeners : ∀ error listeners, state.listen = .finishing error listeners →
    ∀ sink ∈ listeners, sink.ticket ≠ ticket

theorem released_of_senderAlive (gone : state.senderAlive ticket = false) :
    Released state ticket := by
  simp only [State.senderAlive, Bool.or_eq_false_iff] at gone
  obtain ⟨⟨⟨queue, dispatch⟩, callbacks⟩, listeners⟩ := gone
  constructor
  · intro request sink member same
    simp only [any_eq_false] at queue
    exact queue _ member (by simp [same])
  · intro request sink phase
    simpa [phase] using dispatch
  · intro held requestId sink found same
    rw [held, Bool.true_and, any_eq_false] at callbacks
    exact callbacks ⟨requestId, sink⟩ (AList.mem_lookup_iff.mp found) (by simp [same])
  · intro error held phase sink member same
    simp only [phase, any_eq_false] at listeners
    exact listeners sink member (by simp [same])

theorem Released.shrink (released : Released state ticket)
    (queue : ∀ request sink, (request, some sink) ∈ next.requestQueue →
      (request, some sink) ∈ state.requestQueue)
    (dispatch : ∀ request sink, next.dispatch = .registering request sink →
      state.dispatch = .registering request sink)
    (held : (next.listen.holdsCollector || next.accepting) = true →
      (state.listen.holdsCollector || state.accepting) = true)
    (callbacks : ∀ requestId sink, next.collector.callbacks.lookup requestId = some sink →
      state.collector.callbacks.lookup requestId = some sink)
    (listen : ∀ error listeners, next.listen = .finishing error listeners →
      state.listen = .finishing error listeners) : Released next ticket where
  queue request sink member := released.queue request sink (queue request sink member)
  dispatch request sink phase := released.dispatch request sink (dispatch request sink phase)
  callbacks alive requestId sink found :=
    released.callbacks (held alive) requestId sink (callbacks requestId sink found)
  listeners error listeners phase :=
    released.listeners error listeners (listen error listeners phase)

theorem held_of_dispatching {phase : DispatchPhase} (now : state.dispatch = phase)
    (running : phase.isOver = false) : (state.listen.holdsCollector || state.accepting) = true := by
  simp [State.accepting, now, running]

theorem held_of_listening {phase : ListenPhase} (now : state.listen = phase)
    (holds : phase.holdsCollector = true) :
    (state.listen.holdsCollector || state.accepting) = true := by
  simp [now, holds]

theorem Transition.released (called : state.calls[ticket]? = some ⟨user, .sent⟩)
    (released : Released state ticket) (move : Transition env state label next) :
    Released next ticket := by
  cases move with
  | @sent other request admitted accepting =>
    refine { released with queue := ?_ }
    intro request' sink member
    rcases List.mem_append.mp member with member | member
    · exact released.queue request' sink member
    · cases List.mem_singleton.mp member
      rw [UserRequest.sink_ticket]
      intro same
      subst same
      simp [called] at admitted
  | polled =>
    refine { released with queue := ?_ }
    intro request sink member
    rcases List.mem_append.mp member with member | member
    · exact released.queue request sink member
    · simp at member
  | requestTaken phase queue =>
    refine ⟨?_, ?_, fun _ => released.callbacks (held_of_dispatching phase rfl), released.listeners⟩
    · intro request sink member
      exact released.queue request sink (by rw [queue]; exact List.mem_cons_of_mem _ member)
    · intro _ _ reached
      cases reached
      exact released.queue _ _ (by rw [queue]; exact List.mem_cons_self)
  | streamTaken phase queue =>
    refine released.shrink ?_ (by rintro _ _ ⟨⟩) (fun _ => held_of_dispatching phase rfl)
      (fun _ _ => id)
      (fun _ _ => id)
    intro request sink member
    rw [queue]
    exact List.mem_cons_of_mem _ member
  | registered phase =>
    refine { released with dispatch := by rintro _ _ ⟨⟩, callbacks := ?_ }
    intro alive requestId sink found
    dsimp only at found
    rw [Collector.register_lookup] at found
    split_ifs at found
    · cases found
      exact released.dispatch _ _ phase
    · exact released.callbacks (held_of_dispatching phase rfl) requestId sink found
  | noSignal phase | noCallback phase | callbackTaken phase | callbackPushed phase | drained phase
    | buffered phase | bufferedForwarding phase | flushed phase | flushedForwarding phase =>
      exact released.shrink (fun _ _ => id) (by rintro _ _ ⟨⟩)
        (fun _ => held_of_dispatching phase rfl)
        (fun _ _ => id) (fun _ _ => id)
  | stopped | stoppedForwarding | dispatchPanicked =>
    refine released.shrink (fun _ _ member => by cases member) (by rintro _ _ ⟨⟩) ?_
      (fun _ _ => id) (fun _ _ => id)
    intro alive
    have held : (state.listen.holdsCollector || false) = true := alive
    exact held_of_listening rfl (by simpa using held)
  | @begins choice message rest progress phase incoming collects
    | @completes choice message rest progress phase collects =>
      have subset : ∀ requestId sink, progress.memory.callbacks.lookup requestId = some sink →
          state.collector.callbacks.lookup requestId = some sink :=
        fun _ _ => collects.lookup_subset
      cases progress <;>
        exact released.shrink (fun _ _ => id) (fun _ _ => id) (fun _ => held_of_listening phase rfl)
          subset (by rintro _ _ ⟨⟩)
  | listenersTaken phase =>
    refine { released with callbacks := by simp, listeners := ?_ }
    intro _ _ reached sink member
    cases reached
    obtain ⟨⟨requestId, _⟩, entry, rfl⟩ := List.mem_map.mp member
    exact released.callbacks (held_of_listening phase rfl) requestId _
      (AList.mem_lookup_iff.mpr entry)
  | listenerFinished phase chosen =>
    refine { released with
      callbacks := fun _ => released.callbacks (held_of_listening phase rfl), listeners := ?_ }
    intro _ _ reached sink member
    cases reached
    exact released.listeners _ _ phase sink (List.mem_of_mem_eraseIdx member)
  | closing phase | closingWithError phase | errorStored phase | listenersDone phase
    | callbacksTaken phase | callbacksDone phase | callbackSent phase | handlerGone phase
    | callbackAnswered phase =>
      exact released.shrink (fun _ _ => id) (fun _ _ => id) (fun _ => held_of_listening phase rfl)
        (fun _ _ => id) (by rintro _ _ ⟨⟩)
  | signalled phase =>
    refine released.shrink (fun _ _ => id) (fun _ _ => id) ?_ (fun _ _ => id) (by rintro _ _ ⟨⟩)
    intro alive
    rw [phase]
    exact alive
  | aborted phase =>
    refine released.shrink (fun _ _ => id) (fun _ _ => id) ?_ (fun _ _ => id) (by rintro _ _ ⟨⟩)
    rcases phase with phase | ⟨error, callback, rest, phase⟩ <;>
      exact fun _ => held_of_listening phase rfl
  | _ => exact { released with }

theorem Released.emitted_eq_nil (released : Released state ticket)
    (held : (state.listen.holdsCollector || state.accepting) = true) (chrono : Chrono)
    (message : Server) : emitted chrono state.collector.callbacks message ticket = [] := by
  cases named : message.requestId with
  | none => simp [emitted, named]
  | some requestId =>
    simp only [emitted, named]
    split_ifs with found
    · exact absurd rfl (released.callbacks held requestId _ found)
    · rfl

theorem Transition.streams_released (locking : Locking state) (released : Released state ticket)
    (move : Transition env state label next) :
    next.collector.receivers.streams ticket = state.collector.receivers.streams ticket := by
  cases move with
  | @begins choice message rest progress phase incoming collects =>
    rcases begins_channel rest phase collects with carries | unheard
    · rw [carries.2, released.emitted_eq_nil (held_of_listening phase rfl), append_nil]
    · rw [unheard.2]
  | completes phase collects =>
    rcases completes_channel env locking phase collects with ⟨-, carries⟩ | unheard
    · rw [carries.2, released.emitted_eq_nil (held_of_listening phase rfl), append_nil]
    · rw [unheard.2]
  | @listenerFinished choice error listeners listener phase chosen =>
    have other : listener ≠ .streamed ticket := by
      intro same
      subst same
      exact released.listeners _ _ phase _ (List.mem_of_getElem? chosen) rfl
    refine (ResponseSink.settle_streams ..).trans ?_
    rw [if_neg other, append_nil]
  | _ => rfl

end Transmitter

end TypeDBDriver
