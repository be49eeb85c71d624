import TypeDBDriver.Transaction.AnswerProperties

/-! When the end of an answer stream means that the answer is complete. The stream ends as
soon as no sender of its channel is left, so every way in which a sender is lost has to
leave an error on the channel, unless the server said that it was done. -/

namespace TypeDBDriver

open Library
open Proto.Transaction (Server Res ResPart)
open ResponseCollector (Begins Completes)

namespace Proto.Transaction.Server

def malformed (message : Server) : Bool :=
  match message.server with
  | some (.resPart part) => !part.wellFormed
  | _ => false

abbrev streamDone (requestId : RequestID) : Server :=
  ⟨some (.resPart ⟨requestId.bytes, some (.streamRes (some .done))⟩)⟩

end Proto.Transaction.Server

theorem done_of_remove {chrono : Chrono} {part : ResPart} {report : Option Error}
    (wellFormed : part.wellFormed = true) (reacts : part.reaction chrono = .remove report) :
    (⟨some (.resPart part)⟩ : Server) = .streamDone ⟨part.reqId⟩ := by
  rcases part with ⟨reqId, _ | queryRes | (_ | _ | _ | error)⟩
  · cases wellFormed
  · cases decoded : TransactionResponse.tryFromProtoPart chrono queryRes <;>
      simp [ResPart.reaction, decoded] at reacts
  · cases wellFormed
  · cases reacts
  · rfl
  · cases reacts

theorem fails_of_settle {res : Res} {result : Result TransactionResponse}
    (reacts : res.reaction = .settle result) : (StreamResponse.result result).fails = true := by
  cases decoded : TransactionResponse.tryFromProto res with
  | panicked => simp [Res.reaction, decoded] at reacts
  | error cause =>
    simp [Res.reaction, decoded] at reacts
    subst reacts
    rfl
  | ok response =>
    cases response with
    | query => simp [Res.reaction, decoded] at reacts
    | «open» | commit | rollback | close =>
      simp [Res.reaction, decoded] at reacts
      subst reacts
      rfl

namespace Transmitter

variable {env : Environment} {state next : State} {label : Label}

/-- The server said that the answer is complete, or there is a failure on the channel. -/
def Concluded (state : State) (ticket : Ticket) (requestId : RequestID) : Prop :=
  Server.streamDone requestId ∈ state.collected ∨
    ∃ item ∈ state.collector.receivers.streams ticket, item.fails = true

/-- Nothing has arrived yet, or the sender of the channel is in the map or with the closing
listener, or the exchange is concluded. -/
def Located (state : State) (ticket : Ticket) (requestId : RequestID) : Prop :=
  state.collector.receivers.streams ticket = [] ∨
  (state.collector.callbacks.lookup requestId = some (.streamed ticket) ∧
    state.listen.untaken = true) ∨
  (∃ error listeners, state.listen = .finishing error listeners ∧ .streamed ticket ∈ listeners) ∨
  Concluded state ticket requestId

/-- No registered query gets a malformed part, no message ends the listener, and the
runtime does not end it while the map holds a query. -/
def conclusive (env : Environment) (state : State) : Label → Bool
  | .listen _ =>
    (currentMessage state).all fun message => message.requestId.all fun requestId =>
      (state.collector.callbacks.lookup requestId).all fun sink =>
        !(sink.isStreamed && message.malformed) && !message.crashes env.chrono sink
  | .shutdownRuntime =>
    !state.listen.untaken || state.collector.callbacks.entries.all (!·.2.isStreamed)
  | _ => true

variable {choice : Nat} {message : Server} {requestId : RequestID} {sink : ResponseSink}

theorem conclusive_spec (conclusive : conclusive env state (.listen choice) = true)
    (current : currentMessage state = some message) (named : message.requestId = some requestId)
    (found : state.collector.callbacks.lookup requestId = some sink) :
    (sink.isStreamed = false ∨ message.malformed = false) ∧
      message.crashes env.chrono sink = false := by
  simpa [Transmitter.conclusive, current, named, found] using conclusive

variable {ticket : Ticket}

theorem Concluded.grows (concluded : Concluded state ticket requestId)
    (collected : state.collected ⊆ next.collected)
    {more : List (StreamResponse TransactionResponse)}
    (streams : next.collector.receivers.streams ticket =
      state.collector.receivers.streams ticket ++ more) : Concluded next ticket requestId := by
  rcases concluded with done | ⟨item, member, fails⟩
  · exact .inl (collected done)
  · refine .inr ⟨item, ?_, fails⟩
    rw [streams]
    exact List.mem_append_left _ member

theorem Located.frame (located : Located state ticket requestId) (grows : Grows state next)
    (streams : next.collector.receivers.streams ticket =
      state.collector.receivers.streams ticket)
    (callbacks : state.collector.callbacks.lookup requestId = some (.streamed ticket) →
      state.listen.untaken = true →
      next.collector.callbacks.lookup requestId = some (.streamed ticket) ∧
        next.listen.untaken = true)
    (listen : ∀ error listeners, state.listen = .finishing error listeners →
      .streamed ticket ∈ listeners → next.listen = .finishing error listeners) :
    Located next ticket requestId := by
  rcases located with empty | ⟨found, untaken⟩ | ⟨error, listeners, phase, member⟩ | concluded
  · exact .inl (streams.trans empty)
  · exact .inr (.inl (callbacks found untaken))
  · exact .inr (.inr (.inl ⟨error, listeners, listen error listeners phase member, member⟩))
  · exact .inr (.inr (.inr (concluded.grows grows.collected
      (streams.trans (List.append_nil _).symm))))

variable {query : QueryRequest}

theorem Located.collect (located : Located state ticket requestId) (wiring : Wiring env state)
    (dispatched : Dispatched state ticket (.query query) requestId) (grows : Grows state next)
    (effect : Carries env state message next ∨ Unheard state next)
    (open' : ∀ error listeners, state.listen ≠ .finishing error listeners)
    (kept : state.collector.callbacks.lookup requestId = some (.streamed ticket) →
      (next.collector.callbacks.lookup requestId = some (.streamed ticket) ∧
        next.listen.untaken = true) ∨ Concluded next ticket requestId) :
    Located next ticket requestId := by
  have grown : ∃ more, next.collector.receivers.streams ticket =
      state.collector.receivers.streams ticket ++ more := by
    rcases effect with carries | unheard
    · exact ⟨_, carries.2 ticket⟩
    · exact ⟨[], by rw [unheard.2, List.append_nil]⟩
  by_cases found : state.collector.callbacks.lookup requestId = some (.streamed ticket)
  · exact .inr ((kept found).imp id .inr)
  rcases located with empty | ⟨held, -⟩ | ⟨error, listeners, phase, -⟩ | concluded
  · refine .inl ?_
    rcases effect with carries | unheard
    · have nothing : emitted env.chrono state.collector.callbacks message ticket = [] := by
        cases named : message.requestId with
        | none => simp [emitted, named]
        | some other =>
          simp only [emitted, named]
          split_ifs with held
          · obtain ⟨owner, user, dispatched', same⟩ := wiring.callbacks _ _ held
            obtain rfl := UserRequest.eq_of_sink_eq same.symm
            cases dispatched.2.symm.trans dispatched'.2
            exact absurd held found
          · rfl
      rw [carries.2, empty, nothing, List.append_nil]
    · rw [unheard.2, empty]
  · exact absurd held found
  · exact absurd phase (open' error listeners)
  · obtain ⟨more, streams⟩ := grown
    exact .inr (.inr (.inr (concluded.grows grows.collected streams)))

variable {progress : Progress Collector PanicCause Unit}

theorem Located.begins {rest : List Server} (located : Located state ticket requestId)
    (wiring : Wiring env state) (dispatched : Dispatched state ticket (.query query) requestId)
    (grows : Grows state (endSection { state with incoming := rest } message progress))
    (conclusive : conclusive env state (.listen choice) = true) (phase : state.listen = .receiving)
    (incoming : state.incoming = message :: rest)
    (collects : Begins env.chrono state.collector message progress) :
    Located (endSection { state with incoming := rest } message progress) ticket requestId := by
  have current := currentMessage_of_receiving phase incoming
  refine located.collect wiring dispatched grows (begins_channel rest phase collects)
    (by simp [phase]) fun found => ?_
  cases progress with
  | paused | deadlocked =>
    have same := collects.unfinished_callbacks (by rintro _ _ _ ⟨⟩)
    refine .inl ⟨?_, rfl⟩
    rw [← found, ← same]
    rfl
  | finished result lock memory =>
    cases collects with
    | ignored | unknown | emitted => exact .inl ⟨found, rfl⟩
    | @removed part report reacts =>
      by_cases same : requestId = ⟨part.reqId⟩
      · subst same
        have wellFormed := (conclusive_spec conclusive current rfl found).1
        simp only [ResponseSink.isStreamed, Server.malformed, Bool.true_eq_false, false_or,
          Bool.not_eq_false'] at wellFormed
        refine .inr (.inl ?_)
        rw [← done_of_remove wellFormed reacts]
        exact List.mem_append_right _ (List.mem_singleton.mpr rfl)
      · refine .inl ⟨?_, rfl⟩
        have kept : (state.collector.remove ⟨part.reqId⟩).callbacks.lookup requestId =
            some (.streamed ticket) := by
          rw [Collector.remove_lookup, if_neg same, found]
        cases report <;> exact kept
  | panicked cause lock memory =>
    obtain ⟨other, sink, named, held, crashes⟩ := collects.crashes
    cases (conclusive_spec conclusive current named held).2.symm.trans crashes

variable {rest : Action Unit}

/-- When the part that ends a stream with an error is removed from the map, its error is
on the channel. -/
theorem concluded_of_unregistering (sound : Sound env state) (channels : Channels env state)
    {reqId : Bytes} {error : Proto.Error}
    (dispatched : Dispatched state ticket (.query query) ⟨reqId⟩)
    (phase : state.listen = .collecting (.streamError reqId error) rest)
    (found : state.collector.callbacks.lookup ⟨reqId⟩ = some (.streamed ticket)) :
    ∃ item ∈ state.collector.receivers.streams ticket, item.fails = true := by
  obtain ⟨tail, carried, -, -⟩ := channels.carried ticket query ⟨reqId⟩ dispatched
  have running := sound.exchanges.live _ _ found
  refine ⟨.result (.ok (.query (QueryResponse.fromProto error))), ?_, rfl⟩
  rw [carried, visible, phase]
  refine List.mem_append_left _ ?_
  rw [ListenPhase.partInHand, transcript_append running, transcript_singleton]
  exact List.mem_append_right _ (by simp [Server.requestId, Server.reaction, ResPart.reaction,
    Reaction.items])

theorem Located.completes (located : Located state ticket requestId) (sound : Sound env state)
    (channels : Channels env state) (dispatched : Dispatched state ticket (.query query) requestId)
    (grows : Grows state (endSection state message progress))
    (conclusive : conclusive env state (.listen choice) = true)
    (phase : state.listen = .collecting message rest)
    (collects : Completes state.collector message progress) :
    Located (endSection state message progress) ticket requestId := by
  have current := currentMessage_of_collecting phase
  have effect := (completes_channel env sound.locking phase collects).imp (·.2) id
  refine located.collect sound.wiring dispatched grows effect (by simp [phase]) fun found => ?_
  cases progress with
  | paused | deadlocked => cases collects
  | panicked cause lock memory =>
    obtain ⟨other, sink, named, held, crashes⟩ :=
      collects.crashes (sound.locking.registeredResponse phase)
    cases (conclusive_spec conclusive current named held).2.symm.trans crashes
  | finished result lock memory =>
    cases collects with
    | emitted => exact .inl ⟨found, rfl⟩
    | @settled res sink result held reacts =>
      by_cases same : requestId = ⟨res.reqId⟩
      · subst same
        obtain rfl := Option.some.inj (held.symm.trans found)
        refine .inr (.inr ⟨.result result, ?_, fails_of_settle reacts⟩)
        have delivered : (endSection state ⟨some (.res res)⟩ (.finished () {}
            ((state.collector.remove ⟨res.reqId⟩).deliver
              (ResponseSink.settle (.streamed ticket) result)))).collector.receivers.streams
              ticket =
            _ := ResponseSink.settle_streams ..
        rw [delivered, if_pos rfl]
        exact List.mem_append_right _ (List.mem_singleton.mpr rfl)
      · refine .inl ⟨?_, rfl⟩
        exact (Collector.remove_lookup ..).trans (by rw [if_neg same, found])
    | @unregistered reqId error =>
      by_cases same : requestId = ⟨reqId⟩
      · subst same
        have concluded := concluded_of_unregistering sound channels dispatched phase found
        exact .inr (.inr concluded)
      · refine .inl ⟨?_, rfl⟩
        exact (Collector.remove_lookup ..).trans (by rw [if_neg same, found])

variable {listeners : List ResponseSink} {listener : ResponseSink}

theorem mem_eraseIdx_of_ne (chosen : listeners[choice]? = some listener) (member : sink ∈ listeners)
    (other : listener ≠ sink) : sink ∈ listeners.eraseIdx choice := by
  obtain ⟨index, held⟩ := List.mem_iff_getElem?.mp member
  refine List.mem_eraseIdx_iff_getElem?.mpr ⟨index, ?_, held⟩
  intro same
  subst same
  exact other (Option.some.inj (chosen.symm.trans held))

variable {error : Option Error}

theorem Located.listenersTaken (located : Located state ticket requestId)
    (phase : state.listen = .takingListeners error) :
    Located { state with
      collector := { state.collector with callbacks := ∅ }
      listen := .finishing error (state.collector.callbacks.entries.map (·.2)) }
      ticket requestId := by
  rcases located with empty | ⟨found, -⟩ | ⟨error', listeners, phase', -⟩ | concluded
  · exact .inl empty
  · refine .inr (.inr (.inl ⟨_, _, rfl, ?_⟩))
    exact List.mem_map_of_mem (AList.mem_lookup_iff.mp found)
  · cases phase.symm.trans phase'
  · exact .inr (.inr (.inr concluded))

theorem Located.aborted (located : Located state ticket requestId)
    (conclusive : conclusive env state .shutdownRuntime = true) (phase : state.listen = .receiving ∨
      ∃ error callback rest, state.listen = .awaiting error callback rest) :
    Located { state with listen := .aborted } ticket requestId := by
  rcases located with empty | ⟨found, untaken⟩ | ⟨error, listeners, phase', -⟩ | concluded
  · exact .inl empty
  · simp only [Transmitter.conclusive, untaken, Bool.not_true, Bool.false_or, List.all_eq_true]
      at conclusive
    cases conclusive _ (AList.mem_lookup_iff.mp found)
  · rcases phase with phase | ⟨_, _, _, phase⟩ <;> cases phase.symm.trans phase'
  · exact .inr (.inr (.inr concluded))

theorem Located.listenerFinished (located : Located state ticket requestId)
    (phase : state.listen = .finishing error listeners)
    (chosen : listeners[choice]? = some listener) :
    Located { state with
      collector := state.collector.deliver (listener.settle (error.elim (.ok .close) .error))
      listen := .finishing error (listeners.eraseIdx choice) } ticket requestId := by
  have delivered := ResponseSink.settle_streams listener (error.elim (.ok .close) .error)
    state.collector.receivers ticket
  by_cases same : listener = .streamed ticket
  · rw [if_pos same] at delivered
    refine .inr (.inr (.inr (.inr ⟨.result (error.elim (.ok .close) .error), ?_, ?_⟩)))
    · exact delivered ▸ List.mem_append_right _ (List.mem_singleton.mpr rfl)
    · cases error <;> rfl
  · rw [if_neg same, List.append_nil] at delivered
    rcases located with empty | ⟨-, untaken⟩ | ⟨error', listeners', phase', member⟩ | concluded
    · exact .inl (delivered.trans empty)
    · rw [phase] at untaken
      cases untaken
    · cases phase.symm.trans phase'
      exact .inr (.inr (.inl ⟨_, _, rfl, mem_eraseIdx_of_ne chosen member same⟩))
    · exact .inr (.inr (.inr (concluded.grows (List.Subset.refl _)
        (delivered.trans (List.append_nil _).symm))))

def Tracked (state : State) : Prop :=
  ∀ ticket query requestId, Dispatched state ticket (.query query) requestId →
    Located state ticket requestId

theorem Tracked.requestTaken (held : Tracked state) (wiring : Wiring env state)
    (channels : Channels env state) {fresh : RequestID} {request : TransactionRequest}
    {rest : List (TransactionRequest × Option ResponseSink)}
    (queue : state.requestQueue = (request, some sink) :: rest)
    (grows : Grows state (state.take request sink rest fresh)) :
    Tracked (state.take request sink rest fresh) := by
  obtain ⟨owner, user, called, unassigned, rfl, rfl⟩ :=
    wiring.queued request sink (by simp [queue])
  unfold State.take at grows ⊢
  intro ticket query requestId given
  obtain ⟨called', assigned⟩ := given
  by_cases same : ticket = owner
  · subst same
    exact .inl (channels.silent ticket unassigned)
  · simp only [UserRequest.sink_ticket, Function.update_of_ne same] at assigned
    exact (held ticket query requestId ⟨called', assigned⟩).frame grows rfl
      (fun found untaken => ⟨found, untaken⟩) (fun _ _ phase _ => phase)

theorem Located.registered {request : Proto.Transaction.Req}
    (located : Located state ticket requestId) (wiring : Wiring env state)
    (dispatched : Dispatched state ticket (.query query) requestId)
    (phase : state.dispatch = .registering request sink) :
    Located { state with
      collector := state.collector.register ⟨request.reqId⟩ sink
      dispatch := .buffering request } ticket requestId := by
  refine located.frame { Grows.refl state with } rfl (fun found untaken => ⟨?_, untaken⟩)
    (fun _ _ phase _ => phase)
  dsimp only
  rw [Collector.register_lookup]
  split_ifs with same
  · obtain ⟨owner, user, own, dispatched', rfl, rfl⟩ := wiring.registering request sink phase
    rw [UserRequest.intoProto_reqId] at same
    subst same
    obtain rfl := wiring.distinct owner ticket _ dispatched'.2 dispatched.2
    cases dispatched'.1.symm.trans dispatched.1
    rfl
  · exact found

theorem Transition.tracked (sound : Sound env state) (channels : Channels env state)
    (held : Tracked state) (conclusive : conclusive env state label = true)
    (move : Transition env state label next) : Tracked next := by
  have grows := move.grows sound.wiring
  cases move with
  | requestTaken phase queue => exact held.requestTaken sound.wiring channels queue grows
  | registered phase =>
    intro ticket query requestId dispatched
    exact (held ticket query requestId dispatched).registered sound.wiring dispatched phase
  | @begins choice message rest progress phase incoming collects =>
    intro ticket query requestId dispatched
    have assigned : state.assigned ticket = some requestId := by
      cases progress <;> exact dispatched.2
    have earlier := dispatched.of_grows sound.wiring grows assigned
    exact (held ticket query requestId earlier).begins sound.wiring earlier grows conclusive phase
      incoming collects
  | @completes choice message rest progress phase collects =>
    intro ticket query requestId dispatched
    have assigned : state.assigned ticket = some requestId := by
      cases progress <;> exact dispatched.2
    have earlier := dispatched.of_grows sound.wiring grows assigned
    exact (held ticket query requestId earlier).completes sound channels earlier grows conclusive
      phase collects
  | listenerFinished phase chosen =>
    intro ticket query requestId dispatched
    exact (held ticket query requestId dispatched).listenerFinished phase chosen
  | listenersTaken phase =>
    intro ticket query requestId dispatched
    exact (held ticket query requestId dispatched).listenersTaken phase
  | aborted phase =>
    intro ticket query requestId dispatched
    exact (held ticket query requestId dispatched).aborted conclusive phase
  | closing phase | closingWithError phase | errorStored phase =>
    intro ticket query requestId dispatched
    exact (held ticket query requestId dispatched).frame grows rfl
      (fun found _ => ⟨found, rfl⟩) (by simp [phase])
  | listenersDone phase | callbacksTaken phase | callbacksDone phase | callbackSent phase
    | handlerGone phase | callbackAnswered phase | signalled phase =>
      intro ticket query requestId dispatched
      exact (held ticket query requestId dispatched).frame grows rfl
        (by simp [phase, ListenPhase.untaken]) (by simp [phase])
  | _ =>
    intro ticket query requestId dispatched
    have earlier := dispatched.of_grows sound.wiring grows dispatched.2
    exact (held ticket query requestId earlier).frame grows rfl
      (fun found untaken => ⟨found, untaken⟩) (fun _ _ phase _ => phase)

theorem Located.concluded (located : Located state ticket requestId)
    (released : Released state ticket) (arrived : state.collector.receivers.streams ticket ≠ []) :
    Concluded state ticket requestId := by
  rcases located with empty | ⟨found, untaken⟩ | ⟨error, listeners, phase, member⟩ | concluded
  · exact absurd empty arrived
  · have held : state.listen.holdsCollector = true := by
      cases phase : state.listen <;> first | rfl | simp [phase, ListenPhase.untaken] at untaken
    exact absurd rfl (released.callbacks (held_of_listening rfl held) requestId _ found)
  · exact absurd rfl (released.listeners error listeners phase _ member)
  · exact concluded

/-- In runs that meet the condition, an answer stream that ends without an error ends
because the server said that it was done. -/
theorem answer_stream_ends_only_when_done (env : Environment) {labels : List Label} {state : State}
    (meets : (system env).Meets (fun state label => conclusive env state label = true) {} labels)
    (ran : (system env).run {} labels = some state) (ticket : Ticket) {query : QueryRequest}
    {requestId : RequestID} {header : AnswerHeader}
    (called : state.calls[ticket]? = some ⟨.query query, .sent⟩)
    (assigned : state.assigned ticket = some requestId)
    (streaming : (state.consumers ticket).phase = .streaming header)
    (ended : (state.consumers ticket).ended = true)
    (clean : (state.consumers ticket).yielded.all (·.isOk) = true) :
    Server.streamDone requestId ∈ state.collected := by
  obtain ⟨-, consumers, tracked⟩ := sound_run_invariant
    (fun sound (held : Consumers env _ ∧ Tracked _) conclusive move =>
      ⟨move.consumers sound held.1, move.tracked sound held.1.channels held.2 conclusive⟩)
    ⟨consumers_initial env, fun _ _ _ dispatched => by cases dispatched.2⟩ meets ran
  obtain ⟨-, released, all, empty⟩ := consumers.reading.settled ticket ended
  have reads := consumers.reading.reads ticket
  have opened := List.mem_of_mem_take (reads.streaming header streaming).1
  rcases (tracked ticket query requestId ⟨called, assigned⟩).concluded released
    (List.ne_nil_of_mem opened) with done | ⟨item, member, fails⟩
  · exact done
  · rw [← List.take_length (l := state.collector.receivers.streams ticket), ← all] at member
    obtain ⟨cause, reported⟩ := reads.reported header streaming item member fails
    rw [empty, List.append_nil] at reported
    cases List.all_eq_true.mp clean _ reported

theorem answer_stream_ends_only_when_done_row :
    ∃ state, (system .basic).run {} answeredQueryRun = some state ∧
      (state.consumers 0).ended = true ∧ Server.streamDone ⟨[7]⟩ ∈ state.collected := by
  have meets : (system .basic).Meets (fun state label => conclusive .basic state label = true) {}
      answeredQueryRun := by decide
  refine ⟨_, rfl, rfl, ?_⟩
  have ran : (system .basic).run {} answeredQueryRun = some _ := rfl
  exact answer_stream_ends_only_when_done .basic meets ran 0 rfl rfl rfl rfl rfl

/-- After one row the server sends a signal without a state. -/
def truncatedQueryRun : List Label :=
  openedQueryRun ++ rowStep ++ partStep (some (.streamRes none)) ++ List.replicate 3 (.poll 0)

theorem answer_stream_ends_truncated :
    ∃ state, (system .basic).run {} truncatedQueryRun = some state ∧
      (state.consumers 0).phase = .streaming (.rows ⟨["x"], .readQuery⟩) ∧
      (state.consumers 0).ended = true ∧
      (state.consumers 0).yielded = [.ok (.row ⟨⟨["x"], .readQuery⟩, [none]⟩)] ∧
      state.collected.any (·.closes ⟨[7]⟩) = false :=
  ⟨_, rfl, rfl, rfl, rfl, rfl⟩

end Transmitter

end TypeDBDriver
