import TypeDBDriver.Network.TransmitterInvariant

/-! When the promises of `commit` and `rollback` succeed. Both throw away which response
they got, so their success says that the server confirmed the request only in runs where
nothing but the confirmation can complete their channel. -/

namespace TypeDBDriver

open Library
open Proto.Transaction (Server Res ResInner)
open ResponseCollector (Begins Completes)
open TransactionResponse (tryFromProto)

/-- The response that the server owes a commit or a rollback. -/
def UserRequest.confirmation : UserRequest → Option ResInner
  | .commit => some .commitRes
  | .rollback => some .rollbackRes
  | .query _ => none

/-- A response of another kind that is complete in itself, as a confirmation is. -/
def Proto.Transaction.Res.misleads (res : Res) (request : UserRequest) : Bool :=
  match res.res with
  | some (.openRes _) => true
  | some .commitRes => request != .commit
  | some .rollbackRes => request != .rollback
  | some (.queryInitialRes _) | none => false

theorem reaction_initialRes_ne_settle (reqId : Bytes) (initialRes : Proto.Query.InitialRes)
    (response : TransactionResponse) :
    (⟨reqId, some (.queryInitialRes initialRes)⟩ : Res).reaction ≠ .settle (.ok response) := by
  rcases initialRes with ⟨_ | (error | (_ | header))⟩
  · simp [Res.reaction, tryFromProto]
  · simp [Res.reaction, tryFromProto]
  · simp [Res.reaction, tryFromProto]
  · cases decoded : QueryResponse.tryFromProtoOk header <;>
      simp [Res.reaction, tryFromProto, decoded]

theorem confirmation_of_reaction {res : Res} {response : TransactionResponse}
    {request : UserRequest} (reacts : res.reaction = .settle (.ok response))
    (honest : res.misleads request = false) : res.res = request.confirmation := by
  rcases res with ⟨reqId, _ | _ | _ | _ | initialRes⟩
  · cases reacts
  · cases honest
  · cases request <;> first | rfl | cases honest
  · cases request <;> first | rfl | cases honest
  · exact absurd reacts (reaction_initialRes_ne_settle reqId initialRes response)

variable {value : Result TransactionResponse} {ticket : Ticket}

theorem ResponseSink.settle_oneShots {sink : ResponseSink} {result : Result TransactionResponse}
    {receivers : Receivers TransactionResponse}
    (arrived : (sink.settle result receivers).oneShots ticket = some value) :
    receivers.oneShots ticket = some value ∨
      (sink.ticket = ticket ∧ sink.isStreamed = false ∧ value = result) := by
  cases sink with
  | immediateOneShot handler => cases result <;> exact .inl arrived
  | streamed sender => cases result <;> exact .inl arrived
  | asyncOneShot sender | blockingOneShot sender =>
    have arrived : (receivers.sendOneShot sender result).oneShots ticket = some value := by
      cases result <;> exact arrived
    rw [Receivers.sendOneShot_oneShots_apply] at arrived
    split_ifs at arrived with same
    · exact .inr ⟨same.symm, rfl, (Option.some.inj arrived).symm⟩
    · exact .inl arrived

variable {memory : Collector} {message : Server} {progress : Progress Collector PanicCause Unit}

theorem ResponseCollector.Begins.oneShots {chrono : Chrono}
    (collects : Begins chrono memory message progress) :
    progress.memory.receivers.oneShots = memory.receivers.oneShots := by
  cases collects with
  | @removed part report => cases report <;> rfl
  | _ => rfl

theorem ResponseCollector.Completes.oneShots (collects : Completes memory message progress)
    (arrived : progress.memory.receivers.oneShots ticket = some value) :
    memory.receivers.oneShots ticket = some value ∨
      ∃ res sink lock after, message = ⟨some (.res res)⟩ ∧
        memory.callbacks.lookup ⟨res.reqId⟩ = some sink ∧ sink.ticket = ticket ∧
        sink.isStreamed = false ∧ res.reaction = .settle value ∧
        progress = .finished () lock after := by
  cases collects with
  | missing absent kept => rcases kept with rfl | rfl <;> exact .inl arrived
  | @settled res sink result found reacts =>
    rcases ResponseSink.settle_oneShots arrived with earlier | ⟨same, single, rfl⟩
    · exact .inl earlier
    · exact .inr ⟨res, sink, _, _, rfl, found, same, single, reacts, rfl⟩
  | emitted | oneShot | unregistered => exact .inl arrived

namespace Transmitter

variable {env : Environment} {state next : State} {label : Label}

def Confirmed (state : State) (ticket : Ticket) : Prop :=
  ∃ request requestId, Dispatched state ticket request requestId ∧
    (⟨some (.res ⟨requestId.bytes, request.confirmation⟩)⟩ : Server) ∈ state.collected

/-- A clean end of the stream finds no commit and no rollback in the map, and no response
of another kind names one. -/
def confirms (state : State) : Label → Bool
  | .listen _ =>
    match state.listen with
    | .takingListeners none => state.collector.callbacks.entries.all (·.2.isStreamed)
    | .collecting ⟨some (.res res)⟩ _ =>
      (state.collector.callbacks.lookup ⟨res.reqId⟩).all fun sink =>
        sink.isStreamed ||
          (state.calls[sink.ticket]?).all fun call => !res.misleads call.request
    | _ => true
  | _ => true

structure Accounted (state : State) : Prop where
  answered : ∀ ticket response,
    state.collector.receivers.oneShots ticket = some (.ok response) → Confirmed state ticket
  streamed : ∀ listeners, state.listen = .finishing none listeners →
    ∀ sink ∈ listeners, sink.isStreamed = true

theorem accounted_initial : Accounted {} where
  answered _ _ arrived := by cases arrived
  streamed _ phase := by cases phase

variable {ticket : Ticket}

theorem Confirmed.grows (confirmed : Confirmed state ticket) (grows : Grows state next) :
    Confirmed next ticket := by
  obtain ⟨request, requestId, dispatched, collected⟩ := confirmed
  exact ⟨request, requestId, dispatched.grows grows, grows.collected collected⟩

theorem Accounted.frame (held : Accounted state) (grows : Grows state next)
    (same : next.collector.receivers.oneShots = state.collector.receivers.oneShots)
    (listen : ∀ listeners, next.listen = .finishing none listeners →
      state.listen = .finishing none listeners) : Accounted next where
  answered ticket response arrived :=
    (held.answered ticket response (by rw [← same]; exact arrived)).grows grows
  streamed listeners phase := held.streamed listeners (listen listeners phase)

variable {message : Server} {progress : Progress Collector PanicCause Unit}

theorem Accounted.begins (held : Accounted state) {rest : List Server}
    (grows : Grows state (endSection { state with incoming := rest } message progress))
    (collects : Begins env.chrono state.collector message progress) :
    Accounted (endSection { state with incoming := rest } message progress) := by
  have same := collects.oneShots
  cases progress <;> exact held.frame grows same (by rintro _ ⟨⟩)

variable {choice : Nat}

theorem Accounted.completes (held : Accounted state) (wiring : Wiring env state)
    {rest : Action Unit} (grows : Grows state (endSection state message progress))
    (confirms : confirms state (.listen choice) = true)
    (phase : state.listen = .collecting message rest)
    (collects : Completes state.collector message progress) :
    Accounted (endSection state message progress) := by
  constructor
  · intro ticket response arrived
    have arrived : progress.memory.receivers.oneShots ticket = some (.ok response) := by
      cases progress <;> exact arrived
    rcases collects.oneShots arrived with
      earlier | ⟨res, sink, lock, after, rfl, found, rfl, single, reacts, rfl⟩
    · exact (held.answered ticket response earlier).grows grows
    · obtain ⟨ticket, request, dispatched, rfl⟩ := wiring.callbacks _ _ found
      have honest : res.misleads request = false := by
        rw [UserRequest.sink_isStreamed] at single
        simpa [Transmitter.confirms, phase, found, dispatched.1, single] using confirms
      refine ⟨request, ⟨res.reqId⟩, ?_, ?_⟩
      · simpa using dispatched.grows grows
      · rw [← confirmation_of_reaction reacts honest]
        exact List.mem_append_right _ (List.mem_singleton.mpr rfl)
  · cases progress <;> rintro _ ⟨⟩

variable {error : Option Error}

theorem Accounted.listenersTaken (held : Accounted state)
    (confirms : confirms state (.listen choice) = true)
    (phase : state.listen = .takingListeners error) :
    Accounted { state with
      collector := { state.collector with callbacks := ∅ }
      listen := .finishing error (state.collector.callbacks.entries.map (·.2)) } := by
  refine ⟨held.answered, ?_⟩
  intro _ reached sink member
  cases reached
  simp only [Transmitter.confirms, phase, List.all_eq_true] at confirms
  obtain ⟨entry, held, rfl⟩ := List.mem_map.mp member
  exact confirms entry held

/-- Where the stream ended with an error every listener gets that error; where it ended
cleanly no one-shot listener is left. -/
theorem Accounted.listenerFinished (held : Accounted state) {listeners : List ResponseSink}
    {listener : ResponseSink} (phase : state.listen = .finishing error listeners)
    (chosen : listeners[choice]? = some listener) :
    Accounted { state with
      collector := state.collector.deliver (listener.settle (error.elim (.ok .close) .error))
      listen := .finishing error (listeners.eraseIdx choice) } := by
  constructor
  · intro ticket response arrived
    rcases ResponseSink.settle_oneShots arrived with earlier | ⟨-, single, value⟩
    · exact held.answered ticket response earlier
    · cases error with
      | none =>
        have streamed := held.streamed listeners phase listener (List.mem_of_getElem? chosen)
        simp [single] at streamed
      | some error => cases value
  · intro _ reached sink member
    cases reached
    exact held.streamed listeners phase sink (List.mem_of_mem_eraseIdx member)

theorem Transition.accounted (sound : Sound env state) (held : Accounted state)
    (confirms : confirms state label = true) (move : Transition env state label next) :
    Accounted next := by
  have grows := move.grows sound.wiring
  cases move with
  | begins phase incoming collects => exact held.begins grows collects
  | completes phase collects => exact held.completes sound.wiring grows confirms phase collects
  | listenersTaken phase => exact held.listenersTaken confirms phase
  | listenerFinished phase chosen => exact held.listenerFinished phase chosen
  | closing | closingWithError | errorStored | listenersDone | callbacksTaken | callbacksDone
    | callbackSent | handlerGone | callbackAnswered | signalled | aborted =>
      exact held.frame grows rfl (by rintro _ ⟨⟩)
  | _ => exact held.frame grows rfl (fun _ => id)

theorem oneShot_of_promise (resolved : promise state ticket = some (.ok ())) :
    ∃ response, state.collector.receivers.oneShots ticket = some (.ok response) := by
  unfold promise at resolved
  split at resolved
  case h_3 =>
    split at resolved
    case h_1 result arrived =>
      cases result with
      | ok response => exact ⟨response, arrived⟩
      | error cause => cases resolved
    case h_2 => split at resolved <;> cases resolved
  all_goals cases resolved

/-- In runs that meet the condition, the promise of a commit succeeds only if its
`CommitRes` was collected, and that of a rollback only if its `RollbackRes` was. -/
theorem promise_succeeds_only_if_confirmed (env : Environment) {labels : List Label} {state : State}
    (meets : (system env).Meets (fun state label => confirms state label = true) {} labels)
    (ran : (system env).run {} labels = some state) (ticket : Ticket) (phase : CallPhase)
    (resolved : promise state ticket = some (.ok ())) :
    (state.calls[ticket]? = some ⟨.commit, phase⟩ →
      ∃ requestId, state.assigned ticket = some requestId ∧
        (⟨some (.res ⟨requestId.bytes, some .commitRes⟩)⟩ : Server) ∈ state.collected) ∧
    (state.calls[ticket]? = some ⟨.rollback, phase⟩ →
      ∃ requestId, state.assigned ticket = some requestId ∧
        (⟨some (.res ⟨requestId.bytes, some .rollbackRes⟩)⟩ : Server) ∈ state.collected) := by
  obtain ⟨-, accounted⟩ := sound_run_invariant
    (fun sound held confirms move => move.accounted sound held confirms)
    accounted_initial meets ran
  obtain ⟨response, arrived⟩ := oneShot_of_promise resolved
  obtain ⟨request, requestId, ⟨called, assigned⟩, collected⟩ :=
    accounted.answered ticket response arrived
  constructor
  · intro commit
    cases called.symm.trans commit
    exact ⟨requestId, assigned, collected⟩
  · intro rollback
    cases called.symm.trans rollback
    exact ⟨requestId, assigned, collected⟩

theorem promise_succeeds_only_if_confirmed_commit :
    ∃ state, (system .basic).run {} commitRun = some state ∧
      promise state 0 = some (.ok ()) ∧ state.assigned 0 = some ⟨[7]⟩ ∧
      ∃ requestId, state.assigned 0 = some requestId ∧
        (⟨some (.res ⟨requestId.bytes, some .commitRes⟩)⟩ : Server) ∈ state.collected := by
  have meets : (system .basic).Meets (fun state label => confirms state label = true) {}
      commitRun := by decide
  exact ⟨_, rfl, rfl, rfl, (promise_succeeds_only_if_confirmed .basic meets rfl 0 .sent rfl).1 rfl⟩

/-- The server closes the stream after it has read the commit, without a word. -/
def unansweredCommitRun : List Label :=
  requestRun 0 .commit ⟨[7]⟩ ++ [.endStream, .listen 0, .listen 0, .listen 0]

theorem promise_succeeds_unconfirmed :
    ∃ state, (system .basic).run {} unansweredCommitRun = some state ∧
      promise state 0 = some (.ok ()) ∧ state.sent = [] ∧ state.collected = [] :=
  ⟨_, rfl, rfl, rfl, rfl⟩

end Transmitter

end TypeDBDriver
