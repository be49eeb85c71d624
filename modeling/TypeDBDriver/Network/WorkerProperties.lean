import TypeDBDriver.Network.OnCloseProperties

/-! How the two loops of a transaction end, and what is left behind: no caller waits for an
answer that nobody can give any more, and a loop that ends early has sent to a channel whose
receiver was gone. -/

namespace TypeDBDriver

open Library

namespace CallPhase

def hasReturned : CallPhase → Bool
  | .admitted | .refused => false
  | .rejected _ | .unsent | .sent => true

def isRefused : CallPhase → Bool
  | .refused | .rejected _ => true
  | _ => false

end CallPhase

namespace Transmitter

variable {env : Environment} {state next : State} {label : Label}

theorem accepting_eq_false : state.accepting = false ↔ state.dispatch.isOver = true := by
  simp [State.accepting]

theorem Transition.dispatch_of_over (move : Transition env state label next)
    (ended : state.dispatch.isOver = true) : next.dispatch = state.dispatch := by
  cases move with
  | noSignal phase | stopped phase | stoppedForwarding phase | noCallback phase
    | callbackTaken phase | callbackPushed phase | drained phase | requestTaken phase
    | streamTaken phase | registered phase | buffered phase | bufferedForwarding phase
    | flushed phase | flushedForwarding phase =>
      rw [phase] at ended
      cases ended
  | dispatchPanicked running =>
    rw [accepting_eq_false.mpr ended] at running
    cases running
  | begins phase incoming collects | completes phase collects =>
    unfold endSection
    split <;> rfl
  | _ => rfl

theorem Transition.listen_of_over (move : Transition env state label next)
    (ended : state.listen.isOver = true) : next.listen = state.listen := by
  cases move with
  | begins phase | completes phase | closing phase | closingWithError phase | errorStored phase
    | listenersTaken phase | listenersDone phase | listenerFinished phase | callbacksTaken phase
    | callbacksDone phase | callbackSent phase | handlerGone phase | callbackAnswered phase
    | signalled phase =>
      rw [phase] at ended
      cases ended
  | aborted phase =>
    rcases phase with phase | ⟨error, callback, rest, phase⟩
    · rw [phase] at ended
      cases ended
    · rw [phase] at ended
      cases ended
  | _ => rfl

theorem Transition.queue_lost (move : Transition env state label next)
    (lost : state.accepting = false → state.requestQueue = []) :
    next.accepting = false → next.requestQueue = [] := by
  cases move with
  | stopped | stoppedForwarding | dispatchPanicked =>
    intro _
    rfl
  | sent admitted accepting =>
    intro ended
    rw [show state.accepting = false from ended] at accepting
    cases accepting
  | @polled ticket query response called unresolved batch running arrived =>
    intro ended
    have closed : state.accepting = false := ended
    cases response with
    | result result => simp [pollResponse, processResponse, lost closed]
    | «continue» requestId => simp [pollResponse, processResponse, closed, lost closed]
  | requestTaken phase queue | streamTaken phase queue =>
    intro ended
    cases ended
  | noSignal phase | noCallback phase | callbackTaken phase | callbackPushed phase | drained phase
    | registered phase | buffered phase | bufferedForwarding phase | flushed phase
    | flushedForwarding phase =>
      intro ended
      cases ended
  | begins phase incoming collects | completes phase collects =>
    unfold endSection
    split <;> exact lost
  | _ => exact lost

theorem not_senderAlive_of_over (lost : state.accepting = false → state.requestQueue = [])
    (dispatchOver : state.dispatch.isOver = true) (listenOver : state.listen.isOver = true)
    (ticket : Ticket) : state.senderAlive ticket = false := by
  have closed : state.accepting = false := accepting_eq_false.mpr dispatchOver
  have released : state.listen.holdsCollector = false := by
    cases phase : state.listen <;> rw [phase] at listenOver <;> first | rfl | cases listenOver
  have unregistering : ∀ request sink, state.dispatch ≠ .registering request sink := by
    intro request sink phase
    rw [phase] at dispatchOver
    cases dispatchOver
  have unfinished : ∀ error listeners, state.listen ≠ .finishing error listeners := by
    intro error listeners phase
    rw [phase] at listenOver
    cases listenOver
  unfold State.senderAlive
  rw [lost closed, closed, released]
  split
  next request sink phase => exact absurd phase (unregistering request sink)
  next =>
    split
    next error listeners phase => exact absurd phase (unfinished error listeners)
    next => rfl

theorem promise_of_not_senderAlive {ticket : Ticket} {call : Call}
    (dropped : state.senderAlive ticket = false) (called : state.calls[ticket]? = some call)
    (returned : call.phase.hasReturned = true) : (promise state ticket).isSome = true := by
  obtain ⟨request, phase⟩ := call
  unfold promise
  rw [called, dropped]
  cases phase with
  | admitted | refused => cases returned
  | rejected error => rfl
  | unsent => rfl
  | sent =>
    dsimp only
    split <;> rfl

/-- Once both loops are over, no sender of any call is left, and every promise that a call
returned resolves. -/
theorem no_call_left_waiting (env : Environment) {labels : List Label} {state : State}
    (ran : (system env).run {} labels = some state) (dispatchOver : state.dispatch.isOver = true)
    (listenOver : state.listen.isOver = true) (ticket : Ticket) :
    state.senderAlive ticket = false ∧
      ∀ call, state.calls[ticket]? = some call → call.phase.hasReturned = true →
        (promise state ticket).isSome = true := by
  have lost : state.accepting = false → state.requestQueue = [] :=
    run_preserves (fun _ lost move => move.queue_lost lost) (fun _ => rfl) ran
  have dropped := not_senderAlive_of_over lost dispatchOver listenOver ticket
  refine ⟨dropped, ?_⟩
  intro call called returned
  exact promise_of_not_senderAlive dropped called returned

/-- A first request is registered after `close` has emptied the map; a second one is still in
the queue when the dispatch loop stops. -/
def strandedRun : List Label :=
  [.call .commit, .proceed 0, .dispatch ⟨[7]⟩, .dispatch ⟨[7]⟩, .dispatch ⟨[7]⟩, .call .commit,
    .endStream, .listen 0, .listen 0, .listen 0] ++ List.replicate 4 (.dispatch ⟨[7]⟩) ++
    [.proceed 1] ++ List.replicate 3 (.listen 0) ++ [.dispatch ⟨[]⟩]

theorem no_call_left_waiting_stranded :
    ∃ state, (system .basic).run {} strandedRun = some state ∧
      state.listen.isOver = true ∧ state.senderAlive 0 = false ∧ state.senderAlive 1 = false ∧
      (promise state 0).isSome = true ∧ (promise state 1).isSome = true := by
  have ran : (system .basic).run {} strandedRun = some _ := rfl
  have first := no_call_left_waiting .basic ran rfl rfl 0
  have second := no_call_left_waiting .basic ran rfl rfl 1
  exact ⟨_, ran, rfl, first.1, second.1, first.2 _ rfl rfl, second.2 _ rfl rfl⟩

def sendsBuffer (env : Environment) (state : State) : Bool :=
  match state.dispatch with
  | .polling => state.shutdownSignals != 0 && !state.buffer.reqs.isEmpty
  | .buffering request => decide (state.buffer.len + env.encodedLen request > maxGrpcMessageLen)
  | .flushing => !state.buffer.reqs.isEmpty
  | _ => false

def hasReceiver (env : Environment) (state : State) : Label → Bool
  | .dispatch _ => state.requestSinkOpen || !sendsBuffer env state
  | .listen _ =>
    match state.listen with
    | .calling _ (_ :: _) => state.handlerAlive
    | _ => true
  | _ => true

def SendFailed (state : State) : Prop :=
  state.dispatch = .panicked .requestSinkClosed ∨
    state.listen = .panicked .callbackHandlerGone none

/-- How a step of the dispatch loop leaves it: at a send that fails, or after one that does
not with the loop going on, stopped by a signal, or stopped by a poisoned lock. -/
inductive DispatchOutcome (env : Environment) (state next : State) : Prop where
  | failed (sends : sendsBuffer env state = true) (gone : state.requestSinkOpen = false)
      (phase : next.dispatch = .panicked .requestSinkClosed)
  | running (received : sendsBuffer env state = true → state.requestSinkOpen = true)
      (phase : next.dispatch.isOver = false)
  | stopped (received : sendsBuffer env state = true → state.requestSinkOpen = true)
      (signalled : 0 < state.shutdownSignals) (phase : next.dispatch = .ended)
  | poisoned (received : sendsBuffer env state = true → state.requestSinkOpen = true)
      (poisoned : state.lock.poisoned = true) (phase : next.dispatch = .panicked .poisonedLock)

theorem sendBuffer_outcome {phase : State → State} (sends : sendsBuffer env state = true)
    (sent : (sendsBuffer env state = true → state.requestSinkOpen = true) →
      DispatchOutcome env state (phase (forward state))) :
    DispatchOutcome env state (sendBuffer state phase) := by
  unfold sendBuffer
  split
  case isTrue present => exact sent fun _ => present
  case isFalse gone => exact .failed sends (Bool.eq_false_iff.mpr gone) rfl

variable {fresh : RequestID}

theorem dispatchStep_outcome (took : dispatchStep env state fresh = some next) :
    DispatchOutcome env state next := by
  cases phase : state.dispatch with
  | polling =>
    simp only [dispatchStep, phase] at took
    split at took
    case isTrue silent =>
      cases took
      exact .running (by simp [sendsBuffer, phase, silent]) rfl
    case isFalse signalled =>
      have signalled := Nat.pos_of_ne_zero signalled
      split at took
      case isTrue empty =>
        cases took
        exact .stopped (by simp [sendsBuffer, phase, empty]) signalled rfl
      case isFalse filled =>
        cases took
        refine sendBuffer_outcome ?_ fun received => .stopped received signalled rfl
        simp [sendsBuffer, phase, filled, Nat.ne_of_gt signalled]
  | pollingCallbacks =>
    simp only [dispatchStep, phase] at took
    split at took <;> cases took <;> exact .running (by simp [sendsBuffer, phase]) rfl
  | pushing callback =>
    simp only [dispatchStep, phase] at took
    cases took
    exact .running (by simp [sendsBuffer, phase]) rfl
  | draining =>
    have silent : sendsBuffer env state = true → state.requestSinkOpen = true := by
      simp [sendsBuffer, phase]
    simp only [dispatchStep, phase, takeRequest] at took
    split at took
    case h_1 =>
      cases took
      exact .running silent rfl
    case h_2 =>
      split at took
      case isTrue => cases took
      case isFalse =>
        cases took
        exact .running silent rfl
    case h_3 =>
      cases took
      exact .running silent rfl
  | registering request sink =>
    have silent : sendsBuffer env state = true → state.requestSinkOpen = true := by
      simp [sendsBuffer, phase]
    simp only [dispatchStep, phase] at took
    split at took
    case isTrue => cases took
    case isFalse =>
      split at took
      case isTrue poisoned =>
        cases took
        exact .poisoned silent poisoned rfl
      case isFalse =>
        cases took
        exact .running silent rfl
  | buffering request =>
    simp only [dispatchStep, phase] at took
    split at took
    case isTrue full =>
      cases took
      refine sendBuffer_outcome ?_ fun received => .running received rfl
      simp [sendsBuffer, phase, full]
    case isFalse fits =>
      cases took
      exact .running (by simp [sendsBuffer, phase, fits]) rfl
  | flushing =>
    simp only [dispatchStep, phase] at took
    split at took
    case isTrue empty =>
      cases took
      exact .running (by simp [sendsBuffer, phase, empty]) rfl
    case isFalse filled =>
      cases took
      refine sendBuffer_outcome ?_ fun received => .running received rfl
      simp [sendsBuffer, phase, filled]
  | ended | panicked => simp only [dispatchStep, phase, reduceCtorEq] at took

theorem DispatchOutcome.failed_iff (outcome : DispatchOutcome env state next) :
    next.dispatch = .panicked .requestSinkClosed ↔
      sendsBuffer env state = true ∧ state.requestSinkOpen = false := by
  have open_of : (sendsBuffer env state = true → state.requestSinkOpen = true) →
      ¬ (sendsBuffer env state = true ∧ state.requestSinkOpen = false) := by
    intro received both
    rw [received both.1] at both
    cases both.2
  cases outcome with
  | failed sends gone phase => exact iff_of_true phase ⟨sends, gone⟩
  | running received phase =>
    refine iff_of_false ?_ (open_of received)
    intro failed
    rw [failed] at phase
    cases phase
  | stopped received signalled phase | poisoned received poisoned phase =>
    exact iff_of_false (by simp [phase]) (open_of received)

theorem Transition.listen_of_dispatch (move : Transition env state (.dispatch fresh) next) :
    next.listen = state.listen := by
  cases move <;> rfl

variable {choice : Nat}

theorem Transition.dispatch_of_listen (move : Transition env state (.listen choice) next) :
    next.dispatch = state.dispatch := by
  cases move with
  | begins | completes =>
    unfold endSection
    split <;> rfl
  | _ => rfl

theorem Transition.handlerGone_iff (move : Transition env state (.listen choice) next) :
    next.listen = .panicked .callbackHandlerGone none ↔
      hasReceiver env state (.listen choice) = false := by
  cases move with
  | handlerGone phase gone => simp [hasReceiver, phase, gone]
  | callbackSent phase alive => simp [hasReceiver, phase, alive]
  | begins phase | completes phase =>
    unfold endSection
    split <;> simp [hasReceiver, phase]
  | closing phase | closingWithError phase | errorStored phase | listenersTaken phase
    | listenersDone phase | listenerFinished phase | callbacksTaken phase | callbacksDone phase
    | callbackAnswered phase | signalled phase => simp [hasReceiver, phase]

theorem step_failed_iff (locking : Locking state) (good : ¬ SendFailed state)
    (took : step env state label = some next) :
    hasReceiver env state label = true ↔ ¬ SendFailed next := by
  have move := step_transition locking took
  obtain ⟨dispatching, listening⟩ := not_or.mp good
  cases label with
  | dispatch fresh =>
    unfold SendFailed
    rw [(dispatchStep_outcome took).failed_iff, move.listen_of_dispatch]
    simp only [hasReceiver, listening, or_false]
    cases state.requestSinkOpen <;> simp
  | listen choice =>
    unfold SendFailed
    rw [move.handlerGone_iff, move.dispatch_of_listen]
    simp [dispatching]
  | shutdownRuntime =>
    cases move
    simp [hasReceiver, SendFailed, dispatching]
  | _ =>
    refine ⟨fun _ => ?_, fun _ => rfl⟩
    cases move <;> exact good

theorem SendFailed.lasting (failed : SendFailed state)
    (move : Transition env state label next) : SendFailed next := by
  rcases failed with phase | phase
  · refine .inl ?_
    rw [move.dispatch_of_over (by rw [phase]; rfl), phase]
  · refine .inr ?_
    rw [move.listen_of_over (by rw [phase]; rfl), phase]

theorem signalShutdown_signalled (state : State) :
    (signalShutdown state).dispatch.isOver = true ∨ 0 < (signalShutdown state).shutdownSignals := by
  cases ended : state.dispatch.isOver with
  | true => exact .inl ended
  | false =>
    refine .inr ?_
    simp [signalShutdown, State.accepting, ended]

theorem Transition.signal_kept (move : Transition env state label next)
    (signalled : state.dispatch.isOver = true ∨ 0 < state.shutdownSignals) :
    next.dispatch.isOver = true ∨ 0 < next.shutdownSignals := by
  rcases signalled with ended | pending
  · refine .inl ?_
    rw [move.dispatch_of_over ended]
    exact ended
  · cases move with
    | stopped | stoppedForwarding | dispatchPanicked => exact .inl rfl
    | begins | completes =>
      unfold endSection
      split <;> exact .inr pending
    | forceCloseSignal | connectionForceClosed | signalled => exact signalShutdown_signalled state
    | _ => exact .inr pending

/-- At most one callback is with the handler, and the listener waits for it. -/
def Handed (state : State) : Prop :=
  state.listen.isDead = true ∨ state.handlerQueue.Sublist state.listen.current

theorem Handed.idle (handed : Handed state) (alive : state.listen.isDead = false)
    (current : state.listen.current = []) : state.handlerQueue = [] := by
  rcases handed with dead | waited
  · rw [alive] at dead
    cases dead
  · rw [current] at waited
    exact List.sublist_nil.mp waited

theorem Handed.alone (handed : Handed state) (alive : state.listen.isDead = false)
    {callback : Callback} {rest : List Callback} (queue : state.handlerQueue = callback :: rest) :
    rest = [] := by
  rcases handed with dead | waited
  · rw [alive] at dead
    cases dead
  · exact ListenPhase.eq_nil_of_sublist_current (queue ▸ waited)

theorem not_isDead_of_hasTaken {phase : ListenPhase} (taken : phase.hasTaken = true) :
    phase.isDead = false := by
  cases phase <;> first | rfl | cases taken

theorem Transition.handed (handed : Handed state) (move : Transition env state label next) :
    Handed next := by
  cases move with
  | begins phase | completes phase =>
    have idle := handed.idle (by rw [phase]; rfl) (by rw [phase]; rfl)
    refine .inr ?_
    unfold endSection
    split <;> simp [idle]
  | closing phase | closingWithError phase | errorStored phase | listenersTaken phase
    | listenersDone phase | listenerFinished phase | callbacksTaken phase | callbacksDone phase
    | signalled phase =>
      have idle := handed.idle (by rw [phase]; rfl) (by rw [phase]; rfl)
      refine .inr ?_
      simp [signalShutdown, idle]
  | callbackSent phase =>
    have idle := handed.idle (by rw [phase]; rfl) (by rw [phase]; rfl)
    refine .inr ?_
    simp [ListenPhase.current, idle]
  | callbackAnswered phase answered =>
    refine .inr ?_
    rcases handed with dead | waited
    · rw [phase] at dead
      cases dead
    · rw [phase] at waited
      rcases List.sublist_singleton.mp waited with empty | same
      · simp [empty]
      · simp [same] at answered
  | handlerGone | aborted => exact .inl rfl
  | @callbackRun panics callback rest queue =>
    rcases handed with dead | waited
    · exact .inl dead
    · refine .inr ?_
      cases panics with
      | true => exact List.nil_sublist _
      | false => exact ((List.sublist_cons_self callback rest).trans (queue ▸ waited))
  | handlerLost => exact .inr (List.nil_sublist _)
  | _ => exact handed

/-- The callbacks that the listener took are not lost, and it does not end before it has
sent its signal. -/
structure Handing (taken : List Callback) (state : State) : Prop where
  handed : Handed state
  closing : state.listen.hasTaken = true
  kept : ∀ callback ∈ taken,
    callback ∈ state.listen.uncalled ++ state.handlerQueue ++ state.invoked
  signalled : state.listen = .ended → state.dispatch.isOver = true ∨ 0 < state.shutdownSignals

/-- Where a loop sends, the other end is there; and the handler thread is not lost while it
has a callback of this transaction to run. -/
def delivers (env : Environment) (state : State) : Label → Bool
  | .loseHandler => state.handlerQueue.isEmpty
  | label => hasReceiver env state label

variable {taken : List Callback}

theorem Transition.handing (held : state.listen = .aborted ∨ Handing taken state)
    (delivered : delivers env state label = true) (move : Transition env state label next) :
    next.listen = .aborted ∨ Handing taken next := by
  rcases held with ended | held
  · refine .inl ?_
    rw [move.listen_of_over (by rw [ended]; rfl), ended]
  have handed := move.handed held.handed
  have signalled := fun ended => move.signal_kept (held.signalled ended)
  have kept := held.kept
  have closing := held.closing
  cases move with
  | begins phase | completes phase | closing phase | closingWithError phase | errorStored phase
    | listenersTaken phase | listenersDone phase | listenerFinished phase
    | callbacksTaken phase =>
      rw [phase] at closing
      cases closing
  | callbacksDone phase =>
    refine .inr ⟨handed, rfl, ?_, ?_⟩
    · simpa only [phase, ListenPhase.uncalled] using kept
    · intro ended
      cases ended
  | callbackSent phase =>
    refine .inr ⟨handed, rfl, ?_, ?_⟩
    · intro callback member
      rw [phase] at kept
      exact mem_of_sent (kept callback member)
    · intro ended
      cases ended
  | handlerGone phase gone =>
    simp [delivers, hasReceiver, phase, gone] at delivered
  | callbackAnswered phase =>
    refine .inr ⟨handed, rfl, ?_, ?_⟩
    · simpa only [phase, ListenPhase.uncalled] using kept
    · intro ended
      cases ended
  | signalled phase =>
    refine .inr ⟨handed, rfl, ?_, fun _ => signalShutdown_signalled state⟩
    simpa only [phase, ListenPhase.uncalled, signalShutdown] using kept
  | aborted => exact .inl rfl
  | @callbackRun panics callback rest queue =>
    have alone : rest = [] := held.handed.alone (not_isDead_of_hasTaken closing) queue
    subst alone
    refine .inr ⟨handed, closing, ?_, signalled⟩
    intro other member
    rw [queue] at kept
    rw [ite_self]
    exact mem_of_run (kept other member)
  | handlerLost =>
    have idle : state.handlerQueue = [] := List.isEmpty_iff.mp delivered
    refine .inr ⟨handed, closing, ?_, signalled⟩
    simpa only [idle] using kept
  | _ => exact .inr ⟨handed, closing, kept, signalled⟩

variable {labels : List Label}

theorem run_handed (ran : (system env).run {} labels = some state) :
    Locking state ∧ Handed state := by
  have kept : ∀ {state next label}, Locking state →
      Locking state ∧ Handed state → Transition env state label next →
      Locking next ∧ Handed next := by
    intro state next label locking both move
    exact ⟨move.locking locking, move.handed both.2⟩
  exact run_preserves kept ⟨locking_initial, .inr (.refl _)⟩ ran

/-- Once the listener has taken the callbacks, it is over only if it was aborted or has
passed every one of them to the handler and has sent its signal. -/
theorem handed_over {middle : State} (locking : Locking middle) (handing : Handing taken middle)
    (meets : (system env).Meets (fun state label => delivers env state label = true) middle labels)
    (ran : (system env).run middle labels = some state) (ended : state.listen.isOver = true) :
    state.listen = .aborted ∨
      ((∀ callback ∈ taken, callback ∈ state.handlerQueue ++ state.invoked) ∧
        (state.dispatch.isOver = true ∨ 0 < state.shutdownSignals)) := by
  have kept : ∀ {state next label},
      Locking state ∧ (state.listen = .aborted ∨ Handing taken state) →
      delivers env state label = true → (system env).step state label = some next →
      Locking next ∧ (next.listen = .aborted ∨ Handing taken next) := by
    intro state next label ⟨locking, held⟩ delivered took
    have move := step_transition locking took
    exact ⟨move.locking locking, move.handing held delivered⟩
  obtain ⟨-, aborted | held⟩ :=
    TransitionSystem.run_invariant kept ⟨locking, .inr handing⟩ meets ran
  · exact .inl aborted
  · refine .inr ?_
    have ended : state.listen = .ended := by
      have taken := held.closing
      cases phase : state.listen with
      | ended => rfl
      | panicked | aborted =>
        rw [phase] at taken
        cases taken
      | _ =>
        rw [phase] at ended
        cases ended
    have placed := held.kept
    rw [ended] at placed
    exact ⟨placed, held.signalled ended⟩

/-- The loops panic at a send exactly in the runs where one of them sends after the other end
of its channel is gone. In all other runs, unless the handler thread is lost with a callback
still to run, the callbacks that the listener takes are passed on and its signal is sent. -/
theorem sends_fail_iff (env : Environment) {labels : List Label} {state : State}
    (ran : (system env).run {} labels = some state) :
    ((system env).Meets (fun state label => hasReceiver env state label = true) {} labels ↔
      ¬ SendFailed state) ∧
    ((system env).Meets (fun state label => delivers env state label = true) {} labels →
      ∀ before choice after middle error, labels = before ++ .listen choice :: after →
        (system env).run {} before = some middle → middle.listen = .takingCallbacks error →
        state.listen.isOver = true → state.listen = .aborted ∨
          ((∀ callback ∈ middle.onClose, callback ∈ state.handlerQueue ++ state.invoked) ∧
            (state.dispatch.isOver = true ∨ 0 < state.shutdownSignals))) := by
  constructor
  · refine TransitionSystem.run_meets_iff ?_ ?_ ?_ locking_initial ?_ ran
    · intro state next label locking took
      exact (step_transition locking took).locking locking
    · intro state next label locking failed took
      exact failed.lasting (step_transition locking took)
    · intro state next label locking good took
      exact step_failed_iff locking good took
    · rintro (phase | phase) <;> cases phase
  · intro meets before choice after middle error split first phase ended
    subst split
    obtain ⟨reached, again, second⟩ := TransitionSystem.run_append.mp ran
    cases first.symm.trans again
    obtain ⟨next, took, rest⟩ := TransitionSystem.run_cons.mp second
    obtain ⟨delivered, meets⟩ := (meets.append_right first).cons took
    obtain ⟨locking, handed⟩ := run_handed first
    have move : Transition env middle (.listen choice) next :=
      step_transition locking took
    refine handed_over (move.locking locking) ?_ meets rest ended
    have handed := move.handed handed
    simp only [system, step, listenStep, phase, Option.some.injEq] at took
    subst took
    refine ⟨handed, rfl, ?_, ?_⟩
    · intro callback member
      exact List.mem_append_left _ (List.mem_append_left _ member)
    · intro ended
      cases ended

theorem sends_fail_iff_picked_up :
    ∃ state, (system .basic).run {} onCloseRun = some state ∧ ¬ SendFailed state := by
  have ran : (system .basic).run {} onCloseRun = some _ := rfl
  have meets : (system .basic).Meets (fun state label => hasReceiver .basic state label = true) {}
      onCloseRun := by decide
  exact ⟨_, ran, (sends_fail_iff .basic ran).1.mp meets⟩

def panickingCallbackRun : List Label :=
  [.onClose, .onClose] ++ List.replicate 8 (.dispatch ⟨[]⟩) ++ [.endStream] ++
    List.replicate 5 (.listen 0) ++ [.runCallback true] ++ List.replicate 2 (.listen 0)

/-- The server ends the stream and the transport drops its end; then an earlier call sends its
request. -/
def lateRequestRun : List Label :=
  [.call .commit, .endStream, .closeRequestSink, .proceed 0] ++
    List.replicate 7 (.dispatch ⟨[7]⟩)

theorem sends_fail :
    (∃ state, (system .basic).run {} panickingCallbackRun = some state ∧
      state.listen = .panicked .callbackHandlerGone none ∧ state.invoked = [0] ∧
      state.registrations = [true, true] ∧ state.shutdownSignals = 0 ∧
      state.dispatch.isOver = false) ∧
    ∃ state, (system .basic).run {} lateRequestRun = some state ∧
      state.dispatch = .panicked .requestSinkClosed :=
  ⟨⟨_, rfl, rfl, rfl, rfl, rfl, rfl⟩, _, rfl, rfl⟩

/-- The transaction is closed, and only the first `before` calls may have found it open. -/
structure Refusing (before : Nat) (state : State) : Prop where
  closed : state.isOpen = false
  refused : ∀ (ticket : Ticket) call, before ≤ ticket → state.calls[ticket]? = some call →
    call.phase.isRefused = true

theorem Transition.refusing {before : Nat} (held : Refusing before state)
    (move : Transition env state label next) : Refusing before next := by
  obtain ⟨closed, refused⟩ := held
  cases move with
  | called request =>
    refine ⟨closed, fun ticket other late called => ?_⟩
    simp only [call, closed] at called
    grind [CallPhase.isRefused]
  | sent earlier | unsent earlier | rejected earlier =>
    refine ⟨closed, fun ticket other late called => ?_⟩
    grind [CallPhase.isRefused]
  | forceClosed isOpen => cases closed.symm.trans isOpen
  | closing | closingWithError => exact ⟨rfl, refused⟩
  | @begins _ _ _ progress | @completes _ _ _ progress => cases progress <;> exact ⟨closed, refused⟩
  | _ => exact ⟨closed, refused⟩

/-- A transaction that is closed stays closed, and no call that is made after that is sent. -/
theorem closed_transaction_refuses (env : Environment) {labels later : List Label}
    {final : State} (ran : (system env).run {} labels = some state)
    (closed : state.isOpen = false) (ranOn : (system env).run state later = some final) :
    Refusing state.calls.length final := by
  have kept : ∀ {before after label},
      Locking before ∧ Refusing state.calls.length before →
      (system env).step before label = some after →
      Locking after ∧ Refusing state.calls.length after := by
    intro before after label held took
    have move := step_transition held.1 took
    exact ⟨move.locking held.1, move.refusing held.2⟩
  have refusing : Refusing state.calls.length state := by
    refine ⟨closed, fun ticket call late called => ?_⟩
    rw [List.getElem?_eq_none late] at called
    cases called
  exact (TransitionSystem.run_preserves kept ⟨(run_handed ran).1, refusing⟩ ranOn).2

theorem closed_transaction_refuses_commit :
    ∃ final, (system .basic).run (forceClose {}) [.call .commit, .proceed 0] = some final ∧
      final.calls.length = 1 ∧ final.isOpen = false := by
  have ran : (system .basic).run {} [.forceClose] = some (forceClose {}) := rfl
  have ranOn : (system .basic).run (forceClose {}) [.call .commit, .proceed 0] = some _ := rfl
  exact ⟨_, ranOn, rfl, (closed_transaction_refuses .basic ran rfl ranOn).closed⟩

end Transmitter

end TypeDBDriver
