import TypeDBDriver.Connection.TransactionLifecycle

/-! Who still stops the dispatch loop, and whether a transaction that says it is open has its
loops. Both are invariants of the transmitter that the steps around it keep. -/

namespace TypeDBDriver

open Library
open Proto.Transaction (Server)
open Option (ite_none_right_eq_some)

def ForceClosePhase.inProgress : ForceClosePhase → Bool
  | .storingError | .sendingShutdown => true
  | .idle | .finished => false

namespace Transmitter

variable {env : Environment} {state next : State} {label : Label}

theorem Transition.closed (move : Transition env state label next)
    (closed : state.isOpen = false) : next.isOpen = false := by
  cases move with
  | begins | completes =>
    unfold endSection
    split <;> exact closed
  | forceClosed | closing | closingWithError => rfl
  | _ => exact closed

theorem forceClose_isOpen (state : State) : (forceClose state).isOpen = false := by
  unfold forceClose
  split
  case isTrue => rfl
  case isFalse closed => exact Bool.eq_false_iff.mpr closed

theorem forceCloseStep_inProgress (took : forceCloseStep state = some next) :
    state.forceClosing.inProgress = true := by
  unfold forceCloseStep at took
  split at took
  case h_1 phase => rw [phase]; rfl
  case h_2 phase => rw [phase]; rfl
  case h_3 => cases took

theorem forceCloseDone_iff (state : State) :
    Lifecycle.forceCloseDone state = true ↔ state.forceClosing.inProgress = false := by
  unfold Lifecycle.forceCloseDone
  cases state.forceClosing <;> decide

def stops (state : State) : Bool :=
  state.dispatch.isOver || state.shutdownSignals != 0 || state.forceClosing.inProgress

/-- Between clearing the flag and sending its signal the listener is not stopped, unless the
dispatch loop stops without it. -/
def announces (state : State) : Label → Bool
  | .listen _ =>
    match state.listen with
    | .calling _ (_ :: _) => state.handlerAlive || stops state
    | _ => true
  | .shutdownRuntime =>
    match state.listen with
    | .awaiting _ _ _ => stops state
    | _ => true
  | _ => true

/-- Whoever cleared the flag stops the dispatch loop. -/
def Guarded (state : State) : Prop :=
  state.isOpen = false → stops state = true ∨
    (state.listen.isClosing = true ∧ state.listen.isOver = false)

theorem stops_iff : stops state = true ↔
    (state.dispatch.isOver = true ∨ 0 < state.shutdownSignals) ∨
      state.forceClosing.inProgress = true := by
  simp [stops, Nat.pos_iff_ne_zero]

theorem stops_signalShutdown (state : State) : stops (signalShutdown state) = true :=
  stops_iff.mpr (.inl (signalShutdown_signalled state))

theorem Transition.stops_kept (move : Transition env state label next)
    (stopping : stops state = true) : stops next = true := by
  rcases stops_iff.mp stopping with signalled | closing
  · exact stops_iff.mpr (.inl (move.signal_kept signalled))
  · cases move with
    | stopped | stoppedForwarding | dispatchPanicked => exact stops_iff.mpr (.inl (.inl rfl))
    | forceClosed | forceCloseError => exact stops_iff.mpr (.inr rfl)
    | forceCloseSignal => exact stops_iff.mpr (.inl (signalShutdown_signalled state))
    | begins | completes =>
      unfold endSection
      split <;> exact stops_iff.mpr (.inr closing)
    | _ => exact stops_iff.mpr (.inr closing)

theorem Transition.guarded (guarded : Guarded state) (announced : announces state label = true)
    (move : Transition env state label next) : Guarded next := by
  have kept := move.stops_kept
  cases move with
  | forceClosed => exact fun _ => .inl (stops_iff.mpr (.inr rfl))
  | closing | closingWithError => exact fun _ => .inr ⟨rfl, rfl⟩
  | errorStored | listenersTaken | listenersDone | listenerFinished | callbacksTaken
    | callbacksDone | callbackSent | callbackAnswered => exact fun _ => .inr ⟨rfl, rfl⟩
  | begins phase | completes phase =>
    intro closed
    have before : state.isOpen = false := by
      revert closed
      unfold endSection
      split <;> exact id
    rcases guarded before with stopping | closing
    · exact .inl (kept stopping)
    · rw [phase] at closing
      cases closing.1
  | signalled => exact fun _ => .inl (stops_signalShutdown state)
  | handlerGone phase gone =>
    intro _
    refine .inl (kept ?_)
    simpa [announces, phase, gone] using announced
  | aborted phase =>
    intro closed
    refine .inl (kept ?_)
    rcases phase with phase | ⟨error, callback, rest, phase⟩
    · rcases guarded closed with stopping | closing
      · exact stopping
      · rw [phase] at closing
        cases closing.1
    · simpa [announces, phase] using announced
  | _ =>
    intro closed
    rcases guarded closed with stopping | closing
    · exact .inl (kept stopping)
    · exact .inr closing

theorem Transition.listen_kept (move : Transition env state label next)
    (elsewhere : label ≠ .shutdownRuntime ∧ ∀ choice, label ≠ .listen choice) :
    next.listen = state.listen := by
  cases move with
  | aborted => exact absurd rfl elsewhere.1
  | begins | completes | closing | closingWithError | errorStored | listenersTaken
    | listenersDone | listenerFinished | callbacksTaken | callbacksDone | callbackSent
    | handlerGone | callbackAnswered | signalled => exact absurd rfl (elsewhere.2 _)
  | _ => rfl

theorem Transition.forceClosing_kept (move : Transition env state label next)
    (elsewhere : label ≠ .forceClose ∧ label ≠ .forceCloseStep) :
    next.forceClosing = state.forceClosing := by
  cases move with
  | forceClosed | alreadyClosed => exact absurd rfl elsewhere.1
  | forceCloseError | forceCloseSignal => exact absurd rfl elsewhere.2
  | begins | completes =>
    unfold endSection
    split <;> rfl
  | _ => rfl

/-- No message that the listener handles makes it panic. -/
def collectsSafely (env : Environment) (state : State) : Bool :=
  (currentMessage state).all fun message => message.requestId.all fun requestId =>
    (state.collector.callbacks.lookup requestId).all fun sink => !message.crashes env.chrono sink

def serves (env : Environment) (state : State) : Label → Bool
  | .dispatch fresh => !state.isOpen || hasReceiver env state (.dispatch fresh)
  | .listen _ => !state.isOpen || collectsSafely env state
  | _ => true

/-- Both loops run, and nothing is on its way that stops them. -/
structure Running (state : State) : Prop where
  silent : state.shutdownSignals = 0
  dispatching : state.dispatch.isOver = false
  listening : state.listen.isOver = false
  unclosed : state.listen.isClosing = false
  unforced : state.forceClosing.inProgress = false
  healthy : state.lock.poisoned = false

def Served (state : State) : Prop := state.isOpen = true → Running state

theorem served_of_closed (closed : state.isOpen = false) : Served state := by
  intro isOpen
  rw [closed] at isOpen
  cases isOpen

theorem Transition.isOpen_before (move : Transition env state label next)
    (isOpen : next.isOpen = true) : state.isOpen = true := by
  cases before : state.isOpen with
  | true => rfl
  | false =>
    rw [move.closed before] at isOpen
    cases isOpen

variable {message : Server}

theorem not_crashes_of_collectsSafely {requestId : RequestID} {sink : ResponseSink}
    (safe : collectsSafely env state = true) (current : currentMessage state = some message)
    (named : message.requestId = some requestId)
    (found : state.collector.callbacks.lookup requestId = some sink) :
    message.crashes env.chrono sink = false := by
  simpa [collectsSafely, current, named, found] using safe

theorem Running.dispatched (running : Running state) {fresh : RequestID}
    (received : hasReceiver env state (.dispatch fresh) = true)
    (took : dispatchStep env state fresh = some next) : Running next := by
  have move : Transition env state (.dispatch fresh) next := dispatchStep_transition took
  have dispatching : next.dispatch.isOver = false := by
    cases dispatchStep_outcome took with
    | failed sends gone => simp [hasReceiver, sends, gone] at received
    | running _ phase => exact phase
    | stopped _ signalled =>
      rw [running.silent] at signalled
      cases signalled
    | poisoned _ poisoned =>
      rw [running.healthy] at poisoned
      cases poisoned
  have silent : next.shutdownSignals = 0 := by
    cases move <;> first | exact running.silent | rfl
  have listen := move.listen_of_dispatch
  have healthy : next.lock = state.lock := by cases move <;> rfl
  refine ⟨silent, dispatching, ?_, ?_, ?_, ?_⟩
  · rw [listen]
    exact running.listening
  · rw [listen]
    exact running.unclosed
  · rw [move.forceClosing_kept (by simp)]
    exact running.unforced
  · rw [healthy]
    exact running.healthy

variable {progress : Progress Collector PanicCause Unit}

theorem Running.endSection (running : Running state)
    (unpanicked : ∀ cause lock memory, progress ≠ .panicked cause lock memory)
    (healthy : (Transmitter.endSection state message progress).lock.poisoned = false) :
    Running (Transmitter.endSection state message progress) := by
  cases progress with
  | panicked cause lock memory => exact absurd rfl (unpanicked cause lock memory)
  | _ => exact ⟨running.silent, running.dispatching, rfl, rfl, running.unforced, healthy⟩

theorem Running.begins (running : Running state) {rest : List Server}
    (safe : collectsSafely env state = true) (phase : state.listen = .receiving)
    (incoming : state.incoming = message :: rest)
    (collects : ResponseCollector.Begins env.chrono state.collector message progress) :
    Running (Transmitter.endSection { state with incoming := rest } message progress) := by
  have waiting : Running { state with incoming := rest } := { running with }
  refine waiting.endSection ?_ (by cases collects <;> rfl)
  intro cause lock memory same
  subst same
  obtain ⟨requestId, sink, named, found, crashes⟩ := collects.crashes
  have current := currentMessage_of_receiving phase incoming
  cases (not_crashes_of_collectsSafely safe current named found).symm.trans crashes

theorem Running.completes (running : Running state) (locking : Locking state) {rest : Action Unit}
    (safe : collectsSafely env state = true) (phase : state.listen = .collecting message rest)
    (collects : ResponseCollector.Completes state.collector message progress) :
    Running (Transmitter.endSection state message progress) := by
  have unpanicked : ∀ cause lock memory, progress ≠ .panicked cause lock memory := by
    intro cause lock memory same
    subst same
    obtain ⟨requestId, sink, named, found, crashes⟩ :=
      collects.crashes (locking.registeredResponse phase)
    have current := currentMessage_of_collecting phase
    cases (not_crashes_of_collectsSafely safe current named found).symm.trans crashes
  refine running.endSection unpanicked ?_
  cases collects with
  | missing | oneShot => exact absurd rfl (unpanicked _ _ _)
  | _ => rfl

theorem Running.listened (running : Running state) (locking : Locking state) {choice : Nat}
    (safe : collectsSafely env state = true)
    (move : Transition env state (.listen choice) next) : Served next := by
  have unclosed := running.unclosed
  cases move with
  | begins phase incoming collects => exact fun _ => running.begins safe phase incoming collects
  | completes phase collects => exact fun _ => running.completes locking safe phase collects
  | closing | closingWithError => exact served_of_closed rfl
  | errorStored phase | listenersTaken phase | listenersDone phase | listenerFinished phase
    | callbacksTaken phase | callbacksDone phase | callbackSent phase | handlerGone phase
    | callbackAnswered phase | signalled phase =>
      rw [phase] at unclosed
      cases unclosed

/-- The connection's signal and the end of the runtime apart, an open transaction loses its
loops only where one of them panics. -/
theorem Served.step (served : Served state) (locking : Locking state)
    (elsewhere : label ≠ .connectionForceClose ∧ label ≠ .shutdownRuntime)
    (serving : serves env state label = true) (took : step env state label = some next) :
    Served next := by
  have move := step_transition locking took
  cases after : next.isOpen with
  | false => exact served_of_closed after
  | true =>
    have before := move.isOpen_before after
    have running := served before
    cases label with
    | dispatch fresh =>
      simp only [serves, before, Bool.not_true, Bool.false_or] at serving
      exact fun _ => running.dispatched serving took
    | listen choice =>
      simp only [serves, before, Bool.not_true, Bool.false_or] at serving
      exact running.listened locking serving move
    | forceCloseStep =>
      have unforced := running.unforced
      rw [forceCloseStep_inProgress took] at unforced
      cases unforced
    | connectionForceClose => exact absurd rfl elsewhere.1
    | shutdownRuntime => exact absurd rfl elsewhere.2
    | forceClose =>
      cases move with
      | forceClosed => cases after
      | alreadyClosed => exact served
    | _ => cases move <;> exact fun _ => { running with }

end Transmitter

namespace Lifecycle

variable {env : Environment} {state next : State} {label : Label}

inductive Moves (env : Environment) (state : State) : Label → State → Prop where
  | transaction {label : Transmitter.Label} {transmitter : Transmitter.State}
      (permitted : permits state label = true)
      (took : Transmitter.step env state.transmitter label = some transmitter) :
      Moves env state (.transaction label) { state with transmitter }
  | created (running : state.runtimeStopped = false) :
      Moves env state .create { state with opening := .created }
  | createdStopped (phase : state.opening = .answered) (stopped : state.runtimeStopped = true) :
      Moves env state .create { state with
        opening := .created
        transmitter := dropWorkers state.transmitter }
  | workersStarted (opened : state.opening ≠ .answered) :
      Moves env state .startWorkers { state with started := true }
  | registered :
      Moves env state .register { state with
        opening := .returned
        transmitter := { state.transmitter with shutdownSender := true } }
  | dropping (held : state.handle = .held) :
      Moves env state .drop { state with
        handle := .dropping
        transmitter := Transmitter.forceClose state.transmitter }
  | dropped (phase : state.handle = .dropping)
      (done : state.transmitter.forceClosing.inProgress = false) :
      Moves env state .finishDrop { state with handle := .dropped }
  | connectionDropped :
      Moves env state .dropConnection { state with
        connectionAlive := false
        transmitter := { state.transmitter with shutdownSender := false } }
  | runtimeDropped :
      Moves env state .dropRuntime { state with runtimeOpen := false, shutdownSent := true }
  | forceClosing {phase : DriverClosePhase} :
      Moves env state .forceClose { state with forceCloses := state.forceCloses ++ [phase] }
  | drained {call : Nat} {transmitter : Transmitter.State}
      (took : Transmitter.connectionForceClose state.transmitter = some transmitter) :
      Moves env state (.drainConnection call) { state with
        forceCloses := state.forceCloses.set call .closingRuntime
        transmitter }
  | undrained {call : Nat} :
      Moves env state (.drainConnection call) { state with
        forceCloses := state.forceCloses.set call .closingRuntime }
  | skipped {call : Nat} :
      Moves env state (.skipConnection call) { state with
        forceCloses := state.forceCloses.set call .closingRuntime }
  | runtimeClosed {call : Nat} :
      Moves env state (.closeRuntime call) { state with
        forceCloses := state.forceCloses.set call .returned
        runtimeOpen := false
        shutdownSent := true }
  | stoppedIdle (idle : state.opening = .answered ∨ state.transmitter.listen.isOver = true) :
      Moves env state .stopRuntime { state with runtimeStopped := true }
  | listenerAborted {transmitter : Transmitter.State} (opened : state.opening ≠ .answered)
      (took : Transmitter.shutdownRuntime state.transmitter = some transmitter) :
      Moves env state .stopRuntime { state with transmitter, runtimeStopped := true }
  | workersDropped (opened : state.opening ≠ .answered) (unstarted : state.started = false) :
      Moves env state .stopRuntime { state with
        transmitter := dropWorkers state.transmitter
        runtimeStopped := true }

theorem step_moves (took : step env state label = some next) : Moves env state label next := by
  cases label with
  | transaction label =>
    simp only [step, transaction, ite_none_right_eq_some, Option.map_eq_some_iff] at took
    obtain ⟨permitted, transmitter, took, rfl⟩ := took
    exact .transaction permitted took
  | create =>
    simp only [step, create, ite_none_right_eq_some, Option.some.injEq] at took
    obtain ⟨phase, rfl⟩ := took
    split
    case isTrue stopped => exact .createdStopped phase stopped
    case isFalse running => exact .created (Bool.eq_false_iff.mpr running)
  | startWorkers =>
    simp only [step, startWorkers, ite_none_right_eq_some, Option.some.injEq] at took
    obtain ⟨⟨opened, -⟩, rfl⟩ := took
    exact .workersStarted opened
  | register =>
    simp only [step, register, ite_none_right_eq_some, Option.some.injEq] at took
    obtain ⟨-, rfl⟩ := took
    exact .registered
  | drop =>
    simp only [step, drop, ite_none_right_eq_some, Option.some.injEq] at took
    obtain ⟨⟨-, held, -, -⟩, rfl⟩ := took
    exact .dropping held
  | finishDrop =>
    simp only [step, finishDrop, ite_none_right_eq_some, Option.some.injEq] at took
    obtain ⟨⟨phase, done⟩, rfl⟩ := took
    exact .dropped phase ((Transmitter.forceCloseDone_iff _).mp done)
  | dropConnection =>
    simp only [step, dropConnection, ite_none_right_eq_some, Option.some.injEq] at took
    obtain ⟨-, rfl⟩ := took
    exact .connectionDropped
  | dropRuntime =>
    simp only [step, dropRuntime, ite_none_right_eq_some, Option.some.injEq] at took
    obtain ⟨-, rfl⟩ := took
    exact .runtimeDropped
  | forceClose =>
    simp only [step, forceClose, ite_none_right_eq_some, Option.some.injEq] at took
    obtain ⟨-, rfl⟩ := took
    exact .forceClosing
  | drainConnection call =>
    simp only [step, drainConnection, ite_none_right_eq_some, Option.some.injEq] at took
    obtain ⟨-, rfl⟩ := took
    cases drained : Transmitter.connectionForceClose state.transmitter with
    | none => exact .undrained
    | some transmitter => exact .drained drained
  | skipConnection call =>
    simp only [step, skipConnection, ite_none_right_eq_some, Option.some.injEq] at took
    obtain ⟨-, rfl⟩ := took
    exact .skipped
  | closeRuntime call =>
    simp only [step, closeRuntime, ite_none_right_eq_some, Option.some.injEq] at took
    obtain ⟨-, rfl⟩ := took
    exact .runtimeClosed
  | stopRuntime =>
    simp only [step, stopRuntime, Option.ite_none_left_eq_some] at took
    obtain ⟨-, took⟩ := took
    split at took
    case isTrue idle =>
      cases took
      exact .stoppedIdle idle
    case isFalse busy =>
      have opened : state.opening ≠ .answered := fun phase => busy (.inl phase)
      split at took
      case isTrue =>
        obtain ⟨transmitter, aborted, rfl⟩ := Option.map_eq_some_iff.mp took
        exact .listenerAborted opened aborted
      case isFalse unstarted =>
        cases took
        exact .workersDropped opened (Bool.eq_false_iff.mpr unstarted)

/-- The listener holds no guard between two sections, and there is none before the loops have
started. -/
structure Coherent (state : State) : Prop where
  locking : Transmitter.Locking state.transmitter
  unstarted : state.started = false → state.transmitter.listen.isStuck = false
  opening : state.opening = .answered → state.started = false

theorem coherent_initial : Coherent {} :=
  ⟨⟨fun _ => rfl, nofun, nofun⟩, fun _ => rfl, fun _ => rfl⟩

variable {transmitter : Transmitter.State}

theorem locking_of_listen {other : Transmitter.State} (locking : Transmitter.Locking transmitter)
    (listen : other.listen = transmitter.listen) (lock : other.lock = transmitter.lock)
    (collector : other.collector = transmitter.collector) : Transmitter.Locking other := by
  obtain ⟨free, resumable, registered⟩ := locking
  constructor
  · rw [listen, lock]
    exact free
  · rw [listen]
    exact resumable
  · rw [listen, collector]
    exact registered

theorem locking_dropWorkers (locking : Transmitter.Locking transmitter)
    (healthy : transmitter.listen.isStuck = false) :
    Transmitter.Locking (dropWorkers transmitter) :=
  ⟨fun _ => locking.free healthy, nofun, nofun⟩

theorem Moves.coherent (coherent : Coherent state) (moves : Moves env state label next) :
    Coherent next := by
  have locking := coherent.locking
  cases moves with
  | @transaction label transmitter permitted took =>
    have move := Transmitter.step_transition locking took
    refine ⟨move.locking locking, ?_, coherent.opening⟩
    intro unstarted
    have unstarted : state.started = false := unstarted
    have elsewhere : label ≠ .shutdownRuntime ∧ ∀ choice, label ≠ .listen choice := by
      constructor
      · intro same
        subst same
        cases permitted
      · intro choice same
        subst same
        rw [show state.started = true from permitted] at unstarted
        cases unstarted
    dsimp only
    rw [move.listen_kept elsewhere]
    exact coherent.unstarted unstarted
  | created => exact ⟨locking, coherent.unstarted, nofun⟩
  | createdStopped phase =>
    have healthy := coherent.unstarted (coherent.opening phase)
    exact ⟨locking_dropWorkers locking healthy, fun _ => rfl, nofun⟩
  | workersStarted opened => exact ⟨locking, nofun, fun phase => absurd phase opened⟩
  | registered =>
    exact ⟨locking_of_listen locking rfl rfl rfl, coherent.unstarted, nofun⟩
  | dropping =>
    have move : Transmitter.Transition env state.transmitter .forceClose _ :=
      Transmitter.forceClose_transition
    refine ⟨move.locking locking, ?_, coherent.opening⟩
    dsimp only
    rw [move.listen_kept (by simp)]
    exact coherent.unstarted
  | connectionDropped =>
    exact ⟨locking_of_listen locking rfl rfl rfl, coherent.unstarted, coherent.opening⟩
  | drained took =>
    have move : Transmitter.Transition env state.transmitter .connectionForceClose _ :=
      Transmitter.step_transition locking took
    refine ⟨move.locking locking, ?_, coherent.opening⟩
    cases move
    exact coherent.unstarted
  | listenerAborted opened took =>
    have move : Transmitter.Transition env state.transmitter .shutdownRuntime _ :=
      Transmitter.step_transition locking took
    refine ⟨move.locking locking, ?_, coherent.opening⟩
    cases move
    exact fun _ => rfl
  | workersDropped opened unstarted =>
    exact ⟨locking_dropWorkers locking (coherent.unstarted unstarted), fun _ => rfl,
      coherent.opening⟩
  | _ => exact ⟨locking, coherent.unstarted, coherent.opening⟩

theorem run_invariant {invariant : State → Prop} {condition : State → Label → Prop}
    (preserved : ∀ {state next label}, Coherent state →
      invariant state → condition state label → Moves env state label next → invariant next)
    (initially : invariant {}) {labels : List Label}
    (meets : (system env).Meets condition {} labels)
    (ran : (system env).run {} labels = some state) : invariant state := by
  have kept : ∀ {state next label},
      Coherent state ∧ invariant state → condition state label →
      (system env).step state label = some next → Coherent next ∧ invariant next := by
    intro state next label ⟨coherent, holds⟩ allowed took
    have moves := step_moves took
    exact ⟨moves.coherent coherent, preserved coherent holds allowed moves⟩
  exact (TransitionSystem.run_invariant kept ⟨coherent_initial, initially⟩ meets ran).2

/-- The handle is dropped after the flag is cleared, and not before the signal of its own
`force_close` is sent. -/
structure Watched (state : State) : Prop where
  guarded : Transmitter.Guarded state.transmitter
  released : state.handle ≠ .held → state.transmitter.isOpen = false
  settled : state.handle = .dropped → state.transmitter.forceClosing.inProgress = false

theorem watched_initial : Watched {} := ⟨nofun, fun gone => absurd rfl gone, nofun⟩

def announces (state : State) : Label → Bool
  | .transaction label => Transmitter.announces state.transmitter label
  | .stopRuntime => Transmitter.announces state.transmitter .shutdownRuntime
  | _ => true

theorem guarded_dropWorkers (transmitter : Transmitter.State) :
    Transmitter.Guarded (dropWorkers transmitter) :=
  fun _ => .inl (Transmitter.stops_iff.mpr (.inl (.inl rfl)))

theorem Watched.transaction (watched : Watched state) (coherent : Coherent state)
    {label : Transmitter.Label} (permitted : permits state label = true)
    (took : Transmitter.step env state.transmitter label = some transmitter)
    (announced : Transmitter.announces state.transmitter label = true) :
    Watched { state with transmitter } := by
  have move := Transmitter.step_transition coherent.locking took
  refine ⟨move.guarded watched.guarded announced, ?_, ?_⟩
  · intro gone
    exact move.closed (watched.released gone)
  · intro dropped
    have dropped : state.handle = .dropped := dropped
    have settled := watched.settled dropped
    have elsewhere : label ≠ .forceClose ∧ label ≠ .forceCloseStep := by
      constructor
      · intro same
        subst same
        simp [permits, dropped] at permitted
      · intro same
        subst same
        rw [Transmitter.forceCloseStep_inProgress took] at settled
        cases settled
    dsimp only
    rw [move.forceClosing_kept elsewhere]
    exact settled

theorem Moves.watched (coherent : Coherent state) (watched : Watched state)
    (announced : announces state label = true) (moves : Moves env state label next) :
    Watched next := by
  obtain ⟨guarded, released, settled⟩ := watched
  cases moves with
  | transaction permitted took =>
    exact Watched.transaction ⟨guarded, released, settled⟩ coherent permitted took announced
  | createdStopped => exact ⟨guarded_dropWorkers _, released, settled⟩
  | dropping held =>
    have move : Transmitter.Transition env state.transmitter .forceClose _ :=
      Transmitter.forceClose_transition
    exact ⟨move.guarded guarded rfl, fun _ => Transmitter.forceClose_isOpen _, nofun⟩
  | dropped phase done =>
    refine ⟨guarded, fun _ => released ?_, fun _ => done⟩
    rw [phase]
    exact nofun
  | drained took =>
    have move : Transmitter.Transition env state.transmitter .connectionForceClose _ :=
      Transmitter.step_transition coherent.locking took
    have guarded := move.guarded guarded rfl
    cases move
    exact ⟨guarded, released, settled⟩
  | listenerAborted opened took =>
    have move : Transmitter.Transition env state.transmitter .shutdownRuntime _ :=
      Transmitter.step_transition coherent.locking took
    have announced : Transmitter.announces state.transmitter .shutdownRuntime = true := announced
    have guarded := move.guarded guarded announced
    cases move
    exact ⟨guarded, released, settled⟩
  | workersDropped => exact ⟨guarded_dropWorkers _, released, settled⟩
  | _ => exact ⟨guarded, released, settled⟩

/-- In runs where the listener is not stopped between clearing the flag and sending its signal,
unless the dispatch loop stops without it, the dispatch loop is never orphaned. -/
theorem dispatch_never_orphaned (env : Environment) {labels : List Label} {state : State}
    (meets : (system env).Meets (fun state label => announces state label = true) {} labels)
    (ran : (system env).run {} labels = some state) : ¬ Orphaned state := by
  have watched := run_invariant
    (fun coherent watched announced moves => Moves.watched coherent watched announced moves)
    watched_initial meets ran
  intro orphaned
  obtain ⟨-, running, silent, dropped, -, ended⟩ := orphaned
  have closed := watched.released (by rw [dropped]; exact nofun)
  rcases watched.guarded closed with stopping | closing
  · rw [Transmitter.stops, running, silent, watched.settled dropped] at stopping
    cases stopping
  · rw [ended] at closing
    cases closing.2

/-- The server ends the stream and everything is dropped while the listener is in `close`; it
sends its signal before the runtime stops. -/
def orderlyRun : List Label :=
  openRun ++ [.transaction .endStream, .transaction (.listen 0), .drop, .finishDrop,
    .dropConnection, .dropRuntime] ++ List.replicate 5 (.transaction (.listen 0)) ++ [.stopRuntime]

theorem dispatch_never_orphaned_orderly :
    ∃ state, (system .basic).run {} orderlyRun = some state ∧
      state.transmitter.listen.isOver = true ∧ state.handle = .dropped ∧ ¬ Orphaned state := by
  have meets : (system .basic).Meets (fun state label => announces state label = true) {}
      orderlyRun := by decide
  have ran : (system .basic).run {} orderlyRun = some _ := rfl
  exact ⟨_, ran, rfl, rfl, dispatch_never_orphaned .basic meets ran⟩

/-- The server ends the stream; while `close` awaits a callback, the transaction and the driver
are dropped, and the runtime drops the listener. -/
def orphaningRun : List Label :=
  openRun ++ [.transaction .onClose] ++
    List.replicate 3 (.transaction (.dispatch ⟨[]⟩)) ++ [.transaction .endStream] ++
    List.replicate 5 (.transaction (.listen 0)) ++
    [.drop, .finishDrop, .dropConnection, .dropRuntime, .stopRuntime]

theorem dispatch_orphaned :
    ∃ state, (system .basic).run {} orphaningRun = some state ∧ Orphaned state :=
  ⟨_, rfl, rfl, rfl, rfl, rfl, rfl, rfl⟩

/-- As long as the flag is set, the connection does not signal, the runtime goes on, and neither
loop panics. -/
def serves (env : Environment) (state : State) : Label → Bool
  | .transaction label => Transmitter.serves env state.transmitter label
  | .create => !state.runtimeStopped
  | .drainConnection _ => !(state.transmitter.isOpen && state.transmitter.shutdownSender)
  | .stopRuntime => state.opening == .answered || !state.transmitter.isOpen
  | _ => true

theorem connectionForceClose_spec {after : Transmitter.State}
    (took : Transmitter.connectionForceClose transmitter = some after) :
    transmitter.shutdownSender = true ∧ after.isOpen = transmitter.isOpen := by
  simp only [Transmitter.connectionForceClose, ite_none_right_eq_some, Option.some.injEq] at took
  obtain ⟨held, rfl⟩ := took
  exact ⟨held, rfl⟩

theorem shutdownRuntime_isOpen {after : Transmitter.State}
    (took : Transmitter.shutdownRuntime transmitter = some after) :
    after.isOpen = transmitter.isOpen := by
  unfold Transmitter.shutdownRuntime at took
  split at took <;> cases took <;> rfl

theorem Moves.served (coherent : Coherent state) (served : Transmitter.Served state.transmitter)
    (serving : serves env state label = true) (moves : Moves env state label next) :
    Transmitter.Served next.transmitter := by
  cases moves with
  | transaction permitted took =>
    refine served.step coherent.locking ⟨?_, ?_⟩ serving took
    · intro same
      subst same
      cases permitted
    · intro same
      subst same
      cases permitted
  | createdStopped phase stopped =>
    rw [serves, stopped] at serving
    cases serving
  | dropping => exact Transmitter.served_of_closed (Transmitter.forceClose_isOpen _)
  | drained took =>
    obtain ⟨held, same⟩ := connectionForceClose_spec took
    refine Transmitter.served_of_closed ?_
    dsimp only
    rw [same]
    simpa [serves, held] using serving
  | listenerAborted opened took =>
    refine Transmitter.served_of_closed ?_
    dsimp only
    rw [shutdownRuntime_isOpen took]
    simpa [serves, opened] using serving
  | workersDropped opened =>
    have closed : state.transmitter.isOpen = false := by simpa [serves, opened] using serving
    exact Transmitter.served_of_closed closed
  | registered | connectionDropped => exact fun isOpen => { served isOpen with }
  | _ => exact served

/-- In runs where an open transaction gets no signal from its connection, where the runtime does
not stop under it, and where neither of its loops panics, `is_open` is false as soon as one of
the loops is over. -/
theorem open_transaction_served (env : Environment) {labels : List Label} {state : State}
    (meets : (system env).Meets (fun state label => serves env state label = true) {} labels)
    (ran : (system env).run {} labels = some state)
    (ended : state.transmitter.dispatch.isOver = true ∨ state.transmitter.listen.isOver = true) :
    state.transmitter.isOpen = false := by
  have initially : Transmitter.Served ({} : State).transmitter :=
    fun _ => ⟨rfl, rfl, rfl, rfl, rfl, rfl⟩
  have kept : ∀ {state next label}, Coherent state →
      Transmitter.Served state.transmitter → serves env state label = true →
      Moves env state label next → Transmitter.Served next.transmitter :=
    fun coherent served serving moves => moves.served coherent served serving
  have served := run_invariant kept initially meets ran
  cases isOpen : state.transmitter.isOpen with
  | false => rfl
  | true =>
    have running := served isOpen
    rcases ended with ended | ended
    · rw [running.dispatching] at ended
      cases ended
    · rw [running.listening] at ended
      cases ended

def closingRun : List Label :=
  openRun ++ [.transaction .forceClose, .transaction .forceCloseStep, .transaction .forceCloseStep,
    .transaction (.dispatch ⟨[]⟩), .forceClose, .drainConnection 0, .closeRuntime 0, .stopRuntime]

theorem open_transaction_served_closing :
    ∃ state, (system .basic).run {} closingRun = some state ∧
      state.transmitter.dispatch.isOver = true ∧ state.transmitter.isOpen = false := by
  have meets : (system .basic).Meets (fun state label => serves .basic state label = true) {}
      closingRun := by decide
  have ran : (system .basic).run {} closingRun = some _ := rfl
  exact ⟨_, ran, rfl, open_transaction_served .basic meets ran (.inl rfl)⟩

def forcedRun : List Label :=
  openRun ++ [.forceClose, .drainConnection 0, .closeRuntime 0, .transaction (.dispatch ⟨[]⟩),
    .stopRuntime]

theorem open_transaction_unserved :
    ∃ state, (system .basic).run {} forcedRun = some state ∧
      state.transmitter.dispatch = .ended ∧ state.transmitter.listen = .aborted ∧
      state.forceCloses = [.returned] ∧ state.transmitter.isOpen = true :=
  ⟨_, rfl, rfl, rfl, rfl, rfl⟩

end Lifecycle

end TypeDBDriver
