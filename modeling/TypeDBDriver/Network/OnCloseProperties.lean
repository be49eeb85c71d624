import TypeDBDriver.Network.TransmitterInvariant

/-! The way of an `on_close` callback: through a channel to the dispatch loop, into the
vector that the listener takes when the transaction closes, and from there one at a time
to the callback handler. -/

namespace TypeDBDriver

open Library
open Proto.Transaction (Server)
open ResponseCollector (Begins Completes)
open List (count_append count_cons count_nil mem_append replicate)

namespace DispatchPhase

def inHand : DispatchPhase → List Callback
  | .pushing callback => [callback]
  | _ => []

end DispatchPhase

namespace ListenPhase

def uncalled : ListenPhase → List Callback
  | .calling _ callbacks | .awaiting _ _ callbacks => callbacks
  | _ => []

def current : ListenPhase → List Callback
  | .awaiting _ callback _ => [callback]
  | _ => []

variable {phase : ListenPhase}

theorem eq_nil_of_sublist_current {callback : Callback} {rest : List Callback}
    (waited : (callback :: rest).Sublist phase.current) : rest = [] := by
  have bound : phase.current.length ≤ 1 := by cases phase <;> simp [current]
  have length := Nat.le_trans waited.length_le bound
  simpa using length

def hasTaken : ListenPhase → Bool
  | .calling _ _ | .awaiting _ _ _ | .signalling | .ended => true
  | _ => false

def isClosing : ListenPhase → Bool
  | .storingError _ | .takingListeners _ | .finishing _ _ | .takingCallbacks _ => true
  | phase => phase.hasTaken

theorem isClosing_of_hasTaken (taken : phase.hasTaken = true) : phase.isClosing = true := by
  cases phase <;> first | rfl | cases taken

def isDead : ListenPhase → Bool
  | .panicked _ _ | .aborted => true
  | _ => false

end ListenPhase

namespace Transmitter

variable {env : Environment} {state next : State} {label : Label}

section Kept

variable {callback other : Callback} {uncalled queue invoked : List Callback}

theorem mem_of_sent (placed : other ∈ callback :: uncalled ++ queue ++ invoked) :
    other ∈ uncalled ++ (queue ++ [callback]) ++ invoked := by
  simp only [mem_append, List.mem_cons] at placed ⊢
  tauto

theorem mem_of_run (placed : other ∈ uncalled ++ [callback] ++ invoked) :
    other ∈ uncalled ++ [] ++ (invoked ++ [callback]) := by
  simp only [mem_append] at placed ⊢
  tauto

end Kept

/-- Every callback that is not lost, wherever it is. -/
def stages (state : State) : List Callback :=
  state.callbackQueue ++ state.dispatch.inHand ++ state.onClose ++ state.listen.uncalled ++
    state.handlerQueue ++ state.invoked

def early (state : State) : List Callback :=
  (List.range state.registrations.length).filter fun callback =>
    state.registrations[callback]? == some true

variable {callback : Callback}

theorem mem_early : callback ∈ early state ↔ state.registrations[callback]? = some true := by
  simp only [early, List.mem_filter, List.mem_range, beq_iff_eq, and_iff_right_iff_imp]
  exact fun registered => (List.getElem?_eq_some_iff.mp registered).1

/-- The vector is taken when all early callbacks are in it, the handler lives as long as it
has something to do, and nothing ends the listener from outside. -/
def keepsCallbacks (env : Environment) (state : State) : Label → Bool
  | .listen _ =>
    match state.listen with
    | .receiving | .collecting _ _ =>
      (currentMessage state).all fun message => message.requestId.all fun requestId =>
        (state.collector.callbacks.lookup requestId).all fun sink =>
          !message.crashes env.chrono sink
    | .takingCallbacks _ => (early state).all state.onClose.contains
    | .calling _ (_ :: _) => state.handlerAlive
    | _ => true
  | .loseHandler => state.handlerQueue.isEmpty
  | .shutdownRuntime => false
  | _ => true

/-- No callback is in two places, and once the vector is taken no early one is lost. -/
structure Ledger (state : State) : Prop where
  once : ∀ callback, (stages state).count callback ≤ 1
  bounded : ∀ callback ∈ stages state, callback < state.registrations.length
  handed : state.handlerQueue.Sublist state.listen.current
  closed : state.listen.isClosing = true → state.isOpen = false
  kept : state.listen.hasTaken = true → ∀ callback ∈ early state,
    callback ∈ state.listen.uncalled ++ state.handlerQueue ++ state.invoked
  alive : state.listen.isDead = false

/-- No callback is in two places: the part of the ledger that nothing can break. -/
structure Placed (state : State) : Prop where
  once : ∀ callback, (stages state).count callback ≤ 1
  bounded : ∀ callback ∈ stages state, callback < state.registrations.length

theorem placed_initial : Placed {} where
  once _ := Nat.zero_le _
  bounded _ member := by cases member

theorem Ledger.placed (held : Ledger state) : Placed state :=
  ⟨held.once, held.bounded⟩

theorem ledger_initial : Ledger {} where
  once _ := Nat.zero_le _
  bounded _ member := by cases member
  handed := .refl _
  closed closing := by cases closing
  kept taken := by cases taken
  alive := rfl

theorem Placed.move (placed : Placed state)
    (registrations : next.registrations = state.registrations)
    (fewer : ∀ callback, (stages next).count callback ≤ (stages state).count callback) :
    Placed next where
  once callback := Nat.le_trans (fewer callback) (placed.once callback)
  bounded callback member := by
    rw [registrations]
    refine placed.bounded callback (List.count_pos_iff.mp ?_)
    exact Nat.lt_of_lt_of_le (List.count_pos_iff.mpr member) (fewer callback)

section

variable (held : Ledger state) (registrations : next.registrations = state.registrations)

include held registrations

theorem Ledger.move
    (fewer : ∀ callback, (stages next).count callback ≤ (stages state).count callback)
    (handed : next.handlerQueue.Sublist next.listen.current)
    (closed : next.listen.isClosing = true → next.isOpen = false)
    (kept : next.listen.hasTaken = true → ∀ callback ∈ early state,
      callback ∈ next.listen.uncalled ++ next.handlerQueue ++ next.invoked)
    (alive : next.listen.isDead = false) : Ledger next where
  once := (held.placed.move registrations fewer).once
  bounded := (held.placed.move registrations fewer).bounded
  handed := handed
  closed := closed
  kept taken callback member := by
    refine kept taken callback ?_
    simpa only [early, registrations] using member
  alive := alive

theorem Ledger.dispatched (listen : next.listen = state.listen)
    (handler : next.handlerQueue = state.handlerQueue) (invoked : next.invoked = state.invoked)
    (isOpen : next.isOpen = state.isOpen) (fewer : ∀ callback,
      (next.callbackQueue ++ next.dispatch.inHand ++ next.onClose).count callback ≤
        (state.callbackQueue ++ state.dispatch.inHand ++ state.onClose).count callback) :
    Ledger next := by
  refine held.move registrations ?_ ?_ ?_ ?_ ?_
  · intro callback
    have fewer := fewer callback
    simp only [stages, listen, handler, invoked, count_append] at fewer ⊢
    omega
  · rw [handler, listen]
    exact held.handed
  · rw [listen, isOpen]
    exact held.closed
  · rw [listen, handler, invoked]
    exact held.kept
  · rw [listen]
    exact held.alive

theorem Ledger.listened (queue : next.callbackQueue = state.callbackQueue)
    (dispatch : next.dispatch = state.dispatch) (onClose : next.onClose = state.onClose)
    (handler : next.handlerQueue = state.handlerQueue) (invoked : next.invoked = state.invoked)
    (current : state.listen.current = []) (uncalled : next.listen.uncalled = [])
    (taken : next.listen.hasTaken = true →
      state.listen.hasTaken = true ∧ state.listen.uncalled = [])
    (closed : next.listen.isClosing = true → next.isOpen = false)
    (alive : next.listen.isDead = false) : Ledger next := by
  have idle : state.handlerQueue = [] := by simpa [current] using held.handed
  refine held.move registrations ?_ ?_ closed ?_ alive
  · intro callback
    simp only [stages, queue, dispatch, onClose, handler, invoked, uncalled, count_append,
      count_nil]
    omega
  · simp [handler, idle]
  · intro now callback member
    obtain ⟨before, empty⟩ := taken now
    simpa [uncalled, handler, invoked, empty] using held.kept before callback member

end

theorem Placed.onClose (placed : Placed state) : Placed (onClose state) := by
  have fresh : (stages state).count state.registrations.length = 0 :=
    List.count_eq_zero.mpr fun member => lt_irrefl _ (placed.bounded _ member)
  have counts : ∀ callback, (stages (Transmitter.onClose state)).count callback ≤
      (state.registrations.length :: stages state).count callback := by
    intro callback
    simp only [stages, Transmitter.onClose]
    split_ifs <;> simp only [count_append, count_cons, count_nil] <;> omega
  constructor
  · intro callback
    refine Nat.le_trans (counts callback) ?_
    have once := placed.once callback
    rw [count_cons]
    split_ifs with same
    · rw [← beq_iff_eq.mp same, fresh]
    · exact once
  · intro callback member
    simp only [Transmitter.onClose, List.length_append, List.length_singleton]
    have present := Nat.lt_of_lt_of_le (List.count_pos_iff.mpr member) (counts callback)
    rcases List.mem_cons.mp (List.count_pos_iff.mp present) with rfl | member
    · exact Nat.lt_succ_self _
    · exact Nat.lt_succ_of_lt (placed.bounded callback member)

theorem Ledger.onClose (held : Ledger state) : Ledger (onClose state) := by
  have placed := held.placed.onClose
  refine { held with once := placed.once, bounded := placed.bounded, kept := ?_ }
  intro taken callback member
  have closed : state.isOpen = false := held.closed (ListenPhase.isClosing_of_hasTaken taken)
  refine held.kept taken callback (mem_early.mpr ?_)
  have registered := mem_early.mp member
  simp only [Transmitter.onClose, closed, List.getElem?_append] at registered
  split_ifs at registered
  · exact registered
  · simp [List.getElem?_singleton] at registered

variable {choice : Nat} {error : Option Error}

theorem Ledger.callbacksTaken (held : Ledger state)
    (keeps : keepsCallbacks env state (.listen choice) = true)
    (phase : state.listen = .takingCallbacks error) :
    Ledger { state with onClose := [], listen := .calling error state.onClose } := by
  have idle : state.handlerQueue = [] := by simpa [phase, ListenPhase.current] using held.handed
  refine held.move rfl ?_ ?_ (fun _ => held.closed (by rw [phase]; rfl)) ?_ rfl
  · intro callback
    simp [stages, phase, ListenPhase.uncalled]
  · simp [idle]
  · intro _ callback member
    simp only [keepsCallbacks, phase, List.all_eq_true, List.contains_iff_mem] at keeps
    exact List.mem_append_left _ (List.mem_append_left _ (keeps callback member))

variable {rest : List Callback}

theorem Ledger.callbackSent (held : Ledger state)
    (phase : state.listen = .calling error (callback :: rest)) :
    Ledger { state with
      handlerQueue := state.handlerQueue ++ [callback]
      listen := .awaiting error callback rest } := by
  have idle : state.handlerQueue = [] := by simpa [phase, ListenPhase.current] using held.handed
  refine held.move rfl ?_ ?_ (fun _ => held.closed (by rw [phase]; rfl)) ?_ rfl
  · intro other
    simp only [stages, phase, ListenPhase.uncalled, count_append, count_cons, count_nil]
    omega
  · simp [idle, ListenPhase.current]
  · intro _ other member
    have kept := held.kept (by rw [phase]; rfl) other member
    rw [phase] at kept
    exact mem_of_sent kept

theorem Ledger.callbackAnswered (held : Ledger state)
    (phase : state.listen = .awaiting error callback rest)
    (answered : callback ∉ state.handlerQueue) :
    Ledger { state with listen := .calling error rest } := by
  have idle : state.handlerQueue = [] := by
    have handed := held.handed
    rw [phase] at handed
    rcases List.sublist_singleton.mp handed with empty | same
    · exact empty
    · simp [same] at answered
  refine held.move rfl ?_ ?_ (fun _ => held.closed (by rw [phase]; rfl)) ?_ rfl
  · intro other
    simp [stages, phase, ListenPhase.uncalled]
  · simp [idle]
  · intro _ other member
    have kept := held.kept (by rw [phase]; rfl) other member
    simpa only [phase, ListenPhase.uncalled] using kept

theorem Ledger.callbackRun (held : Ledger state) {panics : Bool}
    (queue : state.handlerQueue = callback :: rest) :
    Ledger { state with
      invoked := state.invoked ++ [callback]
      handlerAlive := state.handlerAlive && !panics
      handlerQueue := if panics then [] else rest } := by
  have alone : rest = [] := ListenPhase.eq_nil_of_sublist_current (queue ▸ held.handed)
  subst alone
  refine held.move rfl ?_ ?_ held.closed ?_ held.alive
  · intro other
    simp only [stages, queue, ite_self, count_append, count_cons, count_nil]
    omega
  · simp
  · intro taken other member
    have kept := held.kept taken other member
    rw [queue] at kept
    rw [ite_self]
    exact mem_of_run kept

variable {message : Server}

theorem not_crashes_of_keeps {requestId : RequestID} {sink : ResponseSink}
    (keeps : keepsCallbacks env state (.listen choice) = true)
    (current : currentMessage state = some message) (named : message.requestId = some requestId)
    (found : state.collector.callbacks.lookup requestId = some sink) :
    message.crashes env.chrono sink = false := by
  have collecting : (∃ held rest, state.listen = .collecting held rest) ∨
      state.listen = .receiving := by
    cases phase : state.listen <;> simp [currentMessage, phase] at current ⊢
  rcases collecting with ⟨held, rest, phase⟩ | phase <;>
    simpa [keepsCallbacks, phase, current, named, found] using keeps

variable {progress : Progress Collector PanicCause Unit}

theorem Ledger.begins (held : Ledger state) {rest : List Server}
    (keeps : keepsCallbacks env state (.listen choice) = true) (phase : state.listen = .receiving)
    (incoming : state.incoming = message :: rest)
    (collects : Begins env.chrono state.collector message progress) :
    Ledger (endSection { state with incoming := rest } message progress) := by
  have current := currentMessage_of_receiving phase incoming
  have idle : state.listen.current = [] := by rw [phase]; rfl
  cases progress with
  | finished | paused | deadlocked =>
    exact held.listened rfl rfl rfl rfl rfl rfl idle rfl (by rintro ⟨⟩) (by rintro ⟨⟩) rfl
  | panicked cause lock memory =>
    obtain ⟨requestId, sink, named, found, crashes⟩ := collects.crashes
    cases (not_crashes_of_keeps keeps current named found).symm.trans crashes

theorem Ledger.completes (held : Ledger state) (locking : Locking state) {rest : Action Unit}
    (keeps : keepsCallbacks env state (.listen choice) = true)
    (phase : state.listen = .collecting message rest)
    (collects : Completes state.collector message progress) :
    Ledger (endSection state message progress) := by
  have current := currentMessage_of_collecting phase
  have idle : state.listen.current = [] := by rw [phase]; rfl
  cases progress with
  | finished | paused | deadlocked =>
    exact held.listened rfl rfl rfl rfl rfl rfl idle rfl (by rintro ⟨⟩) (by rintro ⟨⟩) rfl
  | panicked cause lock memory =>
    obtain ⟨requestId, sink, named, found, crashes⟩ :=
      collects.crashes (locking.registeredResponse phase)
    cases (not_crashes_of_keeps keeps current named found).symm.trans crashes

theorem Transition.ledger (sound : Sound env state) (held : Ledger state)
    (keeps : keepsCallbacks env state label = true) (move : Transition env state label next) :
    Ledger next := by
  cases move with
  | onClose => exact held.onClose
  | noSignal phase | noCallback phase | drained phase | requestTaken phase | streamTaken phase
    | registered phase | flushed phase | flushedForwarding phase =>
      refine held.dispatched rfl rfl rfl rfl rfl fun callback => ?_
      simp [phase, DispatchPhase.inHand, forward]
  | buffered phase | bufferedForwarding phase =>
    refine held.dispatched rfl rfl rfl rfl rfl fun callback => ?_
    simp [phase, DispatchPhase.inHand, forward, pushRequest]
  | callbackTaken phase queue =>
    refine held.dispatched rfl rfl rfl rfl rfl fun callback => ?_
    simp only [queue, phase, DispatchPhase.inHand, count_append, count_cons, count_nil]
    omega
  | callbackPushed phase =>
    refine held.dispatched rfl rfl rfl rfl rfl fun callback => ?_
    simp only [phase, DispatchPhase.inHand, count_append, count_cons, count_nil]
    omega
  | stopped | stoppedForwarding | dispatchPanicked =>
    refine held.dispatched rfl rfl rfl rfl rfl fun callback => ?_
    exact (List.sublist_append_right _ state.onClose).count_le callback
  | begins phase incoming collects => exact held.begins keeps phase incoming collects
  | completes phase collects => exact held.completes sound.locking keeps phase collects
  | callbacksTaken phase => exact held.callbacksTaken keeps phase
  | callbackSent phase => exact held.callbackSent phase
  | callbackAnswered phase answered => exact held.callbackAnswered phase answered
  | callbackRun queue => exact held.callbackRun queue
  | closing phase | closingWithError phase =>
    exact held.listened rfl rfl rfl rfl rfl rfl (by rw [phase]; rfl) rfl (by rintro ⟨⟩)
      (fun _ => rfl) rfl
  | errorStored phase | listenersTaken phase | listenersDone phase | listenerFinished phase =>
    exact held.listened rfl rfl rfl rfl rfl rfl (by rw [phase]; rfl) rfl (by rintro ⟨⟩)
      (fun _ => held.closed (by rw [phase]; rfl)) rfl
  | callbacksDone phase | signalled phase =>
    exact held.listened rfl rfl rfl rfl rfl rfl (by rw [phase]; rfl) rfl
      (fun _ => by rw [phase]; exact ⟨rfl, rfl⟩) (fun _ => held.closed (by rw [phase]; rfl)) rfl
  | handlerGone phase gone => simp [keepsCallbacks, phase, gone] at keeps
  | aborted => cases keeps
  | handlerLost =>
    have idle : state.handlerQueue = [] := List.isEmpty_iff.mp keeps
    exact held.move rfl (by simp [stages, idle]) (List.nil_sublist _) held.closed
      (by simpa [idle] using held.kept) held.alive
  | forceClosed => exact { held with closed := fun _ => rfl }
  | _ => exact { held with }

theorem Transition.placed (placed : Placed state) (move : Transition env state label next) :
    Placed next := by
  cases move with
  | onClose => exact placed.onClose
  | noSignal phase | noCallback phase | drained phase | requestTaken phase | streamTaken phase
    | registered phase | flushed phase | flushedForwarding phase | buffered phase
    | bufferedForwarding phase =>
      refine placed.move rfl fun callback => ?_
      simp [stages, phase, DispatchPhase.inHand, forward, pushRequest]
  | callbackTaken phase queue =>
    refine placed.move rfl fun callback => ?_
    simp only [stages, queue, phase, DispatchPhase.inHand, count_append, count_cons, count_nil]
    omega
  | callbackPushed phase =>
    refine placed.move rfl fun callback => ?_
    simp only [stages, phase, DispatchPhase.inHand, count_append, count_cons, count_nil]
    omega
  | stopped | stoppedForwarding | dispatchPanicked =>
    refine placed.move rfl fun callback => ?_
    simp only [stages, leaveDispatch, forward, DispatchPhase.inHand, count_append, count_nil]
    omega
  | begins phase | completes phase =>
    unfold endSection
    split <;>
      refine placed.move rfl fun callback => ?_ <;>
      simp [stages, phase, ListenPhase.uncalled]
  | callbackSent phase | callbackAnswered phase | callbacksTaken phase | closing phase
    | closingWithError phase | errorStored phase | listenersTaken phase | listenersDone phase
    | listenerFinished phase | callbacksDone phase | signalled phase | handlerGone phase =>
      refine placed.move rfl fun callback => ?_
      simp only [stages, signalShutdown, phase, ListenPhase.uncalled, count_append,
        count_cons, count_nil]
      omega
  | aborted =>
    refine placed.move rfl fun callback => ?_
    simp only [stages, ListenPhase.uncalled, count_append, count_nil]
    omega
  | callbackRun queue =>
    refine placed.move rfl fun callback => ?_
    split_ifs <;>
      simp only [stages, queue, count_append, count_cons, count_nil] <;> omega
  | handlerLost =>
    refine placed.move rfl fun callback => ?_
    simp only [stages, count_append, count_nil]
    omega
  | _ => exact { placed with }

/-- In runs that meet the condition, every callback that was registered while the
transaction was open has been invoked exactly once when both loops are over. -/
theorem early_callbacks_invoked_once (env : Environment) {labels : List Label} {state : State}
    (meets : (system env).Meets (fun state label => keepsCallbacks env state label = true) {}
      labels)
    (ran : (system env).run {} labels = some state) (_dispatchOver : state.dispatch.isOver = true)
    (listenOver : state.listen.isOver = true) (callback : Callback)
    (registered : state.registrations[callback]? = some true) :
    state.invoked.count callback = 1 := by
  obtain ⟨-, ledger⟩ := sound_run_invariant
    (fun sound held keeps move => move.ledger sound held keeps) ledger_initial meets ran
  have phase : state.listen = .ended := by
    have alive := ledger.alive
    cases phase : state.listen with
    | ended => rfl
    | panicked | aborted => simp [phase, ListenPhase.isDead] at alive
    | _ => simp [phase, ListenPhase.isOver] at listenOver
  have idle : state.handlerQueue = [] := by simpa [phase, ListenPhase.current] using ledger.handed
  have kept := ledger.kept (by rw [phase]; rfl) callback (mem_early.mpr registered)
  have once := ledger.once callback
  have invoked : 0 < state.invoked.count callback := by
    refine List.count_pos_iff.mpr ?_
    simpa [phase, ListenPhase.uncalled, idle] using kept
  simp only [stages, count_append] at once
  omega

def onCloseRun : List Label :=
  [.onClose] ++ replicate 5 (.dispatch ⟨[]⟩) ++ [.endStream] ++ replicate 5 (.listen 0) ++
    [.runCallback false] ++ replicate 3 (.listen 0) ++ [.dispatch ⟨[]⟩]

theorem early_callbacks_invoked_once_picked_up :
    ∃ state, (system .basic).run {} onCloseRun = some state ∧
      state.registrations[0]? = some true ∧ state.invoked.count 0 = 1 := by
  have meets : (system .basic).Meets
      (fun state label => keepsCallbacks .basic state label = true) {} onCloseRun := by decide
  exact ⟨_, rfl, rfl, early_callbacks_invoked_once .basic meets rfl rfl rfl 0 rfl⟩

/-- The server closes the stream before the dispatch loop comes round to the callback. -/
def overtakenOnCloseRun : List Label :=
  [.onClose, .endStream] ++ replicate 6 (.listen 0) ++ [.dispatch ⟨[]⟩]

theorem early_callback_never_invoked :
    ∃ state, (system .basic).run {} overtakenOnCloseRun = some state ∧
      state.dispatch.isOver = true ∧ state.listen.isOver = true ∧
      state.registrations[0]? = some true ∧ state.invoked = [] :=
  ⟨_, rfl, rfl, rfl, rfl, rfl⟩

/-- Every callback that is not lost, those that are called first in front. -/
def line (state : State) : List Callback :=
  state.invoked ++ state.handlerQueue ++ state.listen.uncalled ++ state.onClose ++
    state.dispatch.inHand ++ state.callbackQueue

/-- The number of the next registration closes the line. -/
def InOrder (state : State) : Prop :=
  (line state ++ [state.registrations.length]).Pairwise (· < ·)

theorem InOrder.sublist (held : InOrder state)
    (registrations : next.registrations = state.registrations)
    (sublist : (line next).Sublist (line state)) : InOrder next := by
  unfold InOrder
  rw [registrations]
  exact List.Pairwise.sublist (sublist.append_right _) held

theorem InOrder.onClose (held : InOrder state) : InOrder (onClose state) := by
  have earlier : ∀ callback ∈ line state, callback < state.registrations.length := by
    simpa using (List.pairwise_append.mp held).2.2
  have grown : (line state ++ [state.registrations.length] ++
      [state.registrations.length + 1]).Pairwise (· < ·) := by
    refine List.pairwise_append.mpr ⟨held, List.pairwise_singleton .., ?_⟩
    simp only [mem_append, List.mem_singleton]
    rintro callback (member | rfl) _ rfl
    · exact Nat.lt_succ_of_lt (earlier callback member)
    · exact Nat.lt_succ_self _
  refine List.Pairwise.sublist ?_ grown
  simp only [Transmitter.onClose, line, List.length_append, List.length_singleton]
  split_ifs <;> simp

theorem Transition.inOrder (held : InOrder state) (move : Transition env state label next) :
    InOrder next := by
  cases move with
  | onClose => exact held.onClose
  | dispatchPanicked | handlerLost | aborted =>
    refine held.sublist rfl ?_
    simp [line, leaveDispatch, DispatchPhase.inHand, ListenPhase.uncalled]
  | callbackRun queue =>
    refine held.sublist rfl ?_
    simp only [line, queue]
    split_ifs <;> simp
  | callbackTaken phase queue =>
    refine held.sublist rfl ?_
    simp [line, phase, queue, DispatchPhase.inHand]
  | @begins _ _ _ progress phase | @completes _ _ _ progress phase =>
    cases progress <;> refine held.sublist rfl ?_ <;>
      simp [line, endSection, phase, ListenPhase.uncalled]
  | stopped phase | stoppedForwarding phase | noSignal phase | noCallback phase
    | callbackPushed phase | drained phase | requestTaken phase | streamTaken phase
    | registered phase | buffered phase | bufferedForwarding phase | flushed phase
    | flushedForwarding phase | closing phase | closingWithError phase | errorStored phase
    | listenersTaken phase | listenersDone phase | listenerFinished phase | callbacksTaken phase
    | callbacksDone phase | callbackSent phase | handlerGone phase | callbackAnswered phase
    | signalled phase =>
      refine held.sublist rfl ?_
      simp [line, phase, leaveDispatch, forward, pushRequest, signalShutdown,
        DispatchPhase.inHand, ListenPhase.uncalled]
  | _ => exact held

/-- Callbacks are called in the order of the `on_close` calls that passed them, and none twice. -/
theorem callbacks_invoked_in_order (env : Environment) {labels : List Label}
    (ran : (system env).run {} labels = some state) : state.invoked.Pairwise (· < ·) := by
  have held : InOrder state :=
    run_preserves (fun _ => Transition.inOrder) (List.pairwise_singleton ..) ran
  refine List.Pairwise.sublist ?_ held
  simp only [line, List.append_assoc]
  exact List.sublist_append_left ..

def orderedOnCloseRun : List Label :=
  [.onClose, .onClose] ++ replicate 10 (.dispatch ⟨[]⟩) ++ [.endStream] ++
    replicate 5 (.listen 0) ++ [.runCallback false, .listen 0, .listen 0, .runCallback false]

theorem callbacks_invoked_in_order_pair :
    ∃ state, (system .basic).run {} orderedOnCloseRun = some state ∧
      state.invoked = [0, 1] ∧ state.invoked.Pairwise (· < ·) := by
  have ran : (system .basic).run {} orderedOnCloseRun = some _ := rfl
  exact ⟨_, ran, rfl, callbacks_invoked_in_order .basic ran⟩

end Transmitter

end TypeDBDriver
