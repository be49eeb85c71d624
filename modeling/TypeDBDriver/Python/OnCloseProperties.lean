import TypeDBDriver.Network.OnCloseProperties
import TypeDBDriver.Python.OnClose

/-! When the functions that Python registered for the close of a transaction survive it. -/

namespace TypeDBDriver

open Library

/-- How the stream ended, as `close` and `close_with_error` pass it on. -/
def Termination.ofError : Option Error → Termination
  | none => .clean
  | some error => .failed error

/-- The error that the callbacks of a close will get, from the moment it is known. -/
def ListenPhase.closeError : ListenPhase → Option (Option Error)
  | .storingError error => some (some error)
  | .takingListeners error | .finishing error _ | .takingCallbacks error | .calling error _
  | .awaiting error _ _ => some error
  | _ => none

namespace Transmitter

variable {env : Environment} {state next : State} {label : Label}

theorem closeError_endSection (state : State) (message : Proto.Transaction.Server)
    (progress : Progress Collector PanicCause Unit) :
    (endSection state message progress).listen.closeError = none := by
  cases progress <;> rfl

theorem Transition.termination_eq (move : Transition env state label next)
    (notClean : label ≠ .endStream)
    (notFailed : ∀ error arriving, label ≠ .failStream error arriving) :
    next.termination = state.termination := by
  cases move with
  | ended => exact absurd rfl notClean
  | failed => exact absurd rfl (notFailed _ _)
  | begins | completes =>
    unfold endSection
    split <;> rfl
  | _ => rfl

theorem step_termination {termination : Termination} (locking : Locking state)
    (took : step env state label = some next)
    (ended : state.termination = some termination) : next.termination = some termination := by
  have running : label ≠ .endStream ∧ ∀ error arriving, label ≠ .failStream error arriving := by
    constructor
    · intro again
      subst again
      simp [step, terminate, ended] at took
    · intro error arriving again
      subst again
      simp [step, terminate, ended] at took
  rw [(step_transition locking took).termination_eq running.1 running.2]
  exact ended

variable {error : Option Error}

theorem receive_closeError (took : receive env state = some next)
    (closing : next.listen.closeError = some error) :
    state.termination = some (.ofError error) := by
  unfold receive at took
  cases incoming : state.incoming with
  | cons message rest =>
    simp only [incoming, collectSection] at took
    obtain ⟨progress, -, rfl⟩ := Option.map_eq_some_iff.mp took
    rw [closeError_endSection] at closing
    cases closing
  | nil =>
    cases ended : state.termination with
    | none => simp [incoming, ended] at took
    | some termination =>
      cases termination with
      | clean | failed =>
        simp only [incoming, ended] at took
        cases took
        cases closing
        rfl

theorem step_closeError (locking : Locking state) (took : step env state label = some next)
    (closing : next.listen.closeError = some error) :
    state.listen.closeError = some error ∨ state.termination = some (.ofError error) := by
  by_cases receiving : state.listen = .receiving ∧ ∃ choice, label = .listen choice
  · obtain ⟨phase, choice, rfl⟩ := receiving
    simp only [step, listenStep, phase] at took
    exact .inr (receive_closeError took closing)
  · have move := step_transition locking took
    cases move with
    | begins phase | closing phase | closingWithError phase =>
      exact absurd ⟨phase, _, rfl⟩ receiving
    | completes phase =>
      rw [closeError_endSection] at closing
      cases closing
    | errorStored phase | listenersTaken phase | listenersDone phase | listenerFinished phase
      | callbacksTaken phase | callbackSent phase | callbackAnswered phase =>
        rw [phase]
        exact .inl closing
    | callbacksDone | handlerGone | signalled | aborted => cases closing
    | _ => exact .inl closing

end Transmitter

namespace Python.OnClose

open Transmitter (Transition Placed Sound)

variable {env : Environment} {texts : ErrorText} {state next : OnCloseState}

variable {label : Transmitter.Label}

variable {carried : List (Option Error)}

theorem handler_frame {before after : Transmitter.State}
    (move : Transition env before label after) (notRegister : label ≠ .onClose)
    (notRun : ∀ panics, label ≠ .runCallback panics)
    (aligned : carried.length = before.handlerQueue.length) :
    after.invoked = before.invoked ∧ after.registrations = before.registrations ∧
      (carry before carried label).length = after.handlerQueue.length ∧
      ∀ error ∈ carry before carried label,
        error ∈ carried ∨ before.listen.closeError = some error := by
  cases move with
  | onClose => exact absurd rfl notRegister
  | callbackRun => exact absurd rfl (notRun _)
  | callbackSent phase alive =>
    refine ⟨rfl, rfl, ?_⟩
    simp only [carry, phase, alive, if_true, List.length_append, List.mem_append,
      List.mem_singleton, aligned, List.length_singleton, true_and]
    intro error member
    rcases member with member | rfl
    · exact .inl member
    · exact .inr rfl
  | handlerGone phase gone =>
    refine ⟨rfl, rfl, ?_⟩
    simp only [carry, phase, gone]
    exact ⟨aligned, fun _ member => .inl member⟩
  | handlerLost => exact ⟨rfl, rfl, rfl, fun _ member => by cases member⟩
  | begins phase | completes phase =>
    simp only [carry, phase]
    unfold Transmitter.endSection
    split <;> exact ⟨rfl, rfl, aligned, fun _ member => .inl member⟩
  | closing phase | closingWithError phase | errorStored phase | listenersTaken phase
    | listenersDone phase | listenerFinished phase | callbacksTaken phase | callbacksDone phase
    | callbackAnswered phase | signalled phase =>
      refine ⟨rfl, rfl, ?_⟩
      simp only [carry, phase]
      exact ⟨aligned, fun _ member => .inl member⟩
  | _ => exact ⟨rfl, rfl, aligned, fun _ member => .inl member⟩

/-- Each callback that was not invoked yet has its director in the map, under an ID of its own,
and each that was invoked has been called. -/
structure Delivering (env : Environment) (state : OnCloseState) : Prop where
  sound : Sound env state.transmitter
  placed : Placed state.transmitter
  closing : ∀ {error : Option Error}, state.transmitter.listen.closeError = some error →
    state.transmitter.termination = some (.ofError error)
  aligned : state.carried.length = state.transmitter.handlerQueue.length
  carries : ∀ error ∈ state.carried, state.transmitter.termination = some (.ofError error)
  registered : state.ids.length = state.transmitter.registrations.length
  bounded : ∀ id ∈ state.ids, id < state.nextId
  distinct : state.ids.Nodup
  found : ∀ {callback id : Nat}, state.ids[callback]? = some id →
    callback ∉ state.transmitter.invoked → state.directors.lookup id = some (some callback)
  called : state.crashed = none → state.calls.map (·.1) = state.transmitter.invoked

theorem delivering_initial (env : Environment) : Delivering env {} where
  sound := Transmitter.sound_initial env
  placed := Transmitter.placed_initial
  closing closing := by cases closing
  aligned := rfl
  carries _ member := by cases member
  registered := rfl
  bounded _ member := by cases member
  distinct := List.nodup_nil
  found present := by simp at present
  called _ := rfl

theorem native_inversion (took : OnClose.native env state label = some next) :
    label ≠ .onClose ∧ (∀ panics, label ≠ .runCallback panics) ∧
      ∃ transmitter, Transmitter.step env state.transmitter label = some transmitter ∧
        { state with transmitter, carried := carry state.transmitter state.carried label } =
          next := by
  refine ⟨?_, ?_, ?_⟩
  · intro same
    subst same
    cases took
  · intro panics same
    subst same
    cases took
  · cases label with
    | onClose | runCallback => cases took
    | _ => exact Option.map_eq_some_iff.mp took

theorem Delivering.native (held : Delivering env state)
    (took : OnClose.native env state label = some next) : Delivering env next := by
  obtain ⟨notRegister, notRun, transmitter, native, rfl⟩ := native_inversion took
  have locking := held.sound.locking
  have move := Transmitter.step_transition locking native
  obtain ⟨invoked, registrations, aligned, origin⟩ :=
    handler_frame move notRegister notRun held.aligned
  have lasting : ∀ {termination : Termination},
      state.transmitter.termination = some termination →
      transmitter.termination = some termination :=
    fun ended => Transmitter.step_termination locking native ended
  refine { held with
    sound := move.sound held.sound
    placed := move.placed held.placed
    aligned := aligned
    closing := ?_
    carries := ?_
    registered := ?_
    found := ?_
    called := ?_ }
  · intro error closing
    rcases Transmitter.step_closeError locking native closing with before | ended
    · exact lasting (held.closing before)
    · exact lasting ended
  · intro error member
    rcases origin error member with before | now
    · exact lasting (held.carries error before)
    · exact lasting (held.closing now)
  · exact held.registered.trans (congrArg List.length registrations.symm)
  · intro callback id present waiting
    rw [invoked] at waiting
    exact held.found present waiting
  · intro running
    exact (held.called running).trans invoked.symm

variable {id : Nat}

theorem lookup_insert_of_mem (held : Delivering env state) {callback : Nat}
    (present : state.ids[callback]? = some id) (value : Option Callback) :
    (state.directors.insert state.nextId value).lookup id = state.directors.lookup id := by
  have older := held.bounded id (List.mem_of_getElem? present)
  exact AList.lookup_insert_ne (Nat.ne_of_lt older)

theorem Delivering.onClose (held : Delivering env state) :
    Delivering env (transactionOnCloseRegister state) := by
  have move : Transition env state.transmitter .onClose
      (Transmitter.onClose state.transmitter) := .onClose
  refine { held with
    sound := move.sound held.sound
    placed := held.placed.onClose
    registered := ?_
    bounded := ?_
    distinct := ?_
    found := ?_ }
  · simp [transactionOnCloseRegister, Transmitter.onClose, held.registered]
  · intro id member
    rcases List.mem_append.mp member with older | newest
    · exact Nat.lt_succ_of_lt (held.bounded id older)
    · cases List.mem_singleton.mp newest
      exact Nat.lt_succ_self _
  · refine List.Nodup.append held.distinct (List.nodup_singleton _) ?_
    intro id older newest
    cases List.mem_singleton.mp newest
    exact Nat.lt_irrefl _ (held.bounded _ older)
  · intro callback id present waiting
    simp only [transactionOnCloseRegister, List.getElem?_append] at present ⊢
    split_ifs at present with older
    · rw [lookup_insert_of_mem held present]
      exact held.found present waiting
    · have last := (List.getElem?_eq_some_iff.mp present).1
      simp only [List.length_singleton] at last
      have place : callback = state.ids.length := by omega
      subst place
      simp only [Nat.sub_self, List.getElem?_cons_zero, Option.some.injEq] at present
      subst present
      rw [AList.lookup_insert, held.registered]

theorem Delivering.registerElsewhere (held : Delivering env state) :
    Delivering env (registerElsewhere state) := by
  refine { held with bounded := ?_, found := ?_ }
  · intro id member
    exact Nat.lt_succ_of_lt (held.bounded id member)
  · intro callback id present waiting
    simp only [OnClose.registerElsewhere]
    rw [lookup_insert_of_mem held present]
    exact held.found present waiting

theorem Delivering.executeElsewhere (held : Delivering env state)
    (took : executeElsewhere state id = some next) : Delivering env next := by
  simp only [OnClose.executeElsewhere, Option.ite_none_right_eq_some, Option.some.injEq] at took
  obtain ⟨foreign, rfl⟩ := took
  refine { held with found := ?_ }
  intro callback own present waiting
  have kept := held.found present waiting
  have differs : own ≠ id := by
    intro same
    subst same
    rw [foreign] at kept
    cases kept
  rw [AList.lookup_erase_ne differs]
  exact kept

variable {error : Error} {text : String}

theorem accessor_of_mem (read : Error → Exported CharPointer)
    (reads : read error = Native.releaseString text) (zero : nul ∈ text.toList) :
    accessor read (some error) = .error .panic := by
  simp only [accessor, reads, StringCall.releaseString_of_mem zero]

theorem accessor_of_not_mem (read : Error → Exported CharPointer)
    (reads : read error = Native.releaseString text) (plain : nul ∉ text.toList) :
    ∃ pointer, accessor read (some error) = .ok pointer := by
  obtain ⟨memory, returned, -⟩ := StringCall.releaseString_of_not_mem plain
  exact ⟨.to memory, by simp only [accessor, reads, returned]⟩

theorem callback_of_readable (readable : readable texts error = true) :
    ∃ exception, callback texts (some error) = .ok exception := by
  simp only [OnClose.readable, Bool.and_eq_true, Bool.not_eq_true', List.contains_eq_mem,
    decide_eq_false_iff_not] at readable
  obtain ⟨code, codeRead⟩ := accessor_of_not_mem (Native.errorCode texts) rfl readable.1
  obtain ⟨message, messageRead⟩ := accessor_of_not_mem (Native.errorMessage texts) rfl readable.2
  refine ⟨⟨code, message⟩, ?_⟩
  rw [callback, codeRead, messageRead]
  rfl

theorem callback_of_unreadable (unreadable : readable texts error = false) :
    callback texts (some error) = .error .panic := by
  by_cases code : nul ∈ (error.code texts).toList
  · rw [callback, accessor_of_mem (Native.errorCode texts) rfl code]
    rfl
  · have message : nul ∈ (error.message texts).toList := by
      simpa [OnClose.readable, code] using unreadable
    obtain ⟨pointer, codeRead⟩ := accessor_of_not_mem (Native.errorCode texts) rfl code
    rw [callback, codeRead, accessor_of_mem (Native.errorMessage texts) rfl message]
    rfl

def enter (state : OnCloseState) (callback : Callback) (rest : List Callback)
    (carried : List (Option Error)) : OnCloseState :=
  { state with
    transmitter := { state.transmitter with
      invoked := state.transmitter.invoked ++ [callback]
      handlerAlive := state.transmitter.handlerAlive && !false
      handlerQueue := rest }
    carried := carried }

inductive Executed (texts : ErrorText) (state : OnCloseState) : OnCloseState → Prop where
  | crashed {fn : Callback} {rest : List Callback} {error : Option Error}
      {carried : List (Option Error)} {crash : Crash}
      (queue : state.transmitter.handlerQueue = fn :: rest)
      (closures : state.carried = error :: carried)
      (waiting : fn ∉ state.transmitter.invoked)
      (failed : callback texts error = .error crash) :
      Executed texts state { enter state fn rest carried with crashed := some crash }
  | called {fn : Callback} {rest : List Callback} {error : Option Error}
      {carried : List (Option Error)} {id : Nat} {exception : TypeDBException} (raises : Bool)
      (queue : state.transmitter.handlerQueue = fn :: rest)
      (closures : state.carried = error :: carried)
      (waiting : fn ∉ state.transmitter.invoked)
      (passed : state.ids[fn]? = some id)
      (returned : callback texts error = .ok exception) :
      Executed texts state { enter state fn rest carried with
        calls := state.calls ++ [(fn, exception)]
        directors := if raises then state.directors else state.directors.erase id }

variable {fn : Callback} {rest : List Callback}

theorem not_mem_invoked (placed : Placed state.transmitter)
    (queue : state.transmitter.handlerQueue = fn :: rest) : fn ∉ state.transmitter.invoked := by
  intro member
  have once := placed.once fn
  have again := List.count_pos_iff.mpr member
  simp only [Transmitter.stages, queue, List.count_append, List.count_cons_self] at once
  omega

variable {raises : Bool}

section

variable (held : Delivering env state)

include held

theorem Delivering.executed (took : execute texts state raises = some next) :
    Executed texts state next := by
  unfold execute at took
  split at took
  case h_2 => cases took
  case h_1 fn rest error carried queue closures =>
    have waiting := not_mem_invoked held.placed queue
    simp only [Option.bind_eq_bind, Option.bind_eq_some_iff, Transmitter.runCallback, queue,
      Option.some.injEq] at took
    obtain ⟨id, passed, _, rfl, entered⟩ := took
    have found := held.found passed waiting
    cases entered
    simp only [transactionCallbackExecute, found]
    cases outcome : callback texts error with
    | error crash => exact .crashed queue closures waiting outcome
    | ok exception => exact .called raises queue closures waiting passed outcome

theorem Delivering.enter {error : Option Error}
    (queue : state.transmitter.handlerQueue = fn :: rest)
    (closures : state.carried = error :: carried) {crashed : Option Crash}
    {calls : List (Callback × TypeDBException)} {directors : HashMap Nat (Option Callback)}
    (found : ∀ {other id : Nat}, state.ids[other]? = some id →
      other ∉ state.transmitter.invoked ++ [fn] → directors.lookup id = some (some other))
    (called : crashed = none → calls.map (·.1) = state.transmitter.invoked ++ [fn]) :
    Delivering env { enter state fn rest carried with crashed, calls, directors } := by
  have move : Transition env state.transmitter (.runCallback false)
      (OnClose.enter state fn rest carried).transmitter := .callbackRun queue
  have aligned := held.aligned
  simp only [queue, closures, List.length_cons, Nat.add_right_cancel_iff] at aligned
  exact { held with
    sound := move.sound held.sound
    placed := move.placed held.placed
    aligned := aligned
    carries := fun other member =>
      held.carries other (closures ▸ List.mem_cons_of_mem error member)
    found := found
    called := called }

theorem Delivering.execute (running : state.crashed = none) (executed : Executed texts state next) :
    Delivering env next := by
  have kept : ∀ {fn other id : Nat}, state.ids[other]? = some id →
      other ∉ state.transmitter.invoked ++ [fn] →
      state.directors.lookup id = some (some other) :=
    fun present waiting =>
      held.found present (fun member => waiting (List.mem_append_left _ member))
  cases executed with
  | crashed queue closures =>
    exact held.enter queue closures kept (fun none => by cases none)
  | @called fn rest error carried own exception raises queue closures waiting passed =>
    refine held.enter queue closures ?_ ?_
    · intro other id present waiting
      cases raises with
      | true => exact kept present waiting
      | false =>
        have differs : id ≠ own := by
          intro same
          subst same
          have bound := (List.getElem?_eq_some_iff.mp present).1
          have equal := (List.getElem?_inj bound held.distinct).mp (present.trans passed.symm)
          exact waiting (List.mem_append_right _ (List.mem_singleton.mpr equal))
        simp only [Bool.false_eq_true, if_false]
        rw [AList.lookup_erase_ne differs]
        exact kept present waiting
    · intro _
      simp [held.called running]

theorem Delivering.delivered (running : state.crashed = none) : Delivered state := by
  refine ⟨by simp [running], ?_⟩
  intro callback member
  rw [held.called running]
  have once := held.placed.once callback
  have present := List.count_pos_iff.mpr member
  simp only [Transmitter.stages, List.count_append] at once
  omega

/-- A callback is called exactly if the stream ended with an error that can be read. -/
theorem Delivering.survives_iff (running : state.crashed = none)
    (executed : Executed texts state next) :
    survives texts state (.execute raises) = true ↔ Delivered next := by
  have kept := held.execute running executed
  cases executed with
  | @crashed fn rest error carried crash queue closures waiting failed =>
    have ended := held.carries error (closures ▸ List.mem_cons_self)
    have uncalled : ¬ Delivered { OnClose.enter state fn rest carried with
        crashed := some crash } := by
      intro delivered
      have once := delivered.2 fn (List.mem_append_right _ (List.mem_singleton.mpr rfl))
      simp only [OnClose.enter, held.called running, List.count_eq_zero.mpr waiting] at once
      cases once
    refine iff_of_false ?_ uncalled
    simp only [survives, ended]
    cases error with
    | none => simp [Termination.ofError]
    | some error =>
      simp only [Termination.ofError]
      intro readable
      obtain ⟨exception, returned⟩ := callback_of_readable readable
      rw [returned] at failed
      cases failed
  | @called fn rest error carried id exception raises queue closures waiting passed
      returned =>
      have ended := held.carries error (closures ▸ List.mem_cons_self)
      refine iff_of_true ?_ (kept.delivered running)
      simp only [survives, ended]
      cases error with
      | none => cases returned
      | some error =>
        simp only [Termination.ofError]
        by_contra unreadable
        rw [callback_of_unreadable (eq_false_of_ne_true unreadable)] at returned
        cases returned

end

theorem step_running {label : Label} (took : step env texts state label = some next) :
    state.crashed = none := by
  cases crashed : state.crashed with
  | none => rfl
  | some crash => simp [step, crashed] at took

theorem Delivering.step (held : Delivering env state) {label : Label}
    (took : OnClose.step env texts state label = some next) :
    Delivering env next ∧ (survives texts state label = true ↔ Delivered next) := by
  have running := step_running took
  simp only [OnClose.step, running, Option.isSome_none, Bool.false_eq_true, if_false] at took
  cases label with
  | native label =>
    have kept := held.native took
    obtain ⟨-, -, transmitter, -, rfl⟩ := native_inversion took
    exact ⟨kept, iff_of_true rfl (kept.delivered running)⟩
  | onClose =>
    cases took
    exact ⟨held.onClose, iff_of_true rfl (held.onClose.delivered running)⟩
  | execute raises =>
    have executed := held.executed took
    exact ⟨held.execute running executed, held.survives_iff running executed⟩
  | registerElsewhere =>
    cases took
    exact ⟨held.registerElsewhere, iff_of_true rfl (held.registerElsewhere.delivered running)⟩
  | executeElsewhere id =>
    have kept := held.executeElsewhere took
    simp only [OnClose.executeElsewhere, Option.ite_none_right_eq_some, Option.some.injEq] at took
    obtain ⟨-, rfl⟩ := took
    exact ⟨kept, iff_of_true rfl (kept.delivered running)⟩

/-- The functions that the native side invokes are called exactly once each, and no accessor gets
a null pointer, exactly in the runs where every callback is executed after a stream that ended
with an error whose texts hold no zero character. -/
theorem callbacks_survive_iff (env : Environment) (texts : ErrorText) {labels : List Label}
    {state : OnCloseState} (ran : (system env texts).run {} labels = some state) :
    (system env texts).Meets (fun state label => survives texts state label = true) {} labels ↔
      Delivered state := by
  have decided : ∀ {state next label}, Delivering env state →
      ¬ ¬ Delivered state → (system env texts).step state label = some next →
      (survives texts state label = true ↔ ¬ ¬ Delivered next) := by
    intro state next label held _ took
    rw [not_not]
    exact (held.step took).2
  have lasting : ∀ {state next label}, Delivering env state →
      ¬ Delivered state → (system env texts).step state label = some next → ¬ Delivered next :=
    fun held undelivered took => absurd (held.delivered (step_running took)) undelivered
  have initially := delivering_initial env
  rw [TransitionSystem.run_meets_iff (fun held took => (held.step took).1) lasting decided
    initially (not_not_intro (initially.delivered rfl)) ran, not_not]

/-- One function is registered and picked up, the stream ends, and the callback is executed. -/
def closeRun (ending : List Transmitter.Label) (listens : Nat) : List Label :=
  [.onClose] ++ List.replicate 5 (.native (.dispatch ⟨[]⟩)) ++ ending.map .native ++
    List.replicate listens (.native (.listen 0)) ++ [.execute false]

theorem callbacks_survive_iff_failed_stream :
    ∃ state, (system .basic .empty).run {} (closeRun [.failStream (.other "reset") 0] 6) =
        some state ∧ Delivered state ∧ state.transmitter.invoked = [0] := by
  have ran : (system .basic .empty).run {} (closeRun [.failStream (.other "reset") 0] 6) =
      some _ := rfl
  exact ⟨_, ran, (callbacks_survive_iff .basic .empty ran).mp (by decide), rfl⟩

/-- The server ends the stream without an error, of itself or after a `force_close`, and
`error_code` gets a null pointer. -/
theorem error_code_of_null :
    (∃ state, (system .basic .empty).run {} (closeRun [.endStream] 5) = some state ∧
      state.crashed = some .nullPointer ∧ ¬ Delivered state) ∧
    (∃ state, (system .basic .empty).run {}
        (closeRun [.forceClose, .forceCloseStep, .forceCloseStep, .endStream] 5) = some state ∧
      state.crashed = some .nullPointer ∧ ¬ Delivered state) :=
  ⟨⟨_, rfl, rfl, fun delivered => delivered.1 rfl⟩, ⟨_, rfl, rfl, fun delivered => delivered.1 rfl⟩⟩

end Python.OnClose

end TypeDBDriver
