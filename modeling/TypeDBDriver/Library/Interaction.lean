import TypeDBDriver.Library.Transition

/-! Programs that call the outside world and go on with its reply. Such a program is the tree of
all that it may do; what it does in one run is a list of events, and what is left of it after
some events is again a program. -/

namespace TypeDBDriver.Library

inductive Interaction (Call : Type) (Reply : Call → Type) (α : Type) where
  | pure (value : α)
  | call (request : Call) (resume : Reply request → Interaction Call Reply α)

namespace Interaction

variable {Call : Type} {Reply : Call → Type} {α β : Type}

def bind (program : Interaction Call Reply α) (next : α → Interaction Call Reply β) :
    Interaction Call Reply β :=
  match program with
  | .pure value => next value
  | .call request resume => .call request fun reply => (resume reply).bind next

instance : Monad (Interaction Call Reply) where
  pure := .pure
  bind := bind

structure Event (Call : Type) (Reply : Call → Type) where
  request : Call
  reply : Reply request

section Runs

variable [DecidableEq Call]

def step : Interaction Call Reply α → Event Call Reply → Option (Interaction Call Reply α)
  | .pure _, _ => none
  | .call request resume, event =>
    if same : event.request = request then some (resume (same ▸ event.reply)) else none

variable (Call Reply α) in
def system : TransitionSystem (Interaction Call Reply α) (Event Call Reply) where
  step := step

theorem step_eq_some_iff {program next : Interaction Call Reply α} {event : Event Call Reply} :
    step program event = some next ↔
      ∃ resume, program = .call event.request resume ∧ resume event.reply = next := by
  obtain ⟨asked, reply⟩ := event
  constructor
  · intro took
    cases program with
    | pure value => cases took
    | call request resume =>
      by_cases same : asked = request
      · subst same
        simp only [step, dite_true, Option.some.injEq] at took
        exact ⟨resume, rfl, took⟩
      · simp [step, same] at took
  · intro given
    obtain ⟨resume, rfl, rfl⟩ := given
    simp [step]

variable {events : List (Event Call Reply)} {result : α}

theorem run_pure_eq_pure {value : α}
    (ran : (system Call Reply α).run (.pure value) events = some (.pure result)) :
    events = [] ∧ value = result := by
  cases events with
  | nil =>
    cases ran
    exact ⟨rfl, rfl⟩
  | cons event events => cases ran

theorem run_call_eq_pure {request : Call} {resume : Reply request → Interaction Call Reply α}
    (ran : (system Call Reply α).run (.call request resume) events = some (.pure result)) :
    ∃ reply rest, events = ⟨request, reply⟩ :: rest ∧
      (system Call Reply α).run (resume reply) rest = some (.pure result) := by
  cases events with
  | nil => cases ran
  | cons event events =>
    obtain ⟨next, took, rest⟩ := TransitionSystem.run_cons.mp ran
    change step (.call request resume) event = some next at took
    obtain ⟨continued, called, rfl⟩ := step_eq_some_iff.mp took
    cases event
    cases called
    exact ⟨_, events, rfl, rest⟩

theorem run_bind_eq_pure {program : Interaction Call Reply α} {next : α → Interaction Call Reply β}
    {result : β}
    (ran : (system Call Reply β).run (program.bind next) events = some (.pure result)) :
    ∃ before after value, events = before ++ after ∧
      (system Call Reply α).run program before = some (.pure value) ∧
      (system Call Reply β).run (next value) after = some (.pure result) := by
  induction program generalizing events with
  | pure value => exact ⟨[], events, value, rfl, rfl, ran⟩
  | call request resume ih =>
    obtain ⟨reply, rest, rfl, later⟩ := run_call_eq_pure ran
    obtain ⟨before, after, value, rfl, first, second⟩ := ih reply later
    refine ⟨⟨request, reply⟩ :: before, after, value, rfl, ?_, second⟩
    have took : step (.call request resume) ⟨request, reply⟩ = some (resume reply) :=
      step_eq_some_iff.mpr ⟨resume, rfl, rfl⟩
    exact TransitionSystem.run_cons.mpr ⟨resume reply, took, first⟩

end Runs

def Throughout (property : Interaction Call Reply α → Prop) : Interaction Call Reply α → Prop
  | .pure value => property (.pure value)
  | .call request resume =>
    property (.call request resume) ∧ ∀ reply, (resume reply).Throughout property

variable {program : Interaction Call Reply α} {property : Interaction Call Reply α → Prop}

theorem Throughout.here (throughout : program.Throughout property) : property program := by
  cases program with
  | pure value => exact throughout
  | call request resume => exact throughout.1

theorem Throughout.of_run [DecidableEq Call] {rest : Interaction Call Reply α}
    {events : List (Event Call Reply)} (throughout : program.Throughout property)
    (ran : (system Call Reply α).run program events = some rest) : property rest := by
  have took : ∀ {program next : Interaction Call Reply α} {event : Event Call Reply},
      program.Throughout property → (system Call Reply α).step program event = some next →
        next.Throughout property := by
    intro program next event throughout took
    obtain ⟨resume, rfl, rfl⟩ := step_eq_some_iff.mp took
    exact throughout.2 event.reply
  exact (TransitionSystem.run_preserves took throughout ran).here

def Uses (allowed : Call → Prop) : Interaction Call Reply α → Prop
  | .pure _ => True
  | .call request resume => allowed request ∧ ∀ reply, (resume reply).Uses allowed

variable {allowed : Call → Prop} {next : α → Interaction Call Reply β}

theorem Uses.bind (uses : program.Uses allowed) (rest : ∀ value, (next value).Uses allowed) :
    (program.bind next).Uses allowed := by
  induction program with
  | pure value => exact rest value
  | call request resume ih => exact ⟨uses.1, fun reply => ih reply (uses.2 reply)⟩

/-- A property that allowed calls have holds throughout a sequence whose first part makes only
such calls. -/
theorem Uses.throughout_bind {property : Interaction Call Reply β → Prop}
    (uses : program.Uses allowed)
    (calls : ∀ request resume, allowed request → property (.call request resume))
    (rest : ∀ value, (next value).Throughout property) :
    (program.bind next).Throughout property := by
  induction program with
  | pure value => exact rest value
  | call request resume ih =>
    exact ⟨calls request _ uses.1, fun reply => ih reply (uses.2 reply)⟩

end Interaction

/-- A program with a state that lasts when it throws. -/
abbrev Process (Call : Type) (Reply : Call → Type) (State Thrown α : Type) :=
  ExceptT Thrown (StateT State (Interaction Call Reply)) α

namespace Process

variable {Call : Type} {Reply : Call → Type} {State Thrown α β : Type}

def request (call : Call) : Process Call Reply State Thrown (Reply call) :=
  fun state => .call call fun reply => .pure (.ok reply, state)

def resumeWith (next : α → Process Call Reply State Thrown β)
    (handler : Thrown → Process Call Reply State Thrown β) :
    Except Thrown α × State → Interaction Call Reply (Except Thrown β × State)
  | (.ok value, state) => next value state
  | (.error error, state) => handler error state

theorem bind_apply (process : Process Call Reply State Thrown α)
    (next : α → Process Call Reply State Thrown β) (state : State) :
    (process >>= next) state = (process state).bind (resumeWith next throw) := by
  change Interaction.bind _ _ = _
  congr 1
  funext given
  obtain ⟨outcome, state⟩ := given
  cases outcome <;> rfl

theorem get_bind_apply (next : State → Process Call Reply State Thrown α) (state : State) :
    (get >>= next : Process Call Reply State Thrown α) state = next state state := rfl

theorem tryCatch_apply (process : Process Call Reply State Thrown α)
    (handler : Thrown → Process Call Reply State Thrown α) (state : State) :
    (tryCatch process handler : Process Call Reply State Thrown α) state =
      (process state).bind (resumeWith pure handler) := by
  change Interaction.bind _ _ = _
  congr 1
  funext given
  obtain ⟨outcome, state⟩ := given
  cases outcome <;> rfl

def Uses (allowed : Call → Prop) (process : Process Call Reply State Thrown α) : Prop :=
  ∀ state, (process state).Uses allowed

section Uses

variable {allowed : Call → Prop}

theorem uses_pure (value : α) : Uses allowed (pure value : Process Call Reply State Thrown α) :=
  fun _ => trivial

theorem uses_throw (error : Thrown) :
    Uses allowed (throw error : Process Call Reply State Thrown α) :=
  fun _ => trivial

theorem uses_get : Uses allowed (get : Process Call Reply State Thrown State) :=
  fun _ => trivial

theorem uses_modify (change : State → State) :
    Uses allowed (modify change : Process Call Reply State Thrown PUnit) :=
  fun _ => trivial

theorem uses_request {call : Call} (permitted : allowed call) :
    Uses allowed (request call : Process Call Reply State Thrown (Reply call)) :=
  fun _ => ⟨permitted, fun _ => trivial⟩

variable {next : α → Process Call Reply State Thrown β}

theorem Uses.resumeWith {handler : Thrown → Process Call Reply State Thrown β}
    (continued : ∀ value, Uses allowed (next value))
    (handled : ∀ error, Uses allowed (handler error)) (given : Except Thrown α × State) :
    (Process.resumeWith next handler given).Uses allowed := by
  obtain ⟨outcome, state⟩ := given
  cases outcome with
  | ok value => exact continued value state
  | error error => exact handled error state

variable {process : Process Call Reply State Thrown α}

theorem Uses.bind (uses : Uses allowed process) (continued : ∀ value, Uses allowed (next value)) :
    Uses allowed (process >>= next) := by
  intro state
  rw [bind_apply]
  exact (uses state).bind (Uses.resumeWith continued uses_throw)

theorem Uses.tryCatch {handler : Thrown → Process Call Reply State Thrown α}
    (uses : Uses allowed process) (handled : ∀ error, Uses allowed (handler error)) :
    Uses allowed (tryCatch process handler : Process Call Reply State Thrown α) := by
  intro state
  rw [tryCatch_apply]
  exact (uses state).bind (Uses.resumeWith uses_pure handled)

theorem Uses.throughout_bind {property : Interaction Call Reply (Except Thrown β × State) → Prop}
    (uses : Uses allowed process)
    (calls : ∀ call resume, allowed call → property (.call call resume))
    (thrown : ∀ error state, property (.pure (.error error, state)))
    (continued : ∀ value state, (next value state).Throughout property) (state : State) :
    ((process >>= next) state).Throughout property := by
  rw [bind_apply]
  apply (uses state).throughout_bind calls
  intro given
  obtain ⟨outcome, state⟩ := given
  cases outcome with
  | ok value => exact continued value state
  | error error => exact thrown error state

end Uses

end Process

end TypeDBDriver.Library
