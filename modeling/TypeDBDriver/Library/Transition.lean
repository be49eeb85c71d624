import Mathlib.Data.List.Basic

/-! Systems that take one atomic step after another. A label says everything the
scheduler and the environment decide, so a run is a list of labels and a run can
be computed. Statements about every interleaving are statements about every list. -/

namespace TypeDBDriver.Library

/-- `step` is `none` where the named actor cannot move. -/
structure TransitionSystem (State Label : Type) where
  step : State → Label → Option State

namespace TransitionSystem

variable {State Label : Type} (system : TransitionSystem State Label)

def run : State → List Label → Option State
  | state, [] => some state
  | state, label :: rest => (system.step state label).bind fun next => run next rest

/-- Every step of the run is taken from a state where it meets `condition`. -/
def Meets (condition : State → Label → Prop) : State → List Label → Prop
  | _, [] => True
  | state, label :: rest =>
    condition state label ∧
      match system.step state label with
      | some next => Meets condition next rest
      | none => True

instance Meets.decidable (condition : State → Label → Prop)
    [∀ state label, Decidable (condition state label)] :
    ∀ state labels, Decidable (system.Meets condition state labels)
  | _, [] => isTrue trivial
  | state, label :: rest =>
    have : Decidable (match system.step state label with
        | some next => system.Meets condition next rest
        | none => True) :=
      match system.step state label with
      | some next => Meets.decidable condition next rest
      | none => isTrue trivial
    inferInstanceAs (Decidable (_ ∧ _))

variable {system} {condition : State → Label → Prop} {state final : State} {labels : List Label}

theorem run_cons {label : Label} {rest : List Label} :
    system.run state (label :: rest) = some final ↔
      ∃ next, system.step state label = some next ∧ system.run next rest = some final := by
  simp [run, Option.bind_eq_some_iff]

theorem Meets.cons {next : State} {label : Label} {rest : List Label}
    (meets : system.Meets condition state (label :: rest))
    (took : system.step state label = some next) :
    condition state label ∧ system.Meets condition next rest := by
  simpa only [Meets, took] using meets

theorem meets_of_forall
    (always : ∀ state label, condition state label) (state : State) (labels : List Label) :
    system.Meets condition state labels := by
  induction labels generalizing state with
  | nil => trivial
  | cons label rest ih =>
    refine ⟨always state label, ?_⟩
    cases system.step state label with
    | none => trivial
    | some next => exact ih next

/-- The run rule: what every allowed step preserves holds at the end of every allowed run. -/
theorem run_invariant {invariant : State → Prop}
    (preserved : ∀ {state next label}, invariant state →
      condition state label → system.step state label = some next → invariant next)
    {state final : State} {labels : List Label} (holds : invariant state)
    (meets : system.Meets condition state labels)
    (ran : system.run state labels = some final) : invariant final := by
  induction labels generalizing state with
  | nil =>
    cases ran
    exact holds
  | cons label rest ih =>
    obtain ⟨next, took, ran⟩ := run_cons.mp ran
    obtain ⟨allowed, meets⟩ := meets.cons took
    exact ih (preserved holds allowed took) meets ran

theorem run_preserves {invariant : State → Prop}
    (preserved : ∀ {state next label}, invariant state →
      system.step state label = some next → invariant next)
    {state final : State} {labels : List Label} (holds : invariant state)
    (ran : system.run state labels = some final) : invariant final := by
  have always : system.Meets (fun _ _ => True) state labels :=
    meets_of_forall (fun _ _ => trivial) state labels
  exact run_invariant (fun holds _ took => preserved holds took) holds always ran

theorem run_append {before after : List Label} :
    system.run state (before ++ after) = some final ↔
      ∃ middle, system.run state before = some middle ∧ system.run middle after = some final := by
  induction before generalizing state with
  | nil => simp [run]
  | cons label rest ih =>
    simp only [List.cons_append, run_cons, ih]
    constructor
    · intro given
      obtain ⟨next, took, middle, first, second⟩ := given
      exact ⟨middle, ⟨next, took, first⟩, second⟩
    · intro given
      obtain ⟨middle, ⟨next, took, first⟩, second⟩ := given
      exact ⟨next, took, middle, first, second⟩

theorem Meets.append_right {middle : State} {before after : List Label}
    (meets : system.Meets condition state (before ++ after))
    (ran : system.run state before = some middle) : system.Meets condition middle after := by
  induction before generalizing state with
  | nil =>
    cases ran
    exact meets
  | cons label rest ih =>
    obtain ⟨next, took, ran⟩ := run_cons.mp ran
    exact ih (meets.cons took).2 ran

/-- The rule for failures that last: where a step fails exactly if it does not meet the
condition, a run has failed exactly if one of its steps did not. -/
theorem run_meets_iff {invariant failed : State → Prop}
    (preserved : ∀ {state next label}, invariant state →
      system.step state label = some next → invariant next)
    (lasting : ∀ {state next label}, invariant state → failed state →
      system.step state label = some next → failed next)
    (decided : ∀ {state next label}, invariant state → ¬ failed state →
      system.step state label = some next → (condition state label ↔ ¬ failed next))
    (holds : invariant state) (good : ¬ failed state) (ran : system.run state labels = some final) :
    system.Meets condition state labels ↔ ¬ failed final := by
  induction labels generalizing state with
  | nil =>
    cases ran
    exact ⟨fun _ => good, fun _ => trivial⟩
  | cons label rest ih =>
    obtain ⟨next, took, ran⟩ := run_cons.mp ran
    have kept := preserved holds took
    constructor
    · intro meets
      obtain ⟨allowed, meets⟩ := meets.cons took
      exact (ih kept ((decided holds good took).mp allowed) ran).mp meets
    · intro sound
      have going : ¬ failed next := by
        intro broken
        have lasts : ∀ {state next label}, invariant state ∧ failed state →
            system.step state label = some next → invariant next ∧ failed next :=
          fun both took => ⟨preserved both.1 took, lasting both.1 both.2 took⟩
        exact sound (run_preserves lasts ⟨kept, broken⟩ ran).2
      have meets := (ih kept going ran).mpr sound
      refine ⟨(decided holds good took).mpr going, ?_⟩
      rw [took]
      exact meets

/-- The same rule for a flag that is set for good at the steps that do not meet the condition. -/
theorem run_flag_iff {flag : State → Bool}
    (decided : ∀ {state next label}, system.step state label = some next →
      (flag next = false ↔ flag state = false ∧ condition state label))
    {state final : State} {labels : List Label} (unset : flag state = false)
    (ran : system.run state labels = some final) :
    flag final = false ↔ system.Meets condition state labels := by
  have rule := @run_meets_iff _ _ system condition state final labels (fun _ => True)
    (fun state => flag state = true) (fun _ _ => trivial)
    (fun _ set took => by
      have kept := decided took
      simp_all)
    (fun _ unset took => by
      have kept := decided took
      simp_all)
    trivial (by simp [unset]) ran
  rw [rule, Bool.not_eq_true]

/-- Two conditions that mean the same in every state that a run meeting the second one can
reach are met by the same runs. -/
theorem meets_congr {invariant : State → Prop} {left right : State → Label → Prop}
    (preserved : ∀ {state next label}, invariant state → right state label →
      system.step state label = some next → invariant next)
    (same : ∀ {state label}, invariant state →
      (left state label ↔ right state label))
    {state : State} (holds : invariant state) (labels : List Label) :
    system.Meets left state labels ↔ system.Meets right state labels := by
  induction labels generalizing state with
  | nil => exact Iff.rfl
  | cons label rest ih =>
    simp only [Meets]
    rw [same holds]
    apply and_congr_right
    intro allowed
    cases took : system.step state label with
    | none => exact Iff.rfl
    | some next => exact ih (preserved holds allowed took)

/-- The refinement rule: a relation to an abstract model that every step carries along
relates the end of every run to what the abstract model makes of the same labels. -/
theorem run_simulation {Abstract : Type} {advance : Abstract → Label → Abstract}
    {relates : State → Abstract → Prop}
    (simulated : ∀ {state next model label}, relates state model →
      system.step state label = some next → relates next (advance model label))
    {state final : State} {model : Abstract} {labels : List Label} (related : relates state model)
    (ran : system.run state labels = some final) : relates final (labels.foldl advance model) := by
  induction labels generalizing state model with
  | nil =>
    cases ran
    exact related
  | cons label rest ih =>
    obtain ⟨next, took, ran⟩ := run_cons.mp ran
    exact ih (simulated related took) ran

end TransitionSystem

end TypeDBDriver.Library
