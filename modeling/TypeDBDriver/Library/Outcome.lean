import Mathlib.Data.List.Basic

/-! Results of code that returns a value, returns an error, or aborts the
running thread. A panic is kept apart from an error because no caller can
observe it as a value: a loop that panics ends, a loop that gets an error goes on. -/

namespace TypeDBDriver.Library

inductive Outcome (ε α : Type) where
  | ok (value : α)
  | error (cause : ε)
  | panicked
  deriving DecidableEq, Repr

namespace Outcome

variable {ε α β : Type}

/-- The `?` operator: an error or a panic ends the caller at this point. -/
protected def bind (outcome : Outcome ε α) (next : α → Outcome ε β) : Outcome ε β :=
  match outcome with
  | .ok value => next value
  | .error cause => .error cause
  | .panicked => .panicked

instance : Monad (Outcome ε) where
  pure := .ok
  bind := Outcome.bind

@[simp] theorem pure_eq (value : α) : (pure value : Outcome ε α) = .ok value := rfl

@[simp] theorem ok_bind (value : α) (next : α → Outcome ε β) :
    (Outcome.ok value >>= next) = next value := rfl

@[simp] theorem error_bind (cause : ε) (next : α → Outcome ε β) :
    ((Outcome.error cause : Outcome ε α) >>= next) = .error cause := rfl

@[simp] theorem panicked_bind (next : α → Outcome ε β) :
    ((Outcome.panicked : Outcome ε α) >>= next) = .panicked := rfl

theorem bind_eq_ok_iff {outcome : Outcome ε α} {next : α → Outcome ε β} {result : β} :
    (outcome >>= next) = .ok result ↔ ∃ value, outcome = .ok value ∧ next value = .ok result := by
  cases outcome <;> simp

def unwrap : Option α → Outcome ε α
  | some value => .ok value
  | none => .panicked

def okOr (cause : ε) : Option α → Outcome ε α
  | some value => .ok value
  | none => .error cause

theorem okOr_eq_ok_iff {cause : ε} {value : Option α} {result : α} :
    okOr cause value = .ok result ↔ value = some result := by
  cases value <;> simp [okOr]

def traverse (convert : α → Outcome ε β) : List α → Outcome ε (List β)
  | [] => .ok []
  | head :: tail => do
      let value ← convert head
      let values ← traverse convert tail
      .ok (value :: values)

theorem traverse_append_cons {convert : α → Outcome ε β} {before after : List α} {item : α}
    {values : List β} :
    traverse convert (before ++ item :: after) = .ok values ↔
      ∃ first value second, traverse convert before = .ok first ∧ convert item = .ok value ∧
        traverse convert after = .ok second ∧ first ++ value :: second = values := by
  induction before generalizing values with
  | nil => simp [traverse, bind_eq_ok_iff]
  | cons head before ih =>
    simp only [List.cons_append, traverse, bind_eq_ok_iff, ih, ok.injEq]
    constructor
    · intro converted
      obtain ⟨_, headOk, _, ⟨first, value, second, firstOk, valueOk, secondOk, rfl⟩, rfl⟩ :=
        converted
      exact ⟨_, value, second, ⟨_, headOk, first, firstOk, rfl⟩, valueOk, secondOk, rfl⟩
    · intro converted
      obtain ⟨_, value, second, ⟨_, headOk, first, firstOk, rfl⟩, valueOk, secondOk, rfl⟩ :=
        converted
      exact ⟨_, headOk, _, ⟨first, value, second, firstOk, valueOk, secondOk, rfl⟩, rfl⟩

def IsError (outcome : Outcome ε α) : Prop := ∃ cause, outcome = .error cause

/-- `hazard` says when the call panics and `rejected` when it returns an error. -/
structure Classified (outcome : Outcome ε α) (hazard rejected : Prop) : Prop where
  panics : outcome = .panicked ↔ hazard
  fails : IsError outcome ↔ rejected

end Outcome

/-- Some element is `bad` and no element before it makes the loop `stop`. -/
def Reaches {α : Type} (stop bad : α → Prop) : List α → Prop
  | [] => False
  | head :: tail => bad head ∨ (¬ stop head ∧ Reaches stop bad tail)

theorem reaches_false_iff {α : Type} {bad : α → Prop} {items : List α} :
    Reaches (fun _ => False) bad items ↔ ∃ item ∈ items, bad item := by
  induction items with
  | nil => simp [Reaches]
  | cons head tail ih => simp [Reaches, ih]

theorem not_reaches_of_never {α : Type} {stop : α → Prop} {items : List α} :
    ¬ Reaches stop (fun _ => False) items := by
  induction items with
  | nil => simp [Reaches]
  | cons head tail ih => simp [Reaches, ih]

namespace Outcome.Classified

variable {ε α β : Type}

theorem ok (value : α) : Classified (Outcome.ok value : Outcome ε α) False False :=
  ⟨by simp, by simp [IsError]⟩

theorem error (cause : ε) : Classified (Outcome.error cause : Outcome ε α) False True :=
  ⟨by simp, by simp [IsError]⟩

theorem panicked : Classified (Outcome.panicked : Outcome ε α) True False :=
  ⟨by simp, by simp [IsError]⟩

theorem unwrap (value : Option α) :
    Classified (Outcome.unwrap value : Outcome ε α) (value = none) False := by
  cases value with
  | none => simpa [Outcome.unwrap] using panicked
  | some value => simpa [Outcome.unwrap] using ok value

theorem okOr (cause : ε) (value : Option α) :
    Classified (Outcome.okOr cause value) False (value = none) := by
  cases value with
  | none => simpa [Outcome.okOr] using error cause
  | some value => simpa [Outcome.okOr] using ok value

variable {outcome : Outcome ε α}

theorem congr {hazard rejected hazard' rejected' : Prop}
    (classified : Classified outcome hazard rejected) (sameHazard : hazard ↔ hazard')
    (sameRejected : rejected ↔ rejected') : Classified outcome hazard' rejected' :=
  ⟨classified.panics.trans sameHazard, classified.fails.trans sameRejected⟩

theorem andThen {next : α → Outcome ε β} {hazard rejected hazard' rejected' : Prop}
    (first : Classified outcome hazard rejected)
    (second : ∀ value, outcome = .ok value → Classified (next value) hazard' rejected') :
    Classified (outcome >>= next) (hazard ∨ (¬ rejected ∧ hazard'))
      (rejected ∨ (¬ hazard ∧ rejected')) := by
  cases outcome with
  | ok value =>
    have noHazard : ¬ hazard := fun hazardous => by simpa using first.panics.mpr hazardous
    have notRejected : ¬ rejected := fun stopped => by
      simpa [IsError] using first.fails.mpr stopped
    simpa [noHazard, notRejected] using second value rfl
  | error cause =>
    have noHazard : ¬ hazard := fun hazardous => by simpa using first.panics.mpr hazardous
    have stopped : rejected := first.fails.mp ⟨cause, rfl⟩
    simpa [noHazard, stopped] using (error cause : Classified (.error cause : Outcome ε β) _ _)
  | panicked =>
    have hazardous : hazard := first.panics.mp rfl
    have notRejected : ¬ rejected := fun stopped => by
      simpa [IsError] using first.fails.mpr stopped
    simpa [hazardous, notRejected] using (panicked : Classified (.panicked : Outcome ε β) _ _)

theorem andOk {hazard rejected : Prop} (classified : Classified outcome hazard rejected)
    (wrap : α → β) : Classified (outcome >>= fun value => .ok (wrap value)) hazard rejected :=
  (classified.andThen fun value _ => ok (wrap value)).congr (by simp) (by simp)

theorem traverse {convert : α → Outcome ε β} {hazard rejected : α → Prop}
    (each : ∀ item, Classified (convert item) (hazard item) (rejected item)) (items : List α) :
    Classified (Outcome.traverse convert items) (Reaches rejected hazard items)
      (Reaches hazard rejected items) := by
  induction items with
  | nil => exact ok []
  | cons head tail ih => exact (each head).andThen fun value _ => ih.andOk (value :: ·)

end Outcome.Classified

end TypeDBDriver.Library
