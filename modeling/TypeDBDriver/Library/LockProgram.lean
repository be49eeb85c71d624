import Mathlib.Data.List.Basic

/-! Programs of one thread over memory behind a read-write lock. Acquiring and
releasing guards are instructions, so the lifetime of every guard is part of the
program text. A thread runs from one point where it holds no guard to the next such
point without interference, because nobody else gets at the memory in between. -/

namespace TypeDBDriver.Library

inductive Guard where
  | read
  | write
  deriving DecidableEq, Repr

/-- The guards that are alive, and whether a writer panicked while holding one. -/
structure RwLock where
  readers : Nat := 0
  writer : Bool := false
  poisoned : Bool := false
  deriving DecidableEq, Repr

namespace RwLock

def isFree (lock : RwLock) : Bool := lock.readers == 0 && !lock.writer

/-- A read guard excludes writers; a write guard excludes everybody, its own thread included. -/
def grants (lock : RwLock) : Guard → Bool
  | .read => !lock.writer
  | .write => lock.isFree

def acquire (lock : RwLock) : Guard → RwLock
  | .read => { lock with readers := lock.readers + 1 }
  | .write => { lock with writer := true }

def release (lock : RwLock) : Guard → RwLock
  | .read => { lock with readers := lock.readers - 1 }
  | .write => { lock with writer := false }

/-- A panic drops every guard; dropping a write guard that way poisons the lock. -/
def unwind (lock : RwLock) : RwLock := { poisoned := lock.poisoned || lock.writer }

end RwLock

/-- Instructions over memory `σ`, with panics told apart by their cause `π`. -/
inductive Program (σ π α : Type) where
  | pure (result : α)
  | acquire (guard : Guard) (next : Program σ π α)
  | release (guard : Guard) (next : Program σ π α)
  | access (effect : σ → σ) (next : σ → Program σ π α)
  | panic (cause : π)

namespace Program

variable {σ π α β : Type}

protected def bind (program : Program σ π α) (continuation : α → Program σ π β) :
    Program σ π β :=
  match program with
  | .pure result => continuation result
  | .acquire guard next => .acquire guard (next.bind continuation)
  | .release guard next => .release guard (next.bind continuation)
  | .access effect next => .access effect fun memory => (next memory).bind continuation
  | .panic cause => .panic cause

instance : Monad (Program σ π) where
  pure := .pure
  bind := Program.bind

@[simp] theorem pure_def (result : α) : (Pure.pure result : Program σ π α) = .pure result := rfl

@[simp] theorem pure_bind (result : α) (continuation : α → Program σ π β) :
    (Program.pure result >>= continuation) = continuation result := rfl

@[simp] theorem acquire_bind (guard : Guard) (next : Program σ π α)
    (continuation : α → Program σ π β) :
    (Program.acquire guard next >>= continuation) = .acquire guard (next >>= continuation) := rfl

@[simp] theorem release_bind (guard : Guard) (next : Program σ π α)
    (continuation : α → Program σ π β) :
    (Program.release guard next >>= continuation) = .release guard (next >>= continuation) := rfl

@[simp] theorem access_bind (effect : σ → σ) (next : σ → Program σ π α)
    (continuation : α → Program σ π β) :
    (Program.access effect next >>= continuation) =
      .access effect fun memory => next memory >>= continuation := rfl

@[simp] theorem panic_bind (cause : π) (continuation : α → Program σ π β) :
    ((Program.panic cause : Program σ π α) >>= continuation) = .panic cause := rfl

theorem bind_unit (program : Program σ π Unit) : (program >>= fun _ => .pure ()) = program := by
  induction program with
  | pure result => rfl
  | acquire guard next ih => rw [acquire_bind, ih]
  | release guard next ih => rw [release_bind, ih]
  | access effect next ih =>
    rw [access_bind]
    exact congrArg _ (funext ih)
  | panic cause => rfl

def take (guard : Guard) : Program σ π Unit := .acquire guard (.pure ())

def drop (guard : Guard) : Program σ π Unit := .release guard (.pure ())

def inspect (view : σ → α) : Program σ π α := .access id fun memory => .pure (view memory)

def update (effect : σ → σ) : Program σ π Unit := .access effect fun _ => .pure ()

end Program

/-- Where a thread stands after running from one point without guards to the next. -/
inductive Progress (σ π α : Type) where
  | finished (result : α) (lock : RwLock) (memory : σ)
  | paused (rest : Program σ π α) (lock : RwLock) (memory : σ)
  | panicked (cause : π) (lock : RwLock) (memory : σ)
  | deadlocked (lock : RwLock) (memory : σ)

def Progress.memory {σ π α : Type} : Progress σ π α → σ
  | .finished _ _ memory => memory
  | .paused _ _ memory => memory
  | .panicked _ _ memory => memory
  | .deadlocked _ memory => memory

namespace Program

variable {σ π α : Type}

/-- Run inside a section: up to the next acquisition made without any guard. An
acquisition that the thread's own guards exclude can never be granted. -/
def advance : Program σ π α → RwLock → σ → Progress σ π α
  | .pure result, lock, memory => .finished result lock memory
  | .acquire guard next, lock, memory =>
    if lock.isFree then .paused (.acquire guard next) lock memory
    else if lock.grants guard then advance next (lock.acquire guard) memory
    else .deadlocked lock memory
  | .release guard next, lock, memory => advance next (lock.release guard) memory
  | .access effect next, lock, memory => advance (next memory) lock (effect memory)
  | .panic cause, lock, memory => .panicked cause lock.unwind memory

/-- Run one section. `none` means that another thread holds the lock; a poisoned lock
makes the acquisition itself panic. -/
def resume (onPoison : π) : Program σ π α → RwLock → σ → Option (Progress σ π α)
  | .acquire guard next, lock, memory =>
    if !lock.grants guard then none
    else if lock.poisoned then some (.panicked onPoison lock memory)
    else some (advance next (lock.acquire guard) memory)
  | program, lock, memory => some (advance program lock memory)

@[simp] theorem resume_acquire_free (onPoison : π) (guard : Guard) (next : Program σ π α)
    (memory : σ) :
    (Program.acquire guard next).resume onPoison {} memory =
      some (next.advance (({} : RwLock).acquire guard) memory) := by
  cases guard <;> rfl

/-- The program finishes in a memory that satisfies `post`, whatever `interferes` lets
the other threads do to the memory between two sections. -/
inductive Ensures (onPoison : π) (interferes : σ → σ → Prop) (post : σ → Prop) :
    Program σ π α → RwLock → σ → Prop where
  | finished {program : Program σ π α} {lock lock' : RwLock} {memory memory' : σ} {result : α}
      (ran : program.resume onPoison lock memory = some (.finished result lock' memory'))
      (established : post memory') : Ensures onPoison interferes post program lock memory
  | paused {program rest : Program σ π α} {lock lock' : RwLock} {memory memory' : σ}
      (ran : program.resume onPoison lock memory = some (.paused rest lock' memory'))
      (continues : ∀ memory'', interferes memory' memory'' →
        Ensures onPoison interferes post rest lock' memory'') :
      Ensures onPoison interferes post program lock memory

section Ensures

variable {onPoison : π} {interferes : σ → σ → Prop} {post : σ → Prop}
  {program rest : Program σ π α} {lock lock' : RwLock} {memory memory' memory'' : σ}

theorem not_ensures_of_panicked {cause : π}
    (ran : program.resume onPoison lock memory = some (.panicked cause lock' memory')) :
    ¬ Ensures onPoison interferes post program lock memory := by
  rintro (⟨ran', -⟩ | ⟨ran', -⟩) <;> simp [ran] at ran'

theorem not_ensures_of_deadlocked
    (ran : program.resume onPoison lock memory = some (.deadlocked lock' memory')) :
    ¬ Ensures onPoison interferes post program lock memory := by
  rintro (⟨ran', -⟩ | ⟨ran', -⟩) <;> simp [ran] at ran'

theorem Ensures.resumed (ensured : Ensures onPoison interferes post program lock memory)
    (ran : program.resume onPoison lock memory = some (.paused rest lock' memory'))
    (interference : interferes memory' memory'') :
    Ensures onPoison interferes post rest lock' memory'' := by
  rcases ensured with ⟨ran', -⟩ | ⟨ran', continues⟩
  · simp [ran] at ran'
  · rw [ran] at ran'
    cases ran'
    exact continues _ interference

end Ensures

end Program

end TypeDBDriver.Library
