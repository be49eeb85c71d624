import Mathlib.Data.List.Basic

/-! A queue made of promises: an array of promises that nobody has taken yet, and an array of the
resolvers of promises that nobody has resolved yet. Takers and producers may overtake each other;
whoever comes first creates the promise. The promise of the n-th take gets the n-th element. -/

namespace TypeDBDriver.Library

/-- Promises are numbered in the order of their creation. -/
structure PromiseQueue (α : Type) where
  /-- What each promise was resolved with. -/
  resolved : List (Option α) := []
  promises : List Nat := []
  resolvers : List Nat := []

namespace PromiseQueue

variable {α : Type}

def addPromise (queue : PromiseQueue α) : PromiseQueue α where
  resolved := queue.resolved ++ [none]
  promises := queue.promises ++ [queue.resolved.length]
  resolvers := queue.resolvers ++ [queue.resolved.length]

def add (queue : PromiseQueue α) (value : α) : PromiseQueue α :=
  let queue := if queue.resolvers.isEmpty then queue.addPromise else queue
  match queue.resolvers with
  | [] => queue
  | resolver :: rest =>
    { queue with resolved := queue.resolved.set resolver (some value), resolvers := rest }

def take (queue : PromiseQueue α) : Option Nat × PromiseQueue α :=
  let queue := if queue.promises.isEmpty then queue.addPromise else queue
  (queue.promises.head?, { queue with promises := queue.promises.tail })

def value (queue : PromiseQueue α) (promise : Nat) : Option α :=
  queue.resolved[promise]?.join

/-- The queue after the elements `added` were added and `taken` promises were taken, in whatever
order. -/
structure Represents (queue : PromiseQueue α) (added : List α) (taken : Nat) : Prop where
  resolved : queue.resolved = added.map some ++ List.replicate (taken - added.length) none
  promises : queue.promises = List.range' taken (added.length - taken)
  resolvers : queue.resolvers = List.range' added.length (taken - added.length)

namespace Represents

variable {queue : PromiseQueue α} {added : List α} {taken : Nat}

theorem empty : Represents ({} : PromiseQueue α) [] 0 := ⟨rfl, rfl, rfl⟩

section

variable (represents : Represents queue added taken)

include represents

theorem value_eq (promise : Nat) : queue.value promise = added[promise]? := by
  simp only [value, represents.resolved, List.getElem?_append, List.length_map,
    List.getElem?_map, List.getElem?_replicate]
  split
  · next inside => simp [inside]
  · next outside =>
      rw [List.getElem?_eq_none (Nat.le_of_not_lt outside)]
      split <;> rfl

theorem add_ahead (ahead : taken ≤ added.length) (value : α) :
    Represents (queue.add value) (added ++ [value]) taken := by
  have none : taken - added.length = 0 := Nat.sub_eq_zero_of_le ahead
  have more : added.length + 1 - taken = added.length - taken + 1 := by omega
  have last : taken + (added.length - taken) = added.length := by omega
  have idle : queue.resolvers = [] := by rw [represents.resolvers, none]; rfl
  have settled : queue.resolved = added.map some := by rw [represents.resolved, none]; simp
  have after : taken - (added.length + 1) = 0 := by omega
  constructor
  · simp [add, idle, addPromise, settled, after]
  · simp [add, idle, addPromise, settled, represents.promises, more, List.range'_concat, last]
  · simp [add, idle, addPromise, after]

theorem add_behind (behind : added.length < taken) (value : α) :
    Represents (queue.add value) (added ++ [value]) taken := by
  obtain ⟨waiting, rfl⟩ : ∃ waiting, taken = added.length + (waiting + 1) :=
    ⟨taken - added.length - 1, by omega⟩
  have count : added.length + (waiting + 1) - added.length = waiting + 1 := by omega
  have after : added.length + (waiting + 1) - (added ++ [value]).length = waiting := by
    rw [List.length_append, List.length_singleton]
    omega
  have untaken : added.length - (added.length + (waiting + 1)) = 0 := by omega
  have untakenAfter : (added ++ [value]).length - (added.length + (waiting + 1)) = 0 := by
    rw [List.length_append, List.length_singleton]
    omega
  have resolvers : queue.resolvers =
      added.length :: List.range' (added.length + 1) waiting := by
    rw [represents.resolvers, count, List.range'_succ]
  constructor
  · simp only [add, resolvers, List.isEmpty_cons, Bool.false_eq_true, if_false, after,
      represents.resolved, count]
    rw [List.set_append_right _ _ (by simp)]
    simp [List.replicate_succ]
  · simp only [add, resolvers, List.isEmpty_cons, Bool.false_eq_true, if_false, untakenAfter]
    rw [represents.promises, untaken]
  · simp only [add, resolvers, List.isEmpty_cons, Bool.false_eq_true, if_false, after]
    simp

theorem add (value : α) : Represents (queue.add value) (added ++ [value]) taken := by
  rcases Nat.lt_or_ge added.length taken with behind | ahead
  · exact represents.add_behind behind value
  · exact represents.add_ahead ahead value

theorem take : queue.take.1 = some taken ∧ Represents queue.take.2 added (taken + 1) := by
  rcases Nat.lt_or_ge taken added.length with ahead | behind
  · obtain ⟨stored, enough⟩ : ∃ stored, added.length = taken + (stored + 1) :=
      ⟨added.length - taken - 1, by omega⟩
    have count : added.length - taken = stored + 1 := by omega
    have after : added.length - (taken + 1) = stored := by omega
    have none : taken - added.length = 0 := by omega
    have noneAfter : taken + 1 - added.length = 0 := by omega
    have promises : queue.promises = taken :: List.range' (taken + 1) stored := by
      rw [represents.promises, count, List.range'_succ]
    constructor
    · simp [PromiseQueue.take, promises]
    · constructor
      · simp [PromiseQueue.take, promises, represents.resolved, none, noneAfter]
      · simp [PromiseQueue.take, promises, after]
      · simp [PromiseQueue.take, promises, represents.resolvers, none, noneAfter]
  · have none : added.length - taken = 0 := by omega
    have idle : queue.promises = [] := by rw [represents.promises, none]; rfl
    have more : taken + 1 - added.length = taken - added.length + 1 := by omega
    have length : queue.resolved.length = taken := by
      rw [represents.resolved]
      simp
      omega
    have last : added.length + (taken - added.length) = taken := by omega
    constructor
    · simp [PromiseQueue.take, idle, addPromise, length]
    · constructor
      · simp [PromiseQueue.take, idle, addPromise, represents.resolved, more, List.replicate_succ']
      · have after : added.length - (taken + 1) = 0 := by omega
        simp [PromiseQueue.take, idle, addPromise, after]
      · simp [PromiseQueue.take, idle, addPromise, length, represents.resolvers, more,
          List.range'_concat, last]

end

end Represents

end PromiseQueue

end TypeDBDriver.Library
