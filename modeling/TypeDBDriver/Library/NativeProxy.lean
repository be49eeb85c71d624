import Mathlib.Data.List.Basic

/-! Objects of a managed language that stand for native objects. A proxy holds a pointer and a
flag that says whether the native object is its own; a native function is called with the
pointer, and may consume the object. The ledger knows which handles were consumed, and notes a
call with a null pointer or with a handle that was consumed before. -/

namespace TypeDBDriver.Library

abbrev Handle := Nat

structure Proxy (Kind : Type) where
  kind : Kind
  /-- `none` is the null pointer. -/
  pointer : Option Handle
  owned : Bool := true
  /-- The finalizer has run. -/
  collected : Bool := false

structure ProxyState (Kind : Type) where
  proxies : List (Proxy Kind) := []
  issued : Nat := 0
  consumed : List Handle := []
  misused : Bool := false

/-- The body of a method: it may raise, and what it has done before stays done. -/
abbrev Body (Kind Exception : Type) := EStateM Exception (ProxyState Kind)

namespace ProxyState

variable {Kind Exception : Type}

def invalid (state : ProxyState Kind) (pointer : Option Handle) : Bool :=
  pointer.all state.consumed.contains

def pass (state : ProxyState Kind) (consumes : Bool) (pointer : Option Handle) :
    ProxyState Kind :=
  { state with
    consumed := if consumes then pointer.toList ++ state.consumed else state.consumed
    misused := state.misused || state.invalid pointer }

def store (state : ProxyState Kind) (object : Nat) (proxy : Proxy Kind) : ProxyState Kind :=
  { state with proxies := state.proxies.set object proxy }

def allocate (state : ProxyState Kind) (kind : Kind) : ProxyState Kind :=
  { state with
    proxies := state.proxies ++ [{ kind, pointer := some state.issued }]
    issued := state.issued + 1 }

end ProxyState

namespace Body

variable {Kind Exception : Type}

/-- A native call that passes the pointer. Where it `fails`, the wrapper raises `reported`
after the call. -/
def native (reported : Exception) (fails consumes : Bool) (pointer : Option Handle) :
    Body Kind Exception Unit := do
  modify (·.pass consumes pointer)
  if fails then throw reported

def store (object : Nat) (proxy : Proxy Kind) : Body Kind Exception Unit :=
  modify (·.store object proxy)

def allocate (kind : Kind) : Body Kind Exception Unit :=
  modify (·.allocate kind)

/-- A native object that no proxy outlives the statement for. -/
def issue : Body Kind Exception (Option Handle) :=
  modifyGet fun state => (some state.issued, { state with issued := state.issued + 1 })

def translating {α : Type} (translate : Exception → Exception) (body : Body Kind Exception α) :
    Body Kind Exception α :=
  try body catch raised => throw (translate raised)

def finalState {α : Type} : EStateM.Result Exception (ProxyState Kind) α → ProxyState Kind
  | .ok _ state | .error _ state => state

end Body

namespace ProxyState

variable {Kind : Type} {state middle next : ProxyState Kind} {object : Nat} {proxy : Proxy Kind}

/-- An owned proxy points to a live object of its own, any other one to a consumed object or
to none. -/
structure Tracked (state : ProxyState Kind) : Prop where
  bounded : ∀ {object : Nat} {proxy : Proxy Kind} {handle : Handle},
    state.proxies[object]? = some proxy → proxy.pointer = some handle → handle < state.issued
  spent : ∀ {handle : Handle}, handle ∈ state.consumed → handle < state.issued
  distinct : ∀ {first second : Nat} {left right : Proxy Kind} {handle : Handle},
    state.proxies[first]? = some left → state.proxies[second]? = some right →
    left.pointer = some handle → right.pointer = some handle → first = second
  owned : ∀ {object : Nat} {proxy : Proxy Kind}, state.proxies[object]? = some proxy →
    proxy.owned = true → ∃ handle, proxy.pointer = some handle ∧ handle ∉ state.consumed
  disowned : ∀ {object : Nat} {proxy : Proxy Kind} {handle : Handle},
    state.proxies[object]? = some proxy → proxy.owned = false → proxy.pointer = some handle →
    handle ∈ state.consumed

theorem tracked_initial : Tracked ({} : ProxyState Kind) where
  bounded found := by simp at found
  spent member := by simp at member
  distinct found := by simp at found
  owned found := by simp at found
  disowned found := by simp at found

theorem Tracked.invalid_eq (tracked : Tracked state) (found : state.proxies[object]? = some proxy) :
    state.invalid proxy.pointer = !proxy.owned := by
  cases owned : proxy.owned with
  | true =>
    obtain ⟨handle, pointer, live⟩ := tracked.owned found owned
    simpa [invalid, pointer] using live
  | false =>
    cases pointer : proxy.pointer with
    | none => rfl
    | some handle => simpa [invalid] using tracked.disowned found owned pointer

theorem Tracked.pass (tracked : Tracked state) (pointer : Option Handle) :
    Tracked (state.pass false pointer) :=
  { tracked with }

theorem Tracked.transient (tracked : Tracked state) :
    Tracked ({ state with issued := state.issued + 1 }.pass true (some state.issued)) where
  bounded found pointer := Nat.lt_succ_of_lt (tracked.bounded found pointer)
  spent := by
    intro handle member
    rcases List.mem_cons.mp member with rfl | member
    · exact Nat.lt_succ_self _
    · exact Nat.lt_succ_of_lt (tracked.spent member)
  distinct := tracked.distinct
  owned := by
    intro object proxy found owned
    obtain ⟨handle, pointer, live⟩ := tracked.owned found owned
    refine ⟨handle, pointer, ?_⟩
    intro member
    rcases List.mem_cons.mp member with rfl | member
    · exact Nat.lt_irrefl _ (tracked.bounded found pointer)
    · exact live member
  disowned found owned pointer := List.mem_cons_of_mem _ (tracked.disowned found owned pointer)

theorem Tracked.misused_transient (tracked : Tracked state) :
    ({ state with issued := state.issued + 1 }.pass true (some state.issued)).misused =
      state.misused := by
  have fresh : state.issued ∉ state.consumed := by
    intro member
    exact Nat.lt_irrefl _ (tracked.spent member)
  simp [ProxyState.pass, invalid, fresh]

variable {found : Proxy Kind}

theorem getElem?_allocate {kind : Kind}
    (present : (state.allocate kind).proxies[object]? = some found) :
    state.proxies[object]? = some found ∨
      object = state.proxies.length ∧ found = { kind, pointer := some state.issued } := by
  simp only [allocate, List.getElem?_append] at present
  split at present
  · exact .inl present
  · next beyond =>
      have last := (List.getElem?_eq_some_iff.mp present).1
      simp only [List.length_singleton] at last
      have place : object = state.proxies.length := by omega
      subst place
      simp only [Nat.sub_self, List.getElem?_cons_zero, Option.some.injEq] at present
      exact .inr ⟨rfl, present.symm⟩

theorem getElem?_allocate_self (kind : Kind) :
    (state.allocate kind).proxies[state.proxies.length]? =
      some { kind, pointer := some state.issued } := by
  simp [allocate]

theorem Tracked.allocate (tracked : Tracked state) (kind : Kind) :
    Tracked (state.allocate kind) where
  bounded := by
    intro object proxy handle found pointer
    rcases getElem?_allocate found with before | ⟨-, rfl⟩
    · exact Nat.lt_succ_of_lt (tracked.bounded before pointer)
    · cases pointer
      exact Nat.lt_succ_self _
  spent member := Nat.lt_succ_of_lt (tracked.spent member)
  distinct := by
    intro first second left right handle leftFound rightFound leftPointer rightPointer
    rcases getElem?_allocate leftFound with leftBefore | ⟨rfl, rfl⟩ <;>
      rcases getElem?_allocate rightFound with rightBefore | ⟨rfl, rfl⟩
    · exact tracked.distinct leftBefore rightBefore leftPointer rightPointer
    · cases rightPointer
      exact absurd (tracked.bounded leftBefore leftPointer) (Nat.lt_irrefl _)
    · cases leftPointer
      exact absurd (tracked.bounded rightBefore rightPointer) (Nat.lt_irrefl _)
    · rfl
  owned := by
    intro object proxy found owned
    rcases getElem?_allocate found with before | ⟨-, rfl⟩
    · exact tracked.owned before owned
    · refine ⟨_, rfl, ?_⟩
      intro member
      exact Nat.lt_irrefl _ (tracked.spent member)
  disowned := by
    intro object proxy handle found owned pointer
    rcases getElem?_allocate found with before | ⟨-, rfl⟩
    · exact tracked.disowned before owned pointer
    · cases owned

variable {stored : Proxy Kind} {other : Nat}

theorem getElem?_store (present : (state.store object stored).proxies[other]? = some found) :
    other = object ∧ found = stored ∨ other ≠ object ∧ state.proxies[other]? = some found := by
  simp only [store, List.getElem?_set] at present
  by_cases same : object = other
  · simp only [same, if_true] at present
    split at present
    · cases present
      exact .inl ⟨same.symm, rfl⟩
    · cases present
  · simp only [same, if_false] at present
    exact .inr ⟨Ne.symm same, present⟩

theorem origin_of_store {candidate : Proxy Kind} (found : state.proxies[object]? = some proxy)
    (pointer : stored.pointer = none ∨ stored.pointer = proxy.pointer) {handle : Handle}
    (present : (state.store object stored).proxies[other]? = some candidate)
    (target : candidate.pointer = some handle) :
    ∃ original, state.proxies[other]? = some original ∧ original.pointer = some handle := by
  rcases getElem?_store present with ⟨rfl, rfl⟩ | ⟨-, before⟩
  · rcases pointer with null | kept
    · rw [null] at target
      cases target
    · exact ⟨proxy, found, kept ▸ target⟩
  · exact ⟨candidate, before, target⟩

theorem Tracked.disown (tracked : Tracked state) (found : state.proxies[object]? = some proxy)
    (disowned : stored.owned = false)
    (pointer : stored.pointer = none ∨ stored.pointer = proxy.pointer) {consumed : List Handle}
    (misused : Bool) (counted : ∀ handle,
      handle ∈ consumed ↔ handle ∈ state.consumed ∨ proxy.pointer = some handle) :
    Tracked { state.store object stored with consumed, misused } where
  bounded := by
    intro other candidate handle present target
    obtain ⟨original, before, same⟩ := origin_of_store found pointer present target
    exact tracked.bounded before same
  spent := by
    intro handle member
    rcases (counted handle).mp member with earlier | own
    · exact tracked.spent earlier
    · exact tracked.bounded found own
  distinct := by
    intro first second left right handle leftFound rightFound leftPointer rightPointer
    obtain ⟨_, leftBefore, leftSame⟩ := origin_of_store found pointer leftFound leftPointer
    obtain ⟨_, rightBefore, rightSame⟩ := origin_of_store found pointer rightFound rightPointer
    exact tracked.distinct leftBefore rightBefore leftSame rightSame
  owned := by
    intro other candidate present owned
    rcases getElem?_store present with ⟨-, rfl⟩ | ⟨differs, before⟩
    · rw [disowned] at owned
      cases owned
    · obtain ⟨handle, target, live⟩ := tracked.owned before owned
      refine ⟨handle, target, ?_⟩
      intro member
      rcases (counted handle).mp member with earlier | own
      · exact live earlier
      · exact differs (tracked.distinct before found target own)
  disowned := by
    intro other candidate handle present owned target
    rcases getElem?_store present with ⟨-, rfl⟩ | ⟨-, before⟩
    · rcases pointer with null | kept
      · rw [null] at target
        cases target
      · exact (counted handle).mpr (.inr (kept ▸ target))
    · exact (counted handle).mpr (.inl (tracked.disowned before owned target))

variable {retired : Proxy Kind}

theorem Tracked.retire (tracked : Tracked state) (found : state.proxies[object]? = some proxy)
    (disowned : retired.owned = false)
    (pointer : retired.pointer = none ∨ retired.pointer = proxy.pointer) :
    Tracked ((state.store object retired).pass true proxy.pointer) := by
  refine tracked.disown found disowned pointer _ ?_
  intro handle
  rw [if_pos rfl, List.mem_append, Option.mem_toList, or_comm]
  rfl

theorem Tracked.forget (tracked : Tracked state) (found : state.proxies[object]? = some proxy)
    (spent : proxy.owned = false) (disowned : stored.owned = false)
    (pointer : stored.pointer = none ∨ stored.pointer = proxy.pointer) :
    Tracked (state.store object stored) := by
  refine tracked.disown found disowned pointer state.misused ?_
  intro handle
  exact (or_iff_left_of_imp (tracked.disowned found spent)).symm

/-- A step that keeps the ledger in order and misuses nothing. -/
structure Kept (state next : ProxyState Kind) : Prop where
  tracked : Tracked next
  misused : next.misused = state.misused

theorem Tracked.kept (tracked : Tracked state) : Kept state state :=
  ⟨tracked, rfl⟩

theorem Kept.trans (first : Kept state middle) (second : Kept middle next) : Kept state next :=
  ⟨second.tracked, second.misused.trans first.misused⟩

section

variable (tracked : Tracked state)

include tracked

theorem Tracked.kept_pass (found : state.proxies[object]? = some proxy)
    (owned : proxy.owned = true) : Kept state (state.pass false proxy.pointer) := by
  refine ⟨tracked.pass _, ?_⟩
  simp [ProxyState.pass, tracked.invalid_eq found, owned]

theorem Tracked.kept_transient :
    Kept state ({ state with issued := state.issued + 1 }.pass true (some state.issued)) :=
  ⟨tracked.transient, tracked.misused_transient⟩

theorem Tracked.kept_allocate (kind : Kind) : Kept state (state.allocate kind) :=
  ⟨tracked.allocate kind, rfl⟩

theorem Tracked.kept_retire (found : state.proxies[object]? = some proxy)
    (owned : proxy.owned = true) (disowned : retired.owned = false)
    (pointer : retired.pointer = none ∨ retired.pointer = proxy.pointer) :
    Kept state ((state.store object retired).pass true proxy.pointer) := by
  refine ⟨tracked.retire found disowned pointer, ?_⟩
  have valid : (state.store object retired).invalid proxy.pointer = false := by
    rw [← Bool.not_true, ← owned]
    exact tracked.invalid_eq found
  simp only [ProxyState.pass, valid, Bool.or_false]
  rfl

theorem Tracked.kept_forget (found : state.proxies[object]? = some proxy)
    (spent : proxy.owned = false) (disowned : stored.owned = false)
    (pointer : stored.pointer = none ∨ stored.pointer = proxy.pointer) :
    Kept state (state.store object stored) :=
  ⟨tracked.forget found spent disowned pointer, rfl⟩

theorem Tracked.misused_pass (found : state.proxies[object]? = some proxy)
    (spent : proxy.owned = false) (consumes : Bool) :
    (state.pass consumes proxy.pointer).misused = true := by
  simp [ProxyState.pass, tracked.invalid_eq found, spent]

theorem Tracked.misused_store_pass (found : state.proxies[object]? = some proxy)
    (spent : proxy.owned = false) (stored : Proxy Kind) (consumes : Bool) :
    ((state.store object stored).pass consumes proxy.pointer).misused = true :=
  tracked.misused_pass found spent consumes

end

theorem misused_pass_of_misused {consumes : Bool} {pointer : Option Handle}
    (misused : state.misused = true) : (state.pass consumes pointer).misused = true := by
  simp [ProxyState.pass, misused]

@[simp] theorem store_store (first second : Proxy Kind) :
    (state.store object first).store object second = state.store object second := by
  simp [store]

theorem store_pass (stored : Proxy Kind) (consumes : Bool) (pointer : Option Handle) :
    (state.pass consumes pointer).store object stored =
      (state.store object stored).pass consumes pointer := rfl

end ProxyState

namespace Body

open ProxyState

variable {Kind Exception α β : Type} {state : ProxyState Kind}

@[simp] theorem finalState_native (reported : Exception) (fails consumes : Bool)
    (pointer : Option Handle) :
    finalState (native reported fails consumes pointer state) = state.pass consumes pointer := by
  cases fails <;> rfl

@[simp] theorem finalState_translating (translate : Exception → Exception)
    (body : Body Kind Exception α) :
    finalState (translating translate body state) = finalState (body state) := by
  unfold translating
  simp only [tryCatch, tryCatchThe, MonadExceptOf.tryCatch, EStateM.tryCatch]
  cases body state <;> rfl

variable {first : Body Kind Exception α} {second : α → Body Kind Exception β}

/-- The rule of sequence: what follows runs only where the first part returns. The first part
may start from a state that is not in order, such as one where a handle is on its way. -/
theorem kept_bind {entry : ProxyState Kind} (begins : Kept state (finalState (first entry)))
    (goesOn : ∀ value middle, first entry = .ok value middle → Tracked middle →
      Kept middle (finalState (second value middle))) :
    Kept state (finalState ((first >>= second) entry)) := by
  simp only [bind, EStateM.bind]
  cases ran : first entry with
  | ok value middle =>
    rw [ran] at begins
    exact begins.trans (goesOn value middle ran begins.tracked)
  | error raised middle =>
    rw [ran] at begins
    exact begins

theorem misused_bind (begins : (finalState (first state)).misused = true)
    (lasting : ∀ value middle, middle.misused = true →
      (finalState (second value middle)).misused = true) :
    (finalState ((first >>= second) state)).misused = true := by
  simp only [bind, EStateM.bind]
  cases ran : first state with
  | ok value middle =>
    rw [ran] at begins
    exact lasting value middle begins
  | error raised middle =>
    rw [ran] at begins
    exact begins

end Body

end TypeDBDriver.Library
