import Mathlib.Data.List.Basic

/-! The iterators of the Java driver: the look-ahead that the SWIG interface puts into the proxy of
a native iterator, and the class that wraps the proxy. -/

namespace TypeDBDriver.Java

/-- A native iterator by what each call of its function `next` returns. There `none` is null. -/
abbrev NativeNext (α Error : Type) := Nat → Except Error (Option α)

def NativeNext.ofList {α : Type} (Error : Type) (items : List α) : NativeNext α Error :=
  fun call => .ok items[call]?

structure Unchecked (Error : Type) where
  error : Error
  deriving DecidableEq, Repr

structure TypeDBDriverException (Error : Type) where
  nativeError : Unchecked Error
  deriving DecidableEq, Repr

structure IteratorProxy (α : Type) where
  isFinished : Bool := false
  next : Option α := none
  nativeCalls : Nat := 0
  deriving DecidableEq, Repr

namespace IteratorProxy

variable {α Error : Type}

def fetchNext (native : NativeNext α Error) (proxy : IteratorProxy α) :
    Except Error (Option α) × IteratorProxy α :=
  let called := { proxy with nativeCalls := proxy.nativeCalls + 1 }
  match native proxy.nativeCalls with
  | .ok next => (.ok next, { called with next })
  | .error error => (.error error, called)

def hasNext (native : NativeNext α Error) (proxy : IteratorProxy α) :
    Except (Unchecked Error) Bool × IteratorProxy α :=
  if proxy.isFinished then (.ok false, proxy)
  else if proxy.next.isNone then
    match proxy.fetchNext native with
    | (.ok none, proxy) => (.ok false, { proxy with isFinished := true })
    | (.ok (some _), proxy) => (.ok true, proxy)
    | (.error error, proxy) => (.error ⟨error⟩, proxy)
  else (.ok true, proxy)

/-- The method `next`, whose name the field has as well. -/
def takeNext (native : NativeNext α Error) (proxy : IteratorProxy α) :
    Except (Unchecked Error) (Option α) × IteratorProxy α :=
  if proxy.next.isNone then
    match proxy.hasNext native with
    | (.ok true, proxy) => (.ok proxy.next, { proxy with next := none })
    | (.ok false, proxy) => (.ok none, proxy)
    | (.error error, proxy) => (.error error, proxy)
  else (.ok proxy.next, { proxy with next := none })

end IteratorProxy

inductive IteratorCall where
  | hasNext
  | next
  deriving DecidableEq, Repr

inductive IteratorResult (α : Type) where
  | hasNext (isLeft : Bool)
  | next (item : Option α)
  deriving DecidableEq, Repr

structure NativeIterator (α : Type) where
  inner : IteratorProxy α := {}
  deriving DecidableEq, Repr

namespace NativeIterator

variable {α Error : Type}

def hasNext (native : NativeNext α Error) (iterator : NativeIterator α) :
    Except (TypeDBDriverException Error) Bool × NativeIterator α :=
  let (result, inner) := iterator.inner.hasNext native
  (result.mapError TypeDBDriverException.mk, ⟨inner⟩)

def next (native : NativeNext α Error) (iterator : NativeIterator α) :
    Except (TypeDBDriverException Error) (Option α) × NativeIterator α :=
  let (result, inner) := iterator.inner.takeNext native
  (result.mapError TypeDBDriverException.mk, ⟨inner⟩)

def call (native : NativeNext α Error) (iterator : NativeIterator α) :
    IteratorCall → Except (TypeDBDriverException Error) (IteratorResult α) × NativeIterator α
  | .hasNext =>
    let (result, iterator) := iterator.hasNext native
    (result.map .hasNext, iterator)
  | .next =>
    let (result, iterator) := iterator.next native
    (result.map .next, iterator)

def callAll (native : NativeNext α Error) :
    List IteratorCall → NativeIterator α →
      List (Except (TypeDBDriverException Error) (IteratorResult α)) × NativeIterator α
  | [], iterator => ([], iterator)
  | call :: rest, iterator =>
    let (result, iterator) := iterator.call native call
    let (results, iterator) := callAll native rest iterator
    (result :: results, iterator)

end NativeIterator

def IteratorCall.expected {α : Type} (items : List α) (taken : Nat) :
    IteratorCall → IteratorResult α
  | .hasNext => .hasNext (decide (taken < items.length))
  | .next => .next items[taken]?

def IteratorResult.item? {α : Type} : IteratorResult α → Option α
  | .hasNext _ => none
  | .next item => item

section Faithful

variable {α : Type} {items : List α} {taken : Nat}

/-- A proxy after `taken` calls of `next`: it has fetched no more than it has returned, or one item
more, or has come to the end. -/
inductive IteratorProxy.Reads (items : List α) (taken : Nat) : IteratorProxy α → Prop where
  | level (left : taken ≤ items.length) : Reads items taken ⟨false, none, taken⟩
  | ahead {item : α} (found : items[taken]? = some item) :
      Reads items taken ⟨false, some item, taken + 1⟩
  | finished (ended : items.length ≤ taken) : Reads items taken ⟨true, none, items.length + 1⟩

namespace IteratorProxy.Reads

variable {proxy : IteratorProxy α}

theorem nativeCalls_le (reads : Reads items taken proxy) :
    proxy.nativeCalls ≤ items.length + 1 := by
  cases reads with
  | level left => exact Nat.le_succ_of_le left
  | ahead found => exact Nat.succ_le_succ (Nat.le_of_lt (List.getElem?_eq_some_iff.mp found).1)
  | finished ended => exact Nat.le_refl _

theorem hasNext (Error : Type) (reads : Reads items taken proxy) :
    (∃ item, items[taken]? = some item ∧ proxy.hasNext (.ofList Error items) =
        (.ok true, ⟨false, some item, taken + 1⟩)) ∨
      (items.length ≤ taken ∧ proxy.hasNext (.ofList Error items) =
        (.ok false, ⟨true, none, items.length + 1⟩)) := by
  cases reads with
  | ahead found => exact .inl ⟨_, found, rfl⟩
  | finished ended => exact .inr ⟨ended, rfl⟩
  | level left =>
    have fetched : fetchNext (.ofList Error items) ⟨false, none, taken⟩ =
        (.ok items[taken]?, ⟨false, items[taken]?, taken + 1⟩) := rfl
    cases found : items[taken]? with
    | some item =>
      refine .inl ⟨item, rfl, ?_⟩
      simp [IteratorProxy.hasNext, fetched, found]
    | none =>
      have ended : items.length ≤ taken := List.getElem?_eq_none_iff.mp found
      have same : taken = items.length := Nat.le_antisymm left ended
      refine .inr ⟨ended, ?_⟩
      rw [found] at fetched
      simp [IteratorProxy.hasNext, fetched, ← same]

theorem takeNext (Error : Type) (reads : Reads items taken proxy) :
    ∃ after, proxy.takeNext (.ofList Error items) = (.ok items[taken]?, after) ∧
      Reads items (taken + 1) after := by
  have looked := reads.hasNext Error
  cases reads with
  | ahead found =>
    refine ⟨⟨false, none, taken + 1⟩, ?_, .level (List.getElem?_eq_some_iff.mp found).1⟩
    rw [found]
    rfl
  | level left | finished ended =>
    unfold IteratorProxy.takeNext
    rcases looked with ⟨item, found, looked⟩ | ⟨ended, looked⟩
    · refine ⟨⟨false, none, taken + 1⟩, ?_, .level (List.getElem?_eq_some_iff.mp found).1⟩
      simp [looked, found]
    · refine ⟨⟨true, none, items.length + 1⟩, ?_, .finished (Nat.le_succ_of_le ended)⟩
      simp [looked, ended]

end IteratorProxy.Reads

theorem NativeIterator.call_reads (Error : Type) {iterator : NativeIterator α}
    (reads : iterator.inner.Reads items taken) (call : IteratorCall) :
    ∃ after, iterator.call (.ofList Error items) call = (.ok (call.expected items taken), after) ∧
      after.inner.Reads items (taken + [call].count .next) := by
  cases call with
  | hasNext =>
    rcases reads.hasNext Error with ⟨item, found, looked⟩ | ⟨ended, looked⟩
    · have left : taken < items.length := (List.getElem?_eq_some_iff.mp found).1
      refine ⟨⟨⟨false, some item, taken + 1⟩⟩, ?_, .ahead found⟩
      simp only [NativeIterator.call, NativeIterator.hasNext, looked, IteratorCall.expected, left,
        decide_true]
      rfl
    · refine ⟨⟨⟨true, none, items.length + 1⟩⟩, ?_, .finished ended⟩
      simp only [NativeIterator.call, NativeIterator.hasNext, looked, IteratorCall.expected,
        Nat.not_lt_of_ge ended, decide_false]
      rfl
  | next =>
    obtain ⟨after, taken, reads⟩ := reads.takeNext Error
    refine ⟨⟨after⟩, ?_, reads⟩
    simp only [NativeIterator.call, NativeIterator.next, taken]
    rfl

def IteratorCall.expectedAll (items : List α) : Nat → List IteratorCall → List (IteratorResult α)
  | _, [] => []
  | taken, call :: rest =>
    call.expected items taken :: expectedAll items (taken + [call].count .next) rest

theorem NativeIterator.callAll_reads (Error : Type) (calls : List IteratorCall)
    {iterator : NativeIterator α} (reads : iterator.inner.Reads items taken) :
    ∃ after, iterator.callAll (.ofList Error items) calls =
        ((IteratorCall.expectedAll items taken calls).map .ok, after) ∧
      after.inner.Reads items (taken + calls.count .next) := by
  induction calls generalizing iterator taken with
  | nil => exact ⟨iterator, rfl, reads⟩
  | cons call rest ih =>
    obtain ⟨middle, called, reads⟩ := NativeIterator.call_reads Error reads call
    obtain ⟨after, ran, reads⟩ := ih reads
    have count : taken + (call :: rest).count .next =
        taken + [call].count .next + rest.count .next := by
      rw [Nat.add_assoc, ← List.count_append]
      rfl
    refine ⟨after, ?_, count ▸ reads⟩
    simp only [NativeIterator.callAll, called, ran]
    rfl

theorem IteratorCall.getElem?_expectedAll (calls : List IteratorCall) (place : Nat) :
    (expectedAll items taken calls)[place]? =
      calls[place]?.map (expected items (taken + (calls.take place).count .next)) := by
  induction calls generalizing taken place with
  | nil => rfl
  | cons call rest ih =>
    cases place with
    | zero => rfl
    | succ place =>
      have count : taken + ((call :: rest).take (place + 1)).count .next =
          taken + [call].count .next + (rest.take place).count .next := by
        rw [Nat.add_assoc, ← List.count_append]
        rfl
      rw [count]
      exact ih place

theorem IteratorCall.items_expectedAll (calls : List IteratorCall) :
    (expectedAll items taken calls).filterMap IteratorResult.item? =
      (items.drop taken).take (calls.count .next) := by
  induction calls generalizing taken with
  | nil => rfl
  | cons call rest ih =>
    cases call with
    | hasNext => exact ih
    | next =>
      rw [List.count_cons_self]
      change (IteratorResult.next items[taken]? :: expectedAll items (taken + 1) rest).filterMap
        IteratorResult.item? = _
      cases found : items[taken]? with
      | none =>
        have ended : items.length ≤ taken := List.getElem?_eq_none_iff.mp found
        rw [List.filterMap_cons_none rfl, ih]
        rw [List.drop_eq_nil_of_le ended, List.drop_eq_nil_of_le (Nat.le_succ_of_le ended),
          List.take_nil, List.take_nil]
      | some item =>
        obtain ⟨left, same⟩ := List.getElem?_eq_some_iff.mp found
        have returned : (IteratorResult.next (some item)).item? = some item := rfl
        rw [List.filterMap_cons_some returned, ih, List.drop_eq_getElem_cons left,
          List.take_succ_cons, same]

/-- However its methods are called, an iterator over native items returns the items in order and
then null, says exactly whether an item is left, and calls the native function at most once more
than there are items. -/
theorem NativeIterator.faithful (Error : Type) (items : List α) (calls : List IteratorCall) :
    ∃ (results : List (IteratorResult α)) (after : NativeIterator α),
      ({} : NativeIterator α).callAll (.ofList Error items) calls =
        (results.map .ok, after) ∧
      (∀ (place : Nat) (call : IteratorCall), calls[place]? = some call →
        results[place]? = some (call.expected items ((calls.take place).count .next))) ∧
      results.filterMap IteratorResult.item? = items.take (calls.count .next) ∧
      after.inner.nativeCalls ≤ items.length + 1 := by
  obtain ⟨after, ran, reads⟩ := NativeIterator.callAll_reads Error calls
    (.level (Nat.zero_le items.length) : ({} : NativeIterator α).inner.Reads items 0)
  refine ⟨_, after, ran, ?_, IteratorCall.items_expectedAll calls, reads.nativeCalls_le⟩
  intro place call found
  rw [IteratorCall.getElem?_expectedAll, found, Nat.zero_add]
  rfl

end Faithful

end TypeDBDriver.Java
