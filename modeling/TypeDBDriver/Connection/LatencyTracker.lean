import TypeDBDriver.Library.FixedWidth
import TypeDBDriver.Library.Transition
import TypeDBDriver.Network.MessageDecoding

/-! The latency of a server connection. It is measured when the connection and each of its
transactions are opened, as the time until the answer less the time the server says it took. The
tracker keeps an average, which is sent with the request for the next transaction. -/

namespace TypeDBDriver

open Library

namespace StdDuration

def fromMillis (millis : UInt64) : StdDuration := millis.toNat * 1000000

def sub (left right : StdDuration) : Outcome Empty StdDuration :=
  if right ≤ left then .ok (left - right : Nat) else .panicked

theorem asMillisU64_fromMillis (millis : UInt64) : (fromMillis millis).asMillisU64 = millis := by
  unfold fromMillis asMillisU64
  rw [Nat.mul_div_cancel _ (by decide), UInt64.ofNat_toNat]

end StdDuration

namespace Latency

/-- `latency` in `open_connection`. The time until the answer is exact. -/
def ofConnection (elapsed : StdDuration) (serverDurationMillis : UInt64) :
    Outcome Empty StdDuration :=
  elapsed.sub (StdDuration.fromMillis serverDurationMillis)

/-- `open_latency` in `open_transaction`. The time until the answer is cut to milliseconds. -/
def ofTransaction (checks : Bool) (elapsed : StdDuration) (serverDurationMillis : UInt64) :
    Outcome Empty UInt64 :=
  subIn checks elapsed.asMillisU64 serverDurationMillis

inductive Call where
  | requested
  /-- `update_latency` has loaded the latency that it is about to replace. -/
  | loaded (latencyMillis previousLatency : UInt64)
  | returned
  | panicked
  deriving DecidableEq, Repr

structure TrackerState where
  latencyMillis : UInt64
  calls : List Call := []
  -- history
  /-- The `network_latency` of the requests. -/
  sent : List StdDuration := []
  measured : List UInt64 := []
  /-- Some `open_latency` is not the difference: the subtraction has panicked or wrapped. -/
  subtractionFault : Bool := false
  additionFault : Bool := false
  deriving DecidableEq, Repr

def new (initialLatency : StdDuration) : TrackerState where
  latencyMillis := initialLatency.asMillisU64

def currentLatency (state : TrackerState) : StdDuration :=
  StdDuration.fromMillis state.latencyMillis

def openTransaction (state : TrackerState) : TrackerState :=
  { state with
    calls := state.calls ++ [.requested]
    sent := state.sent ++ [currentLatency state] }

def answer (checks : Bool) (state : TrackerState) (call : Nat) (elapsed : StdDuration)
    (serverDurationMillis : UInt64) : TrackerState :=
  match ofTransaction checks elapsed serverDurationMillis with
  | .ok openLatency =>
    { state with
      calls := state.calls.set call (.loaded openLatency state.latencyMillis)
      measured := state.measured ++ [openLatency]
      subtractionFault := state.subtractionFault ||
        decide (openLatency.toNat + serverDurationMillis.toNat ≠ elapsed.asMillisU64.toNat) }
  | _ => { state with calls := state.calls.set call .panicked, subtractionFault := true }

/-- `update_latency` stores the average. Nothing is stored when the sum panics. -/
def store (checks : Bool) (state : TrackerState) (call : Nat)
    (latencyMillis previousLatency : UInt64) : TrackerState :=
  match (addIn checks latencyMillis previousLatency : Outcome Empty UInt64) with
  | .ok sum =>
    { state with
      latencyMillis := sum / 2
      calls := state.calls.set call .returned
      additionFault := state.additionFault ||
        decide (sum.toNat ≠ latencyMillis.toNat + previousLatency.toNat) }
  | _ => { state with calls := state.calls.set call .panicked, additionFault := true }

inductive Label where
  | openTransaction
  | answer (call : Nat) (elapsed : StdDuration) (serverDurationMillis : UInt64)
  | store (call : Nat)
  deriving DecidableEq, Repr

def step (checks : Bool) (state : TrackerState) : Label → Option TrackerState
  | .openTransaction => some (openTransaction state)
  | .answer call elapsed serverDurationMillis =>
    if state.calls[call]? = some .requested then
      some (answer checks state call elapsed serverDurationMillis)
    else none
  | .store call =>
    match state.calls[call]? with
    | some (.loaded latencyMillis previousLatency) =>
      some (store checks state call latencyMillis previousLatency)
    | _ => none

/-- Any number of calls on any number of threads. The load and the store of `update_latency` are
two steps. -/
def system (checks : Bool) : TransitionSystem TrackerState Label where
  step := step checks

/-- The server took no longer than the milliseconds that were counted until its answer. -/
def DurationFits (_ : TrackerState) : Label → Prop
  | .answer _ elapsed serverDurationMillis => serverDurationMillis.toNat ≤ elapsed.asMillisU64.toNat
  | _ => True

def SumFits (state : TrackerState) : Label → Prop
  | .store call => ∀ latencyMillis previousLatency,
      state.calls[call]? = some (.loaded latencyMillis previousLatency) →
      latencyMillis.toNat + previousLatency.toNat < 2 ^ 64
  | _ => True

variable {checks : Bool} {state next final : TrackerState} {label : Label}

theorem step_cases (took : (system checks).step state label = some next) :
    label = .openTransaction ∧ next = openTransaction state ∨
    (∃ call elapsed serverDurationMillis, label = .answer call elapsed serverDurationMillis ∧
      next = answer checks state call elapsed serverDurationMillis) ∨
    ∃ call latencyMillis previousLatency, label = .store call ∧
      state.calls[call]? = some (.loaded latencyMillis previousLatency) ∧
      next = store checks state call latencyMillis previousLatency := by
  change step checks state label = some next at took
  cases label with
  | openTransaction => exact .inl ⟨rfl, (Option.some.inj took).symm⟩
  | answer call elapsed serverDurationMillis =>
    simp only [step, Option.ite_none_right_eq_some] at took
    exact .inr (.inl ⟨call, elapsed, _, rfl, (Option.some.inj took.2).symm⟩)
  | store call =>
    simp only [step] at took
    split at took
    · next latencyMillis previousLatency loaded =>
        exact .inr (.inr ⟨call, latencyMillis, previousLatency, rfl, loaded,
          (Option.some.inj took).symm⟩)
    · cases took

theorem additionFault_answer (call : Nat) (elapsed : StdDuration) (serverDurationMillis : UInt64) :
    (answer checks state call elapsed serverDurationMillis).additionFault =
      state.additionFault := by
  unfold answer
  split <;> rfl

theorem subtractionFault_store (call : Nat) (latencyMillis previousLatency : UInt64) :
    (store checks state call latencyMillis previousLatency).subtractionFault =
      state.subtractionFault := by
  unfold store
  split <;> rfl

theorem subtractionFault_answer (call : Nat) (elapsed : StdDuration)
    (serverDurationMillis : UInt64) :
    (answer checks state call elapsed serverDurationMillis).subtractionFault = false ↔
      state.subtractionFault = false ∧ serverDurationMillis.toNat ≤ elapsed.asMillisU64.toNat := by
  have fits := @subIn_exact_iff Empty checks elapsed.asMillisU64 serverDurationMillis
  rw [← fits]
  unfold answer ofTransaction
  cases subIn checks elapsed.asMillisU64 serverDurationMillis with
  | ok openLatency => simp
  | error impossible => cases impossible
  | panicked => simp

theorem additionFault_store (call : Nat) (latencyMillis previousLatency : UInt64) :
    (store checks state call latencyMillis previousLatency).additionFault = false ↔
      state.additionFault = false ∧ latencyMillis.toNat + previousLatency.toNat < 2 ^ 64 := by
  have fits := @addIn_exact_iff Empty checks latencyMillis previousLatency
  rw [← fits]
  unfold store
  cases addIn checks latencyMillis previousLatency with
  | ok sum => simp
  | error impossible => cases impossible
  | panicked => simp

/-- The latencies that a call has at hand and those in the cell and in the requests are at most
the greatest one that was measured, the first of the connection among them. -/
structure Bounded (initial : UInt64) (state : TrackerState) : Prop where
  tracked : ∃ bound ∈ initial :: state.measured, state.latencyMillis.toNat ≤ bound.toNat
  loaded {call : Nat} {latencyMillis previousLatency : UInt64} :
    state.calls[call]? = some (.loaded latencyMillis previousLatency) →
      latencyMillis ∈ state.measured ∧
      ∃ bound ∈ initial :: state.measured, previousLatency.toNat ≤ bound.toNat
  sent : ∀ latency ∈ state.sent,
    ∃ bound ∈ initial :: state.measured, latency.asMillisU64.toNat ≤ bound.toNat
  /-- A sum that does not fit has a summand of which twice the size does not. -/
  overflow : state.additionFault = true →
    ∃ bound ∈ initial :: state.measured, 2 ^ 63 ≤ bound.toNat

theorem bounded_new (initialLatency : StdDuration) :
    Bounded initialLatency.asMillisU64 (new initialLatency) where
  tracked := ⟨_, List.mem_cons_self, Nat.le_refl _⟩
  loaded none := by cases none
  sent _ none := by cases none
  overflow none := by cases none

variable {latencyMillis previousLatency : UInt64}

theorem addIn_half_le {sum : UInt64}
    (added : (addIn checks latencyMillis previousLatency : Outcome Empty UInt64) = .ok sum) :
    (sum / 2).toNat ≤ latencyMillis.toNat ∨ (sum / 2).toNat ≤ previousLatency.toNat := by
  have atMost : sum.toNat ≤ latencyMillis.toNat + previousLatency.toNat := by
    cases checks with
    | true =>
      rw [addIn, if_pos rfl, FixedWidth.checkedAdd_eq_ok_iff] at added
      simp only [FixedWidth.toInt_uint64] at added
      omega
    | false =>
      cases added
      rw [UInt64.toNat_add]
      exact Nat.mod_le _ _
  have half : (sum / 2).toNat = sum.toNat / 2 := UInt64.toNat_div sum 2
  omega

variable {initial : UInt64}

theorem Bounded.openTransaction (bounded : Bounded initial state) :
    Bounded initial (openTransaction state) where
  tracked := bounded.tracked
  loaded found := by
    rw [Latency.openTransaction, List.getElem?_append] at found
    split at found
    · exact bounded.loaded found
    · have last := List.mem_of_getElem? found
      simp at last
  sent latency listed := by
    rcases List.mem_append.mp listed with earlier | new
    · exact bounded.sent latency earlier
    · rw [List.mem_singleton.mp new, currentLatency, StdDuration.asMillisU64_fromMillis]
      exact bounded.tracked
  overflow := bounded.overflow

variable {call : Nat}

theorem getElem?_set_eq_some {calls : List Call} {other : Nat} {new found : Call}
    (present : (calls.set call new)[other]? = some found) :
    found = new ∨ calls[other]? = some found := by
  rw [List.getElem?_set] at present
  split at present
  · split at present
    · exact .inl (Option.some.inj present).symm
    · cases present
  · exact .inr present

section

variable (bounded : Bounded initial state)

include bounded

theorem Bounded.answer (call : Nat) (elapsed : StdDuration) (serverDurationMillis : UInt64) :
    Bounded initial (answer checks state call elapsed serverDurationMillis) := by
  unfold Latency.answer
  split
  · next openLatency measured =>
      have grown : ∀ {holds : UInt64 → Prop}, (∃ bound ∈ initial :: state.measured, holds bound) →
          ∃ bound ∈ initial :: (state.measured ++ [openLatency]), holds bound := by
        intro holds ⟨bound, listed, held⟩
        exact ⟨bound, List.mem_append_left [openLatency] listed, held⟩
      refine ⟨grown bounded.tracked, ?_, fun latency listed => grown (bounded.sent latency listed),
        fun faulty => grown (bounded.overflow faulty)⟩
      intro other latencyMillis previousLatency found
      rcases getElem?_set_eq_some found with same | earlier
      · cases same
        exact ⟨List.mem_append_right _ List.mem_cons_self, grown bounded.tracked⟩
      · obtain ⟨listed, before⟩ := bounded.loaded earlier
        exact ⟨List.mem_append_left _ listed, grown before⟩
  · refine ⟨bounded.tracked, ?_, bounded.sent, bounded.overflow⟩
    intro other latencyMillis previousLatency found
    rcases getElem?_set_eq_some found with impossible | earlier
    · cases impossible
    · exact bounded.loaded earlier

theorem Bounded.overflow_store
    (loaded : state.calls[call]? = some (.loaded latencyMillis previousLatency))
    (faulty : (store checks state call latencyMillis previousLatency).additionFault = true) :
    ∃ bound ∈ initial :: state.measured, 2 ^ 63 ≤ bound.toNat := by
  obtain ⟨listed, bound, inBounds, before⟩ := bounded.loaded loaded
  by_cases earlier : state.additionFault = true
  · exact bounded.overflow earlier
  · have large : ¬ latencyMillis.toNat + previousLatency.toNat < 2 ^ 64 := by
      intro fits
      rw [additionFault_store call latencyMillis previousLatency |>.mpr
        ⟨Bool.eq_false_iff.mpr earlier, fits⟩] at faulty
      cases faulty
    by_cases first : 2 ^ 63 ≤ latencyMillis.toNat
    · exact ⟨latencyMillis, List.mem_cons_of_mem _ listed, first⟩
    · exact ⟨bound, inBounds, by omega⟩

theorem Bounded.store (loaded : state.calls[call]? = some (.loaded latencyMillis previousLatency)) :
    Bounded initial (store checks state call latencyMillis previousLatency) := by
  have overflow : (Latency.store checks state call latencyMillis previousLatency).additionFault =
      true → _ := bounded.overflow_store loaded
  have others : ∀ {phase : Call}, (∀ first second, phase ≠ .loaded first second) →
      ∀ {other : Nat} {first second : UInt64},
      (state.calls.set call phase)[other]? = some (.loaded first second) →
      state.calls[other]? = some (.loaded first second) := by
    intro phase different other first second found
    rcases getElem?_set_eq_some found with same | earlier
    · exact absurd same.symm (different first second)
    · exact earlier
  unfold Latency.store at overflow ⊢
  split
  · next sum added =>
      rw [added] at overflow
      refine ⟨?_, fun found => bounded.loaded (others (by simp) found), bounded.sent, overflow⟩
      obtain ⟨listed, bound, inBounds, before⟩ := bounded.loaded loaded
      rcases addIn_half_le added with atMost | atMost
      · exact ⟨latencyMillis, List.mem_cons_of_mem _ listed, atMost⟩
      · exact ⟨bound, inBounds, Nat.le_trans atMost before⟩
  · next failed =>
      refine ⟨bounded.tracked, fun found => bounded.loaded (others (by simp) found), bounded.sent,
        fun _ => overflow ?_⟩
      split
      · next sum added => exact absurd added (failed sum)
      · rfl

theorem Bounded.step (took : (system checks).step state label = some next) :
    Bounded initial next := by
  rcases step_cases took with ⟨-, rfl⟩ | ⟨call, elapsed, duration, -, rfl⟩ |
    ⟨call, latencyMillis, previousLatency, -, loaded, rfl⟩
  · exact bounded.openTransaction
  · exact bounded.answer call elapsed duration
  · exact bounded.store loaded

end

theorem run_bounded {initialLatency : StdDuration} {labels : List Label}
    (ran : (system checks).run (new initialLatency) labels = some final) :
    Bounded initialLatency.asMillisU64 final :=
  TransitionSystem.run_preserves Bounded.step (bounded_new initialLatency) ran

theorem subtractionFault_step (took : (system checks).step state label = some next) :
    next.subtractionFault = false ↔ state.subtractionFault = false ∧ DurationFits state label := by
  rcases step_cases took with ⟨rfl, rfl⟩ | ⟨call, elapsed, duration, rfl, rfl⟩ |
    ⟨call, latencyMillis, previousLatency, rfl, loaded, rfl⟩
  · exact (and_iff_left trivial).symm
  · exact subtractionFault_answer call elapsed duration
  · rw [subtractionFault_store]
    exact (and_iff_left trivial).symm

theorem additionFault_step (took : (system checks).step state label = some next) :
    next.additionFault = false ↔ state.additionFault = false ∧ SumFits state label := by
  rcases step_cases took with ⟨rfl, rfl⟩ | ⟨call, elapsed, duration, rfl, rfl⟩ |
    ⟨call, latencyMillis, previousLatency, rfl, loaded, rfl⟩
  · exact (and_iff_left trivial).symm
  · rw [additionFault_answer]
    exact (and_iff_left trivial).symm
  · simp only [additionFault_store, SumFits, loaded, Option.some.injEq, Call.loaded.injEq,
      and_imp, forall_eq', forall_apply_eq_imp_iff]

theorem ofConnection_panicked_iff (elapsed : StdDuration) (serverDurationMillis : UInt64) :
    ofConnection elapsed serverDurationMillis = .panicked ↔
      elapsed < serverDurationMillis.toNat * 1000000 := by
  unfold ofConnection StdDuration.sub StdDuration.fromMillis
  rw [← Nat.not_le]
  split
  · next fits => simp [fits]
  · next less => simp [less]

/-- A latency is measured as it is exactly when the server took no longer than the time until its
answer: in nanoseconds when the connection is opened, in whole milliseconds when a transaction is.
The addition of the tracker overflows only after half of the range was measured. Whatever was
measured, wrapped differences among it, bounds the latency that is tracked and sent. -/
theorem measured_safely_iff {initialLatency : StdDuration} {labels : List Label}
    (ran : (system checks).run (new initialLatency) labels = some final) :
    (∀ elapsed serverDurationMillis, ofConnection elapsed serverDurationMillis ≠ .panicked ↔
      serverDurationMillis.toNat * 1000000 ≤ elapsed) ∧
    (final.subtractionFault = false ↔
      (system checks).Meets DurationFits (new initialLatency) labels) ∧
    (final.additionFault = false ↔ (system checks).Meets SumFits (new initialLatency) labels) ∧
    ((∀ latency ∈ initialLatency.asMillisU64 :: final.measured, latency.toNat < 2 ^ 63) →
      final.additionFault = false) ∧
    (∃ bound ∈ initialLatency.asMillisU64 :: final.measured,
      final.latencyMillis.toNat ≤ bound.toNat) ∧
    ∀ latency ∈ final.sent, ∃ bound ∈ initialLatency.asMillisU64 :: final.measured,
      latency.asMillisU64.toNat ≤ bound.toNat := by
  have bounded := run_bounded ran
  refine ⟨?_, ?_, ?_, ?_, bounded.tracked, bounded.sent⟩
  · intro elapsed serverDurationMillis
    rw [Ne, ofConnection_panicked_iff, Nat.not_lt]
  · exact TransitionSystem.run_flag_iff subtractionFault_step rfl ran
  · exact TransitionSystem.run_flag_iff additionFault_step rfl ran
  · intro small
    rw [← Bool.not_eq_true]
    intro faulty
    obtain ⟨bound, listed, large⟩ := bounded.overflow faulty
    have less := small bound listed
    omega

/-- A transaction opened in 7 ms, of which the server took 2, after a connection with 1 ms. -/
theorem measured_safely_iff_ordinary :
    (system true).run (new 1000000) [.openTransaction, .answer 0 7000000 2, .store 0] =
      some ⟨3, [.returned], [1000000], [5], false, false⟩ ∧
    (system true).Meets SumFits (new 1000000) [.openTransaction, .answer 0 7000000 2, .store 0] :=
  have ran : (system true).run (new 1000000) [.openTransaction, .answer 0 7000000 2, .store 0] =
      some ⟨3, [.returned], [1000000], [5], false, false⟩ := by decide
  ⟨ran, (measured_safely_iff ran).2.2.1.mp rfl⟩

/-- The answer comes after 400 µs, and the server says that it took 1 ms. Opening the connection
panics. Opening a transaction panics in a build with overflow checks; without them the greatest
number of milliseconds is measured, and the next sum wraps. -/
theorem measured_unsafely :
    ofConnection 400000 1 = .panicked ∧
    (system true).run (new 1000000) [.openTransaction, .answer 0 400000 1] =
      some ⟨1, [.panicked], [1000000], [], true, false⟩ ∧
    (system false).run (new 1000000) [.openTransaction, .answer 0 400000 1, .store 0] =
      some ⟨0, [.returned], [1000000], [18446744073709551615], true, true⟩ := by
  decide

end Latency

end TypeDBDriver
