import TypeDBDriver.Library.NativeProxy
import TypeDBDriver.Library.Transition

/-! A language whose objects wrap proxies: objects are created, methods are called on them in
any order, and the collector finalizes them. Which methods look at the flag of the proxy before
they use its pointer decides which sequences of calls reach a native object that is gone. -/

namespace TypeDBDriver.Library

structure ProxyProtocol (Kind Creation Call Exception Value : Type) where
  create : Creation → Body Kind Exception Value
  /-- The kind of object that has the method. -/
  kind : Call → Kind
  body : Call → Nat → Proxy Kind → Body Kind Exception Value
  /-- What the collector runs; the flag says that the native call of the finalizer fails. -/
  finalize : Bool → Nat → Proxy Kind → Body Kind Exception Value

namespace ProxyProtocol

open ProxyState

variable {Kind Creation Call Exception Value : Type} [DecidableEq Kind]
  (protocol : ProxyProtocol Kind Creation Call Exception Value)

inductive Label (Creation Call : Type) where
  | create (creation : Creation)
  | call (object : Nat) (call : Call)
  /-- The collector frees an object that nothing refers to any more. -/
  | collect (object : Nat) (fails : Bool)

def receiver (state : ProxyState Kind) (object : Nat) (kind : Kind) : Option (Proxy Kind) :=
  state.proxies[object]?.filter fun proxy => decide (proxy.kind = kind) && !proxy.collected

def perform (state : ProxyState Kind) :
    Label Creation Call → Option (EStateM.Result Exception (ProxyState Kind) Value)
  | .create creation => some (protocol.create creation state)
  | .call object call =>
    (receiver state object (protocol.kind call)).map fun proxy =>
      protocol.body call object proxy state
  | .collect object fails =>
    (state.proxies[object]?.filter (!·.collected)).map fun proxy =>
      protocol.finalize fails object proxy state

def system : TransitionSystem (ProxyState Kind) (Label Creation Call) where
  step state label := (protocol.perform state label).map Body.finalState

def late (state : ProxyState Kind) : Label Creation Call → Bool
  | .call object call =>
    (receiver state object (protocol.kind call)).any fun proxy => state.invalid proxy.pointer
  | _ => false

def raises (reported : Exception → Bool) :
    EStateM.Result Exception (ProxyState Kind) Value → Bool
  | .ok _ _ => false
  | .error raised _ => reported raised

/-- No native function is called with a null pointer or a consumed handle, and a call that
would need one raises. -/
def Protected (needsHandle : Call → Bool) (reported : Exception → Bool)
    (state : ProxyState Kind) (label : Label Creation Call) : Prop :=
  ∀ result, protocol.perform state label = some result →
    (Body.finalState result).misused = false ∧
    ∀ object call, label = .call object call → needsHandle call = true →
      protocol.late state label = true → raises reported result = true

/-- The methods that do not look at the flag are not called on an object that is gone. -/
def checksBeforeUse (unchecked : Call → Bool) (state : ProxyState Kind) :
    Label Creation Call → Bool
  | .call object call => !(unchecked call && protocol.late state (.call object call))
  | _ => true

structure Lawful (unchecked needsHandle : Call → Bool) (reported : Exception → Bool) : Prop where
  create : ∀ {state : ProxyState Kind} (creation : Creation), Tracked state →
    Kept state (Body.finalState (protocol.create creation state))
  finalize : ∀ {state : ProxyState Kind} {object : Nat} {proxy : Proxy Kind} (fails : Bool),
    Tracked state → state.proxies[object]? = some proxy →
    Kept state (Body.finalState (protocol.finalize fails object proxy state))
  owned : ∀ {state : ProxyState Kind} {object : Nat} {proxy : Proxy Kind} (call : Call),
    Tracked state → state.proxies[object]? = some proxy → proxy.owned = true →
    Kept state (Body.finalState (protocol.body call object proxy state))
  checked : ∀ {state : ProxyState Kind} {object : Nat} {proxy : Proxy Kind} {call : Call},
    proxy.owned = false → unchecked call = false →
    Body.finalState (protocol.body call object proxy state) = state ∧
      (needsHandle call = true → raises reported (protocol.body call object proxy state) = true)
  unchecked : ∀ {state : ProxyState Kind} {object : Nat} {proxy : Proxy Kind} {call : Call},
    Tracked state → state.proxies[object]? = some proxy → proxy.owned = false →
    unchecked call = true →
    (Body.finalState (protocol.body call object proxy state)).misused = true

variable {protocol} {unchecked needsHandle : Call → Bool} {reported : Exception → Bool}
  {state : ProxyState Kind} {object : Nat} {proxy : Proxy Kind} {call : Call}

theorem receiver_eq_some {kind : Kind} (received : receiver state object kind = some proxy) :
    state.proxies[object]? = some proxy :=
  (Option.filter_eq_some_iff.mp received).1

theorem late_call (tracked : Tracked state)
    (received : receiver state object (protocol.kind call) = some proxy) :
    protocol.late state (.call object call) = !proxy.owned := by
  simp only [late, received, Option.any_some]
  exact tracked.invalid_eq (receiver_eq_some received)

variable {result : EStateM.Result Exception (ProxyState Kind) Value}

section

variable (lawful : protocol.Lawful unchecked needsHandle reported)

include lawful

/-- One call: it keeps the ledger in order where it checks, and an unchecked one on an object
that is gone is noted. -/
theorem Lawful.perform_spec (tracked : Tracked state) {label : Label Creation Call}
    (performed : protocol.perform state label = some result) :
    (protocol.checksBeforeUse unchecked state label = true →
        Kept state (Body.finalState result)) ∧
      (protocol.checksBeforeUse unchecked state label = false →
        (Body.finalState result).misused = true) := by
  cases label with
  | create creation =>
    cases performed
    exact ⟨fun _ => lawful.create creation tracked, fun skips => by cases skips⟩
  | collect object fails =>
    obtain ⟨proxy, present, rfl⟩ := Option.map_eq_some_iff.mp performed
    have found := (Option.filter_eq_some_iff.mp present).1
    exact ⟨fun _ => lawful.finalize fails tracked found, fun skips => by cases skips⟩
  | call object call =>
    obtain ⟨proxy, received, rfl⟩ := Option.map_eq_some_iff.mp performed
    have found := receiver_eq_some received
    simp only [checksBeforeUse, late_call tracked received]
    cases owned : proxy.owned with
    | true =>
      refine ⟨fun _ => lawful.owned call tracked found owned, ?_⟩
      simp
    | false =>
      cases skipped : unchecked call with
      | true =>
        refine ⟨?_, fun _ => lawful.unchecked tracked found owned skipped⟩
        simp
      | false =>
        refine ⟨?_, by simp⟩
        intro _
        rw [(lawful.checked owned skipped).1]
        exact tracked.kept

theorem Lawful.raises_of_late (tracked : Tracked state)
    (performed : protocol.perform state (.call object call) = some result)
    (checks : protocol.checksBeforeUse unchecked state (.call object call) = true)
    (needs : needsHandle call = true) (gone : protocol.late state (.call object call) = true) :
    raises reported result = true := by
  obtain ⟨proxy, received, rfl⟩ := Option.map_eq_some_iff.mp performed
  have spent : proxy.owned = false := by
    simpa only [late_call tracked received, Bool.not_eq_true'] using gone
  have checked : unchecked call = false := by
    simpa [checksBeforeUse, gone] using checks
  exact (lawful.checked spent checked).2 needs

theorem Lawful.protected_iff_checksBeforeUse (tracked : Tracked state)
    (clean : state.misused = false) (label : Label Creation Call) :
    protocol.Protected needsHandle reported state label ↔
      protocol.checksBeforeUse unchecked state label = true := by
  constructor
  · intro safe
    cases performed : protocol.perform state label with
    | none =>
      cases label with
      | call object call =>
        have absent := Option.map_eq_none_iff.mp performed
        simp [checksBeforeUse, late, absent]
      | _ => rfl
    | some result =>
      by_contra unmet
      have misused := (lawful.perform_spec tracked performed).2 (eq_false_of_ne_true unmet)
      rw [(safe result performed).1] at misused
      cases misused
  · intro checks result performed
    have kept := (lawful.perform_spec tracked performed).1 checks
    refine ⟨kept.misused.trans clean, ?_⟩
    intro object call called needs gone
    subst called
    exact lawful.raises_of_late tracked performed checks needs gone

/-- The calls of a sequence are all protected exactly if no unchecked method is called on an
object that is gone. -/
theorem Lawful.meets_protected_iff (labels : List (Label Creation Call)) :
    protocol.system.Meets (protocol.Protected needsHandle reported) {} labels ↔
      protocol.system.Meets (fun state label =>
        protocol.checksBeforeUse unchecked state label = true) {} labels := by
  have preserved : ∀ {state next label},
      Tracked state ∧ state.misused = false →
      protocol.checksBeforeUse unchecked state label = true →
      protocol.system.step state label = some next → Tracked next ∧ next.misused = false := by
    intro state next label holds checks took
    obtain ⟨result, performed, rfl⟩ := Option.map_eq_some_iff.mp took
    have kept := (lawful.perform_spec holds.1 performed).1 checks
    exact ⟨kept.tracked, kept.misused.trans holds.2⟩
  have same : ∀ {state label},
      Tracked state ∧ state.misused = false →
      (protocol.Protected needsHandle reported state label ↔
        protocol.checksBeforeUse unchecked state label = true) :=
    fun holds => lawful.protected_iff_checksBeforeUse holds.1 holds.2 _
  exact TransitionSystem.meets_congr preserved same ⟨tracked_initial, rfl⟩ labels

end

end ProxyProtocol

end TypeDBDriver.Library
