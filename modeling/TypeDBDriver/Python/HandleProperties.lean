import TypeDBDriver.Python.HandleProtocol

/-! Which sequences of calls on the Python objects keep the native side from seeing a handle
that is gone. -/

namespace TypeDBDriver.Python

open Library ProxyState
open Body (finalState kept_bind misused_bind)

variable {isSpace : Char → Bool} {fails : NativeFunction → Bool} {state : State} {object : Nat}
  {proxy : Proxy Kind}

@[simp] theorem finalState_wrapping (body : Body Kind Exception Value) :
    finalState (wrapping body state) = finalState (body state) :=
  Body.finalState_translating _ _

theorem kept_nativeObject (tracked : Tracked state) (notOwned : ErrorMessage) :
    Kept state (finalState (nativeObject proxy notOwned state)) := by
  unfold nativeObject
  cases proxy.owned <;> exact tracked.kept

theorem kept_voidPromiseResolve (tracked : Tracked state) :
    Kept state (finalState (voidPromiseResolve fails state)) := by
  unfold voidPromiseResolve
  cases fails .voidPromiseResolve <;> exact tracked.kept_transient

theorem nativeObject_ok {notOwned : ErrorMessage} {middle : State} {value : Unit}
    (returned : nativeObject proxy notOwned state = .ok value middle) : middle = state := by
  unfold nativeObject at returned
  cases owned : proxy.owned with
  | true =>
    rw [owned] at returned
    cases returned
    rfl
  | false =>
    rw [owned] at returned
    cases returned

variable {fn : NativeFunction}

section

variable (tracked : Tracked state) (found : state.proxies[object]? = some proxy)
    (owned : proxy.owned = true)

include tracked found owned

theorem kept_swig (matching : fn.consumes = fn.delobject) :
    Kept state (finalState (swig fails object proxy fn state)) := by
  unfold swig
  cases clears : fn.delobject with
  | true =>
    rw [matching, clears]
    have retired : Kept state
        ((state.store object { proxy with owned := false }).pass true proxy.pointer) :=
      tracked.kept_retire found owned rfl (.inr rfl)
    cases fails fn <;> exact retired
  | false =>
    rw [matching, clears]
    have passed := tracked.kept_pass found owned
    cases fails fn <;> exact passed

theorem kept_checked {β : Type} (matching : fn.consumes = fn.delobject)
    (notOwned : ErrorMessage) {rest : Body Kind Exception β}
    (goesOn : ∀ middle, Tracked middle → Kept middle (finalState (rest middle))) :
    Kept state (finalState ((do
      nativeObject proxy notOwned
      swig fails object proxy fn
      rest) state)) := by
  refine kept_bind (kept_nativeObject tracked notOwned) ?_
  intro _ middle returned _
  obtain rfl := nativeObject_ok returned
  refine kept_bind (kept_swig tracked found owned matching) ?_
  intro _ middle _ tracked
  exact goesOn middle tracked

theorem kept_query (text : String) :
    Kept state (finalState (query isSpace fails object proxy text state)) := by
  unfold query checkQuery
  cases text.toList.all isSpace with
  | true => exact tracked.kept
  | false =>
    refine kept_checked tracked found owned rfl .transactionClosed ?_
    intro middle tracked
    exact tracked.kept_allocate .promise

end

theorem swig_store (clears : fn.delobject = true) :
    swig fails object proxy fn (state.store object { proxy with owned := false }) =
      swig fails object proxy fn state := by
  have once : ∀ before : State, swig fails object proxy fn before =
      Body.native .native (fails fn) fn.consumes proxy.pointer
        (before.store object { proxy with owned := false }) := by
    intro before
    unfold swig
    rw [clears]
    rfl
  rw [once, once, store_store]

theorem setThisown_swig {β : Type} (clears : fn.delobject = true) {rest : Body Kind Exception β} :
    (do
      setThisown object proxy false
      swig fails object proxy fn
      rest) state = (swig fails object proxy fn >>= fun _ => rest) state := by
  change (swig fails object proxy fn >>= fun _ => rest)
    (state.store object { proxy with owned := false }) = _
  simp only [bind, EStateM.bind, swig_store clears]

theorem kept_unchecked {β : Type} (tracked : Tracked state)
    (found : state.proxies[object]? = some proxy) (owned : proxy.owned = true)
    (clears : fn.delobject = true) (matching : fn.consumes = fn.delobject)
    {rest : Body Kind Exception β}
    (goesOn : ∀ middle, Tracked middle → Kept middle (finalState (rest middle))) :
    Kept state (finalState ((do
      setThisown object proxy false
      swig fails object proxy fn
      rest) state)) := by
  rw [setThisown_swig clears]
  refine kept_bind (kept_swig tracked found owned matching) ?_
  intro _ middle _ tracked
  exact goesOn middle tracked

theorem kept_body (tracked : Tracked state) (found : state.proxies[object]? = some proxy)
    (owned : proxy.owned = true) (method : Method) :
    Kept state (finalState (method.body isSpace fails object proxy state)) := by
  have returns : ∀ {value : Value} {middle : State}, Tracked middle →
      Kept middle (finalState ((pure value : Body Kind Exception Value) middle)) :=
    fun tracked => tracked.kept
  cases method with
  | query text => exact kept_query tracked found owned text
  | isOpen answer =>
    simp only [Method.body, isOpen, owned]
    exact kept_checked tracked found owned rfl _ fun _ => returns
  | onClose | userName => exact kept_checked tracked found owned rfl _ fun _ => returns
  | commit =>
    simp only [Method.body, commit, finalState_wrapping]
    refine kept_unchecked tracked found owned rfl rfl ?_
    intro middle tracked
    exact kept_bind (kept_voidPromiseResolve tracked) fun _ _ _ => returns
  | rollback =>
    simp only [Method.body, rollback, finalState_wrapping]
    refine kept_checked tracked found owned rfl _ ?_
    intro middle tracked
    exact kept_bind (kept_voidPromiseResolve tracked) fun _ _ _ => returns
  | close =>
    simp only [Method.body, close, owned]
    exact kept_bind (kept_swig tracked found owned rfl) fun _ _ _ => returns
  | databaseName =>
    simp only [Method.body, databaseName, owned]
    exact tracked.kept
  | schema | typeSchema | updatePassword | userDelete =>
    simp only [Method.body, schema, typeSchema, updatePassword, userDelete, finalState_wrapping]
    exact kept_checked tracked found owned rfl _ fun _ => returns
  | databaseDelete =>
    simp only [Method.body, databaseDelete, finalState_wrapping]
    exact kept_unchecked tracked found owned rfl rfl fun _ => returns
  | resolve =>
    simp only [Method.body, resolve, finalState_wrapping]
    exact kept_bind (kept_swig tracked found owned rfl) fun _ _ _ => returns

theorem body_of_spent (spent : proxy.owned = false) {method : Method}
    (checked : method.unchecked = false) :
    finalState (method.body isSpace fails object proxy state) = state ∧
      (method.needsHandle = true →
        ProxyProtocol.raises Exception.isDriver
          (method.body isSpace fails object proxy state) = true) := by
  obtain ⟨kind, pointer, owned, collected⟩ := proxy
  subst spent
  cases method with
  | query text =>
    simp only [Method.body, query, checkQuery]
    cases text.toList.all isSpace <;> exact ⟨rfl, fun _ => rfl⟩
  | isOpen | close => exact ⟨rfl, fun needs => by cases needs⟩
  | commit | databaseDelete | resolve => cases checked
  | onClose | rollback | databaseName | schema | typeSchema | userName | updatePassword
    | userDelete => exact ⟨rfl, fun _ => rfl⟩

theorem misused_swig (tracked : Tracked state) (found : state.proxies[object]? = some proxy)
    (spent : proxy.owned = false) (fn : NativeFunction) :
    (finalState (swig fails object proxy fn state)).misused = true := by
  unfold swig
  cases fn.delobject with
  | true =>
    have noted := tracked.misused_store_pass found spent { proxy with owned := false }
      fn.consumes
    cases fails fn <;> exact noted
  | false =>
    have noted := tracked.misused_pass found spent fn.consumes
    cases fails fn <;> exact noted

theorem misused_voidPromiseResolve (misused : state.misused = true) :
    (finalState (voidPromiseResolve fails state)).misused = true := by
  unfold voidPromiseResolve
  have noted : ({ state with issued := state.issued + 1 }.pass true (some state.issued)).misused =
      true := misused_pass_of_misused misused
  cases fails .voidPromiseResolve <;> exact noted

theorem misused_unchecked {β : Type} (tracked : Tracked state)
    (found : state.proxies[object]? = some proxy) (spent : proxy.owned = false)
    (clears : fn.delobject = true) {rest : Body Kind Exception β}
    (lasting : ∀ middle, middle.misused = true → (finalState (rest middle)).misused = true) :
    (finalState ((do
      setThisown object proxy false
      swig fails object proxy fn
      rest) state)).misused = true := by
  rw [setThisown_swig clears]
  exact misused_bind (misused_swig tracked found spent fn) fun _ => lasting

theorem misused_of_unchecked (tracked : Tracked state)
    (found : state.proxies[object]? = some proxy) (spent : proxy.owned = false)
    {method : Method} (unchecked : method.unchecked = true) :
    (finalState (method.body isSpace fails object proxy state)).misused = true := by
  cases method with
  | commit =>
    simp only [Method.body, commit, finalState_wrapping]
    refine misused_unchecked tracked found spent rfl ?_
    intro middle misused
    exact misused_bind (misused_voidPromiseResolve misused) fun _ _ misused => misused
  | databaseDelete =>
    simp only [Method.body, databaseDelete, finalState_wrapping]
    exact misused_unchecked tracked found spent rfl fun _ misused => misused
  | resolve =>
    simp only [Method.body, resolve, finalState_wrapping]
    exact misused_bind (misused_swig tracked found spent _) fun _ _ misused => misused
  | _ => cases unchecked

theorem kept_createDatabase (tracked : Tracked state) :
    Kept state (finalState (createDatabase fails state)) := by
  have allocated := tracked.kept_allocate Kind.database
  have named : Kept (state.allocate .database)
      ((state.allocate .database).pass false (some state.issued)) :=
    allocated.tracked.kept_pass (getElem?_allocate_self Kind.database) rfl
  unfold createDatabase
  cases fails .databaseGetName <;> exact allocated.trans named

theorem kept_finalize (tracked : Tracked state) (found : state.proxies[object]? = some proxy) :
    Kept state (finalState (finalize object proxy state)) := by
  obtain ⟨kind, pointer, owned, collected⟩ := proxy
  cases owned with
  | true =>
    have consumes : kind.drop.consumes = true := by cases kind <;> rfl
    simp only [finalize, consumes]
    exact tracked.kept_retire found rfl rfl (.inr rfl)
  | false => exact tracked.kept_forget found rfl rfl (.inr rfl)

theorem kept_create (tracked : Tracked state) (creation : Creation) :
    Kept state (finalState (create creation state)) := by
  cases creation with
  | openTransaction => exact tracked.kept_allocate .transaction
  | getDatabase fails => exact kept_createDatabase tracked
  | getUser => exact tracked.kept_allocate .user

theorem lawful : (protocol isSpace).Lawful (·.method.unchecked) (·.method.needsHandle)
    Exception.isDriver where
  create creation tracked := kept_create tracked creation
  finalize _ tracked found := kept_finalize tracked found
  owned call tracked found owned := kept_body tracked found owned call.method
  checked spent checked := body_of_spent spent checked
  unchecked tracked found spent unchecked := misused_of_unchecked tracked found spent unchecked

/-- A sequence of calls never hands a consumed handle to a native function, and every late call
raises, exactly if `commit`, `Database.delete` and the `resolve` of a query promise are not
called on an object whose handle an earlier call has consumed. -/
theorem handles_protected_iff (isSpace : Char → Bool) (labels : List Label) :
    (protocol isSpace).system.Meets (Protected isSpace) {} labels ↔
      (protocol isSpace).system.Meets (ChecksBeforeUse isSpace) {} labels :=
  lawful.meets_protected_iff labels

/-- A second `commit` hands the consumed transaction to `transaction_commit`; a second
`Database.delete` and a second `resolve` do the same with what they hold. -/
theorem consumed_handle_passed_again : let succeeds : NativeFunction → Bool := fun _ => false
    let twice (object : Nat) (method : Method) : List Label :=
      [.call object ⟨method, succeeds⟩, .call object ⟨method, succeeds⟩]
    let query : Label := .call 0 ⟨.query "match", succeeds⟩
    let python := (protocol (· == ' ')).system
    ¬ python.Meets (Protected (· == ' ')) {} (.create .openTransaction :: twice 0 .commit) ∧
      ¬ python.Meets (Protected (· == ' ')) {}
        (.create (.getDatabase succeeds) :: twice 0 .databaseDelete) ∧
      ¬ python.Meets (Protected (· == ' ')) {}
        (.create .openTransaction :: query :: twice 1 .resolve) := by
  refine ⟨?_, ?_, ?_⟩
  · intro meets
    cases (meets.2.2.1 _ rfl).1
  · intro meets
    cases (meets.2.2.1 _ rfl).1
  · intro meets
    cases (meets.2.2.2.1 _ rfl).1

end TypeDBDriver.Python
