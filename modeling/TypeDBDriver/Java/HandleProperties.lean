import TypeDBDriver.Java.HandleProtocol

/-! Which sequences of calls on the Java objects keep the native side from seeing a null pointer
or a handle that is gone. -/

namespace TypeDBDriver.Java

open Library ProxyState
open Body (finalState kept_bind)

variable {isWhitespace : Char → Bool} {fails : NativeFunction → Bool} {state : State}
  {object : Nat} {proxy : Proxy Kind}

@[simp] theorem finalState_wrapping (body : Body Kind Exception Value) :
    finalState (wrapping body state) = finalState (body state) :=
  Body.finalState_translating _ _

@[simp] theorem finalState_unchecking (body : Body Kind Exception Unit) :
    finalState (unchecking body state) = finalState (body state) :=
  Body.finalState_translating _ _

@[simp] theorem finalState_jni (fn : NativeFunction) (pointer : Option Handle) :
    finalState (jni fails fn pointer state) = state.pass fn.consumes pointer :=
  Body.finalState_native _ _ _ _

variable {fn : NativeFunction}

theorem kept_jni (tracked : Tracked state) (found : state.proxies[object]? = some proxy)
    (owned : proxy.owned = true) (borrows : fn.consumes = false) :
    Kept state (finalState (jni fails fn proxy.pointer state)) := by
  rw [finalState_jni, borrows]
  exact tracked.kept_pass found owned

theorem kept_voidPromiseGet (tracked : Tracked state) :
    Kept state (finalState (voidPromiseGet fails state)) := by
  change Kept state (finalState (unchecking _ { state with issued := state.issued + 1 }))
  rw [finalState_unchecking, finalState_jni]
  exact tracked.kept_transient

theorem released_of_owned (owned : proxy.owned = true) :
    released object proxy state =
      .ok proxy.pointer (state.store object { proxy with pointer := none, owned := false }) := by
  unfold released
  rw [owned]
  rfl

section

variable (tracked : Tracked state) (found : state.proxies[object]? = some proxy)
    (owned : proxy.owned = true)

include tracked found owned

/-- A method that gives up the handle to a native function that consumes it. -/
theorem kept_released {β : Type} (consumes : fn.consumes = true) {rest : Body Kind Exception β}
    (goesOn : ∀ middle, Tracked middle → Kept middle (finalState (rest middle))) :
    Kept state (finalState ((do
      let pointer ← released object proxy
      jni fails fn pointer
      rest) state)) := by
  have unfolded : (do
      let pointer ← released object proxy
      jni fails fn pointer
      rest) state = (jni fails fn proxy.pointer >>= fun _ => rest)
        (state.store object { proxy with pointer := none, owned := false }) := by
    simp only [bind, EStateM.bind, released_of_owned owned]
  rw [unfolded]
  refine kept_bind ?_ fun _ middle _ => goesOn middle
  rw [finalState_jni, consumes]
  exact tracked.kept_retire found owned rfl (.inl rfl)

theorem kept_queryAnswerPromiseGet :
    Kept state (finalState (queryAnswerPromiseGet fails object proxy state)) := by
  change Kept state (finalState (unchecking _
    (state.store object { proxy with owned := false })))
  rw [finalState_unchecking, finalState_jni]
  exact tracked.kept_retire found owned rfl (.inr rfl)

theorem kept_borrowing {β : Type} (borrows : fn.consumes = false) {rest : Body Kind Exception β}
    (goesOn : ∀ middle, Tracked middle → Kept middle (finalState (rest middle))) :
    Kept state (finalState ((do
      jni fails fn proxy.pointer
      rest) state)) :=
  kept_bind (kept_jni tracked found owned borrows) fun _ middle _ => goesOn middle

end

theorem checkOwned_of_owned {β : Type} (owned : proxy.owned = true) (notOwned : ErrorMessage)
    (rest : Body Kind Exception β) :
    (do
      checkOwned proxy notOwned
      rest) = rest := by
  unfold checkOwned
  rw [owned]
  rfl

theorem kept_body (tracked : Tracked state) (found : state.proxies[object]? = some proxy)
    (owned : proxy.owned = true) (method : Method) :
    Kept state (finalState (method.body isWhitespace fails object proxy state)) := by
  have returns : ∀ {value : Value} (middle : State), Tracked middle →
      Kept middle (finalState ((pure value : Body Kind Exception Value) middle)) :=
    fun _ tracked => tracked.kept
  have promised : ∀ middle : State, Tracked middle → Kept middle (finalState ((do
      voidPromiseGet fails
      return .void : Body Kind Exception Value) middle)) :=
    fun _ tracked => kept_bind (kept_voidPromiseGet tracked) fun _ middle _ => returns middle
  cases method with
  | isOpen answer =>
    simp only [Method.body, isOpen, owned]
    exact kept_borrowing tracked found owned rfl returns
  | query text =>
    simp only [Method.body, query]
    cases isMissing isWhitespace text with
    | true => exact tracked.kept
    | false =>
      change Kept state (finalState (wrapping _ state))
      rw [finalState_wrapping]
      refine kept_borrowing tracked found owned rfl ?_
      intro middle tracked
      exact tracked.kept_allocate .promise
  | onClose | schema | typeSchema =>
    simp only [Method.body, onClose, schema, typeSchema, checkOwned_of_owned owned,
      finalState_wrapping]
    exact kept_borrowing tracked found owned rfl returns
  | commit =>
    simp only [Method.body, commit, checkOwned_of_owned owned, finalState_wrapping]
    exact kept_released tracked found owned rfl promised
  | rollback =>
    simp only [Method.body, rollback, checkOwned_of_owned owned, finalState_wrapping]
    exact kept_borrowing tracked found owned rfl promised
  | close =>
    simp only [Method.body, close, owned]
    change Kept state (finalState (wrapping _ state))
    rw [finalState_wrapping]
    exact kept_borrowing tracked found owned rfl returns
  | databaseName =>
    simp only [Method.body, databaseName, checkOwned_of_owned owned]
    exact kept_borrowing tracked found owned rfl returns
  | databaseDelete =>
    simp only [Method.body, databaseDelete, checkOwned_of_owned owned, finalState_wrapping]
    exact kept_released tracked found owned rfl returns
  | userName => exact kept_borrowing tracked found owned rfl returns
  | updatePassword =>
    simp only [Method.body, updatePassword, finalState_wrapping]
    exact kept_borrowing tracked found owned rfl returns
  | userDelete =>
    simp only [Method.body, userDelete, finalState_wrapping]
    exact kept_released tracked found owned rfl returns
  | resolve =>
    simp only [Method.body, resolve, finalState_wrapping]
    exact kept_bind (kept_queryAnswerPromiseGet tracked found owned)
      fun _ middle _ => returns middle

variable {method : Method}

theorem body_of_spent (spent : proxy.owned = false)
    (checked : method.unchecked isWhitespace = false) :
    finalState (method.body isWhitespace fails object proxy state) = state ∧
      (method.needsHandle = true → ProxyProtocol.raises Exception.isDriver
        (method.body isWhitespace fails object proxy state) = true) := by
  obtain ⟨kind, pointer, owned, collected⟩ := proxy
  subst spent
  cases method with
  | isOpen | close => exact ⟨rfl, fun needs => by cases needs⟩
  | query text =>
    have missing : isMissing isWhitespace text = true := by
      simpa [Method.unchecked] using checked
    simp only [Method.body, query, missing]
    exact ⟨rfl, fun _ => rfl⟩
  | onClose | commit | rollback | databaseName | schema | typeSchema | databaseDelete =>
    exact ⟨rfl, fun _ => rfl⟩
  | userName | updatePassword | userDelete | resolve => cases checked

theorem released_of_spent (spent : proxy.owned = false) :
    released object proxy state = .ok proxy.pointer state := by
  unfold released
  rw [spent]
  rfl

theorem misused_jni {β : Type} (tracked : Tracked state)
    (found : state.proxies[object]? = some proxy) (spent : proxy.owned = false)
    (fn : NativeFunction) {rest : Body Kind Exception β}
    (lasting : ∀ middle, middle.misused = true → (finalState (rest middle)).misused = true) :
    (finalState ((do
      jni fails fn proxy.pointer
      rest) state)).misused = true := by
  refine Body.misused_bind ?_ fun _ => lasting
  rw [finalState_jni]
  exact tracked.misused_pass found spent _

theorem misused_of_unchecked (tracked : Tracked state) (found : state.proxies[object]? = some proxy)
    (spent : proxy.owned = false) (unchecked : method.unchecked isWhitespace = true) :
    (finalState (method.body isWhitespace fails object proxy state)).misused = true := by
  cases method with
  | query text =>
    have present : isMissing isWhitespace text = false := by
      simpa [Method.unchecked] using unchecked
    simp only [Method.body, query, present]
    change (finalState (wrapping _ state)).misused = true
    rw [finalState_wrapping]
    exact misused_jni tracked found spent _ fun _ misused => misused
  | userName => exact misused_jni tracked found spent _ fun _ misused => misused
  | updatePassword =>
    simp only [Method.body, updatePassword, finalState_wrapping]
    exact misused_jni tracked found spent _ fun _ misused => misused
  | userDelete =>
    simp only [Method.body, userDelete, finalState_wrapping, bind, EStateM.bind,
      released_of_spent spent]
    exact misused_jni tracked found spent _ fun _ misused => misused
  | resolve =>
    simp only [Method.body, resolve, finalState_wrapping]
    refine Body.misused_bind ?_ fun _ _ misused => misused
    change (finalState (unchecking _ (state.store object _))).misused = true
    rw [finalState_unchecking, finalState_jni]
    exact tracked.misused_store_pass found spent _ _
  | _ => cases unchecked

theorem kept_create (tracked : Tracked state) (creation : Creation) :
    Kept state (finalState (create creation state)) := by
  cases creation <;> exact tracked.kept_allocate _

theorem kept_finalize (tracked : Tracked state) (found : state.proxies[object]? = some proxy)
    (failing : Bool) : Kept state (finalState (finalize failing object proxy state)) := by
  obtain ⟨kind, pointer, owned, collected⟩ := proxy
  cases owned with
  | false =>
    cases pointer with
    | none => exact tracked.kept_forget found rfl rfl (.inr rfl)
    | some handle =>
      change Kept state ((state.store object _).store object _)
      rw [store_store]
      exact tracked.kept_forget found rfl rfl (.inl rfl)
  | true =>
    obtain ⟨handle, same, -⟩ := tracked.owned found rfl
    cases same
    -- the finalizer clears the flag, calls the native function, and clears the pointer unless the
    -- resolution of a promise throws
    have thrown : Kept state (((state.store object ⟨kind, some handle, true, true⟩).store
        object ⟨kind, some handle, false, true⟩).pass true (some handle)) := by
      rw [store_store]
      exact tracked.kept_retire found rfl rfl (.inr rfl)
    have returned : Kept state ((((state.store object ⟨kind, some handle, true, true⟩).store
        object ⟨kind, some handle, false, true⟩).pass true (some handle)).store object
        ⟨kind, none, false, true⟩) := by
      rw [store_pass, store_store, store_store]
      exact tracked.kept_retire found rfl rfl (.inl rfl)
    cases failing <;> cases kind <;> first | exact returned | exact thrown

theorem lawful : (protocol isWhitespace).Lawful (·.method.unchecked isWhitespace)
    (·.method.needsHandle) Exception.isDriver where
  create creation tracked := kept_create tracked creation
  finalize failing tracked found := kept_finalize tracked found failing
  owned call tracked found owned := kept_body tracked found owned call.method
  checked spent checked := body_of_spent spent checked
  unchecked tracked found spent unchecked := misused_of_unchecked tracked found spent unchecked

/-- A sequence of calls never hands a null pointer or a consumed handle to a native function, and
every late call throws, exactly if no query is sent on a transaction after its commit, no method
called on a user after its `delete`, and no promise resolved twice. -/
theorem handles_protected_iff_checked (isWhitespace : Char → Bool) (labels : List Label) :
    (protocol isWhitespace).system.Meets (Protected isWhitespace) {} labels ↔
      (protocol isWhitespace).system.Meets (ChecksBeforeUse isWhitespace) {} labels :=
  lawful.meets_protected_iff labels

/-- A query after `commit`, a second `User.delete` and `User.name` after `delete` pass a null
pointer; a second `resolve` passes the consumed promise. -/
theorem gone_handle_passed : let succeeds : NativeFunction → Bool := fun _ => false
    let call (object : Nat) (method : Method) : Label := .call object ⟨method, succeeds⟩
    let query : Method := .query (some "match")
    let java := (protocol (· == ' ')).system
    ¬ java.Meets (Protected (· == ' ')) {}
        [.create .openTransaction, call 0 .commit, call 0 query] ∧
      ¬ java.Meets (Protected (· == ' ')) {}
        [.create .getUser, call 0 .userDelete, call 0 .userDelete] ∧
      ¬ java.Meets (Protected (· == ' ')) {}
        [.create .getUser, call 0 .userDelete, call 0 .userName] ∧
      ¬ java.Meets (Protected (· == ' ')) {}
        [.create .openTransaction, call 0 query, call 1 .resolve, call 1 .resolve] := by
  refine ⟨?_, ?_, ?_, ?_⟩
  · intro meets
    cases (meets.2.2.1 _ rfl).1
  · intro meets
    cases (meets.2.2.1 _ rfl).1
  · intro meets
    cases (meets.2.2.1 _ rfl).1
  · intro meets
    cases (meets.2.2.2.1 _ rfl).1

end TypeDBDriver.Java
