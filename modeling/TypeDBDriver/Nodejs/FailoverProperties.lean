import TypeDBDriver.Nodejs.Failover

/-! Which errors the failover of the Node.js driver reacts to. A method that rejects the bare gRPC
error hides it from every `catch` on the way, and a method outside `mayRenewToken` never renews
its token. -/

namespace TypeDBDriver.Nodejs.Failover

open Library TypeDBDatabaseImpl
open Process (Uses bind_apply resumeWith tryCatch_apply uses_modify uses_pure uses_request
  uses_throw)

variable {Answer : Type} {driver : TypeDBDriverImpl} {op : Operation}

def rejection : Operation → ServiceError → Thrown
  | .sessionOpen, error => .driver (.ofServiceError error)
  | _, error => .service error

theorem rejection_service (different : op ≠ .sessionOpen) (error : ServiceError) :
    rejection op error = .service error := by
  cases op with
  | sessionOpen => exact absurd rfl different
  | delete | schema | typeSchema | ruleSchema => rfl

theorem call_apply (server : String) (reject : ServiceError → Thrown) (world : World) :
    (TypeDBStub.call driver server op reject : Async Answer Answer) world =
      .call (.op op server (TypeDBStub.metadata driver server world))
        fun reply => .pure (reply.mapError reject, world) := by
  unfold TypeDBStub.call
  rw [bind_apply]
  change Interaction.call _ _ = _
  congr 1
  funext reply
  cases reply <;> rfl

theorem mayRenewToken_service (server : String) (world : World) :
    (TypeDBStub.mayRenewToken driver server
      (TypeDBStub.call driver server op .service) : Async Answer Answer) world =
      TypeDBStub.call driver server op .service world := by
  unfold TypeDBStub.mayRenewToken
  rw [tryCatch_apply, call_apply]
  change Interaction.call _ _ = _
  congr 1
  funext reply
  cases reply with
  | ok answer => rfl
  | error error =>
    change resumeWith _ _ (Except.error (Thrown.service error), world) = _
    simp only [resumeWith, Thrown.hasTemplate]
    cases driver.credential <;> rfl

/-- The task of an operation makes one call and never renews the token. -/
theorem task_apply {server : String} (known : server ∈ driver.serverDrivers) (world : World) :
    (task driver op server : Async Answer Answer) world =
      .call (.op op server (TypeDBStub.metadata driver server world))
        fun reply => .pure (reply.mapError (rejection op), world) := by
  unfold task
  rw [if_pos known]
  cases op with
  | sessionOpen => exact call_apply server _ world
  | delete | schema | typeSchema | ruleSchema =>
    exact (mayRenewToken_service server world).trans (call_apply server _ world)

theorem task_unknown {server : String} (unknown : server ∉ driver.serverDrivers) (world : World) :
    (task driver op server : Async Answer Answer) world =
      .pure (.error .typeError, world) := by
  unfold task
  rw [if_neg unknown]
  rfl

namespace Position

def server (world : World) : Position → Option String
  | .any replica _ => some replica.server
  | .primary _ => (primaryReplica world.replicas).map (·.server)

variable (driver op) in
def failed (position : Position) (error : ServiceError) : Async Answer Answer :=
  if (rejection op error).hasTemplate .unableToConnect then
    position.tryNext driver op
  else if (rejection op error).hasTemplate .cloudReplicaNotPrimary then
    position.tryPrimary driver op
  else throw (rejection op error)

variable (driver op) in
def resume (position : Position) (world : World) : Except ServiceError Answer → Residual Answer
  | .ok answer => .pure (.ok answer, world)
  | .error error => position.failed driver op error world

theorem program_any {replica : Replica} (known : replica.server ∈ driver.serverDrivers)
    (rest : List Replica) (world : World) :
    (Position.any replica rest).program driver op world = (.call (.op op
      replica.server (TypeDBStub.metadata driver replica.server world))
        ((Position.any replica rest).resume driver op world) : Residual Answer) := by
  simp only [program, onReplicas, orOnPrimaryReplica, runOnAnyReplicaOf]
  rw [tryCatch_apply, tryCatch_apply, task_apply known]
  change Interaction.call _ _ = _
  congr 1
  funext reply
  cases reply with
  | ok answer => rfl
  | error error =>
    change Interaction.bind ((if (rejection op error).hasTemplate .unableToConnect then
      runOnAnyReplicaOf (task driver op) rest else throw (rejection op error) :
        Async Answer Answer) world) _ = _
    simp only [resume, failed, tryNext, tryPrimary, onReplicas, orOnPrimaryReplica]
    cases (rejection op error).hasTemplate .unableToConnect with
    | true => exact (tryCatch_apply _ _ world).symm
    | false => rfl

theorem program_primary {replica : Replica} {world : World}
    (found : primaryReplica world.replicas = some replica)
    (known : replica.server ∈ driver.serverDrivers) (retries : Nat) :
    (Position.primary retries).program driver op world = (.call (.op op
      replica.server (TypeDBStub.metadata driver replica.server world))
        ((Position.primary retries).resume driver op world) : Residual Answer) := by
  simp only [program, runOnPrimaryReplicaWithin]
  rw [tryCatch_apply, bind_apply]
  change Interaction.bind (runOn (task driver op) (primaryReplica world.replicas) world) _ =
    _
  simp only [found, runOn]
  rw [task_apply known]
  change Interaction.call _ _ = _
  congr 1
  funext reply
  cases reply with
  | ok answer => rfl
  | error error =>
    change (if (rejection op error).hasTemplate .unableToConnect ||
        (rejection op error).hasTemplate .cloudReplicaNotPrimary then
      onRefetchedPrimary driver op retries else throw (rejection op error) :
        Async Answer Answer) world = _
    simp only [resume, failed, tryNext, tryPrimary]
    cases (rejection op error).hasTemplate .unableToConnect <;> rfl

theorem program_known {position : Position} {world : World} {server : String}
    (located : position.server world = some server) (known : server ∈ driver.serverDrivers) :
    position.program driver op world = (.call (.op op server
      (TypeDBStub.metadata driver server world)) (position.resume driver op world) :
        Residual Answer) := by
  cases position with
  | any replica rest =>
    cases located
    exact program_any known rest world
  | primary retries =>
    obtain ⟨replica, found, rfl⟩ := Option.map_eq_some_iff.mp located
    exact program_primary found known retries

theorem program_lost {position : Position} {world : World}
    (lost : ∀ server, position.server world = some server → server ∉ driver.serverDrivers) :
    position.program driver op world =
      (.pure (.error .typeError, world) : Residual Answer) := by
  cases position with
  | any replica rest =>
    simp only [program, onReplicas, orOnPrimaryReplica, runOnAnyReplicaOf]
    rw [tryCatch_apply, tryCatch_apply, task_unknown (lost _ rfl)]
    rfl
  | primary retries =>
    simp only [program, runOnPrimaryReplicaWithin]
    rw [tryCatch_apply, bind_apply]
    change Interaction.bind (runOn (task driver op) (primaryReplica world.replicas)
      world) _ = _
    cases found : primaryReplica world.replicas with
    | none => rfl
    | some replica =>
      have unknown : replica.server ∉ driver.serverDrivers := by
        apply lost
        simp [server, found]
      simp only [runOn, task_unknown unknown]
      rfl

theorem program_cases (position : Position) (world : World) :
    (∃ server, position.program driver op world = (.call (.op op server
      (TypeDBStub.metadata driver server world)) (position.resume driver op world) :
        Residual Answer)) ∨
      position.program driver op world =
        (.pure (.error .typeError, world) : Residual Answer) := by
  by_cases known : ∃ server, position.server world = some server ∧ server ∈ driver.serverDrivers
  · obtain ⟨server, located, known⟩ := known
    exact .inl ⟨server, program_known located known⟩
  · exact .inr (program_lost fun server located member => known ⟨server, located, member⟩)

end Position

def isOther : Call → Prop
  | .op .. => False
  | _ => True

theorem uses_userToken (server username : String) :
    Uses isOther (TypeDBStub.userToken driver server username : Async Answer String) := by
  refine Process.uses_get.bind fun world => Process.Uses.bind ?_ fun reply => ?_
  · exact uses_request trivial
  · cases reply with
    | ok token => exact uses_pure token
    | error error => exact uses_throw _

theorem uses_mayRenewToken {α : Type} {fn : Async Answer α} (server : String)
    (uses : Uses isOther fn) : Uses isOther (TypeDBStub.mayRenewToken driver server fn) := by
  apply uses.tryCatch
  intro e
  cases driver.credential with
  | none => exact uses_throw e
  | some credential =>
    dsimp only
    split
    · apply (uses_modify _).bind
      intro _
      apply (uses_userToken server credential.username).bind
      intro token
      apply (uses_modify _).bind
      intro _
      apply uses.tryCatch
      intro e2
      cases e2 with
      | service error => exact uses_throw _
      | driver | typeError => exact uses_throw _
    · exact uses_throw e

theorem uses_databasesGet (server : String) :
    Uses isOther (TypeDBStub.databasesGet driver server : Async Answer _) := by
  apply uses_mayRenewToken
  apply Process.uses_get.bind
  intro world
  apply Process.Uses.bind
  · exact uses_request trivial
  · intro reply
    cases reply with
    | ok replicas => exact uses_pure replicas
    | error error => exact uses_throw _

theorem uses_fetchReplicasFrom (servers : List String) :
    Uses isOther (fetchReplicasFrom driver servers : Async Answer _) := by
  induction servers with
  | nil => exact uses_throw _
  | cons server rest ih =>
    apply (uses_databasesGet server).tryCatch
    intro err
    split
    · exact ih
    · exact uses_throw err

theorem uses_wait : Uses isOther (waitForPrimaryReplicaSelection : Async Answer Unit) :=
  uses_request trivial

theorem uses_seekPrimaryReplicaWithin (retries : Nat) :
    Uses isOther (seekPrimaryReplicaWithin driver retries : Async Answer _) := by
  induction retries with
  | zero => exact uses_throw _
  | succ retries ih =>
    apply (uses_fetchReplicasFrom driver.serverDrivers).bind
    intro replicas
    apply (uses_modify _).bind
    intro _
    cases primaryReplica replicas with
    | some replica => exact uses_pure replica
    | none => exact uses_wait.bind fun _ => ih

variable (driver op) in
def AtPosition (residual : Residual Answer) : Prop :=
  ∀ server metadata resume, residual = .call (.op op server metadata) resume →
    ∃ position world, residual = Position.program driver op position world

theorem atPosition_pure (outcome : Except Thrown Answer × World) :
    AtPosition driver op (.pure outcome) := by
  intro server metadata resume waiting
  cases waiting

theorem atPosition_other (call : Call) (resume : Reply Answer call → Residual Answer)
    (other : isOther call) : AtPosition driver op (.call call resume) := by
  intro server metadata _ waiting
  cases waiting
  cases other

variable (driver op) in
def Placed (process : Async Answer Answer) : Prop :=
  ∀ world, (process world).Throughout (AtPosition driver op)

theorem placed_throw (error : Thrown) : Placed driver op (throw error : Async Answer Answer) :=
  fun _ => atPosition_pure _

theorem placed_program {position : Position}
    (next : Placed driver op (position.tryNext driver op : Async Answer Answer)) (primary :
      Placed driver op (position.tryPrimary driver op : Async Answer Answer)) :
    Placed driver op (position.program driver op : Async Answer Answer) := by
  intro world
  rcases position.program_cases world with ⟨server, here⟩ | lost
  · rw [here]
    refine ⟨fun _ _ _ _ => ⟨position, world, here.symm⟩, ?_⟩
    intro reply
    cases reply with
    | ok answer => exact atPosition_pure _
    | error error =>
      simp only [Position.resume, Position.failed]
      split
      · exact next world
      · split
        · exact primary world
        · exact atPosition_pure _
  · rw [lost]
    exact atPosition_pure _

theorem placed_onRefetchedPrimary {retries : Nat} (within : Placed driver op
      (runOnPrimaryReplicaWithin driver (task driver op) retries : Async Answer Answer)) :
    Placed driver op
      (onRefetchedPrimary driver op retries : Async Answer Answer) := by
  intro world
  apply uses_wait.throughout_bind atPosition_other (fun _ _ => atPosition_pure _)
  intro _
  apply (uses_seekPrimaryReplicaWithin _).throughout_bind atPosition_other
    (fun _ _ => atPosition_pure _)
  intro _
  exact within

theorem placed_runOnPrimaryReplicaWithin (retries : Nat) :
    Placed driver op
      (runOnPrimaryReplicaWithin driver (task driver op) retries : Async Answer Answer) := by
  induction retries with
  | zero => exact placed_throw _
  | succ retries ih =>
    have refetched := placed_onRefetchedPrimary ih
    have placed : Placed driver op
        ((Position.primary retries).program driver op : Async Answer Answer) :=
      placed_program refetched refetched
    exact placed

theorem placed_runOnPrimaryReplica :
    Placed driver op
      (runOnPrimaryReplica driver (task driver op) : Async Answer Answer) := by
  intro world
  apply Process.uses_get.throughout_bind atPosition_other (fun _ _ => atPosition_pure _)
  intro seen
  split
  · apply (uses_seekPrimaryReplicaWithin _).throughout_bind atPosition_other
      (fun _ _ => atPosition_pure _)
    intro _
    exact placed_runOnPrimaryReplicaWithin _
  · exact placed_runOnPrimaryReplicaWithin _

theorem placed_onReplicas (replicas : List Replica) :
    Placed driver op (onReplicas driver op replicas : Async Answer Answer) := by
  induction replicas with
  | nil => exact fun _ => atPosition_pure _
  | cons replica rest ih =>
    have placed : Placed driver op
        ((Position.any replica rest).program driver op : Async Answer Answer) :=
      placed_program ih placed_runOnPrimaryReplica
    exact placed

theorem placed_runFailsafe :
    Placed driver op
      (runFailsafe driver (task driver op) : Async Answer Answer) :=
  fun world => placed_onReplicas world.replicas world

theorem placed_run : Placed driver op (run driver op : Async Answer Answer) := by
  cases op with
  | delete => exact placed_runOnPrimaryReplica
  | schema | typeSchema | ruleSchema | sessionOpen => exact placed_runFailsafe

theorem ofServiceError_notPrimary_iff {error : ServiceError}
    (told : isReplicaNotPrimaryError error = true) :
    (TypeDBDriverError.ofServiceError error).messageTemplate = some .cloudReplicaNotPrimary ↔
      error.code ∉ [Code.unimplemented, .unavailable, .unknown, .cancelled] ∧
        containsText error.message "Received RST_STREAM" = false := by
  unfold TypeDBDriverError.ofServiceError
  split_ifs with unimplemented hidden
  · simp [unimplemented]
  · refine iff_of_false (by simp) ?_
    rintro ⟨plain, kept⟩
    rcases hidden with listed | reset
    · exact plain (List.mem_cons_of_mem _ listed)
    · rw [kept] at reset
      cases reset
  · simp_all

theorem reaction_of_isSeen {position : Position} {world : World} {server : String}
    {error : ServiceError} (seen : isSeen op driver.credential error) :
    Reaction driver op position world server error
      (position.failed driver op error world : Residual Answer) := by
  obtain ⟨unavailable, notPrimary, tokenInvalid⟩ := seen
  refine ⟨?_, ?_, ?_⟩
  · intro code
    cases unavailable code
    simp [Position.failed, rejection, Thrown.hasTemplate, TypeDBDriverError.ofServiceError, code]
  · intro told
    obtain ⟨rfl, plain⟩ := notPrimary told
    simp [Position.failed, rejection, Thrown.hasTemplate,
      (ofServiceError_notPrimary_iff told).mpr plain]
  · intro credential present invalid
    rw [tokenInvalid invalid] at present
    cases present

def twoServers (credential : Option TypeDBCredential) : TypeDBDriverImpl :=
  ⟨["first", "second"], credential, "database"⟩

def twoReplicas (primary : Bool) : World where
  replicas := [⟨"first", 0, primary, false⟩, ⟨"second", 0, false, false⟩]

def firstPosition : Operation → Position
  | .delete => .primary 9
  | _ => .any ⟨"first", 0, false, false⟩ [⟨"second", 0, false, false⟩]

def firstWorld (op : Operation) : World :=
  twoReplicas (op == .delete)

variable {credential : Option TypeDBCredential} {error : ServiceError}

theorem Sees.first (sees : Sees op Answer credential error) :
    Reaction (twoServers credential) op (firstPosition op) (firstWorld op)
      "first" error ((firstPosition op).failed (twoServers credential) op error
        (firstWorld op) : Residual Answer) := by
  have located : (firstPosition op).server (firstWorld op) = some "first" := by
    cases op <;> rfl
  have here : (firstPosition op).program (twoServers credential) op
      (firstWorld op) = (_ : Residual Answer) :=
    Position.program_known located (List.mem_cons_self ..)
  have start : (run (twoServers credential) op (firstWorld op) : Residual Answer) =
      (firstPosition op).program (twoServers credential) op
        (firstWorld op) := by
    cases op <;> rfl
  have ran := congrArg some (start.trans here)
  exact (sees (twoServers credential) rfl (firstWorld op) [] _ _ _ ran).2 _ _ here.symm

theorem failed_service (different : op ≠ .sessionOpen) (position : Position) (world : World) :
    position.failed driver op error world =
      (.pure (.error (.service error), world) : Residual Answer) := by
  simp only [Position.failed, rejection_service different, Thrown.hasTemplate]
  rfl

theorem first_tryNext :
    ∃ call resume, (firstPosition op).tryNext (twoServers credential) op
      (firstWorld op) = (.call call resume : Residual Answer) ∧
        ∀ server metadata username, call ≠ .userToken server metadata username := by
  cases op with
  | delete => exact ⟨.wait, _, rfl, by simp⟩
  | schema | typeSchema | ruleSchema | sessionOpen =>
    exact ⟨.op _ "second" _, _, Position.program_any (List.mem_cons_of_mem _
      (List.mem_singleton_self _)) [] _, by simp⟩

theorem first_tryPrimary :
    ∃ call resume, (firstPosition op).tryPrimary (twoServers credential) op
      (firstWorld op) = (.call call resume : Residual Answer) ∧ isOther call ∧
        ∀ server metadata username, call ≠ .userToken server metadata username := by
  cases op with
  | delete => exact ⟨.wait, _, rfl, trivial, by simp⟩
  | schema | typeSchema | ruleSchema | sessionOpen =>
    exact ⟨.databasesGet "first" _ "database", _, rfl, trivial, by simp⟩

theorem Sees.unavailable (sees : Sees op Answer credential error)
    (code : error.code = .unavailable) : op = .sessionOpen := by
  by_contra different
  have same := sees.first.unavailable code
  rw [failed_service different] at same
  obtain ⟨call, resume, next, -⟩ := first_tryNext
  rw [next] at same
  cases same

theorem Sees.notPrimary (sees : Sees op Answer credential error)
    (told : isReplicaNotPrimaryError error = true) : op = .sessionOpen ∧
      error.code ∉ [Code.unimplemented, .unavailable, .unknown, .cancelled] ∧
      containsText error.message "Received RST_STREAM" = false := by
  have same := sees.first.notPrimary told
  obtain ⟨call, resume, primary, other, -⟩ := first_tryPrimary
  rw [primary] at same
  have session : op = .sessionOpen := by
    by_contra different
    rw [failed_service different] at same
    cases same
  subst session
  refine ⟨rfl, (ofServiceError_notPrimary_iff told).mp ?_⟩
  simp only [Position.failed] at same
  split at same
  case isTrue =>
    have next : (firstPosition .sessionOpen).tryNext (twoServers credential) .sessionOpen
        (firstWorld .sessionOpen) = (_ : Residual Answer) :=
      Position.program_any (List.mem_cons_of_mem _ (List.mem_singleton_self _)) [] _
    rw [next] at same
    cases same
    cases other
  case isFalse =>
    split at same
    case isTrue template => simpa [rejection, Thrown.hasTemplate] using template
    case isFalse => cases same

theorem Sees.tokenInvalid (sees : Sees op Answer credential error)
    (invalid : isTokenCredentialInvalidError error = true) : credential = none := by
  cases credential with
  | none => rfl
  | some credential =>
    obtain ⟨renewed, same, -⟩ := sees.first.tokenInvalid credential rfl invalid
    simp only [Position.failed] at same
    split at same
    case isTrue =>
      obtain ⟨call, resume, next, elsewhere⟩ := first_tryNext
      rw [next] at same
      cases same
      exact absurd rfl (elsewhere _ _ _)
    case isFalse =>
      split at same
      case isTrue =>
        obtain ⟨call, resume, primary, -, elsewhere⟩ := first_tryPrimary
        rw [primary] at same
        cases same
        exact absurd rfl (elsewhere _ _ _)
      case isFalse => cases same

/-- Exactly these failures are followed by what should follow them: those of opening a session,
unless a message about the primary replica comes with a code that hides it, and of no operation
those about an invalid token when the stub has a credential. -/
theorem failures_seen_iff (op : Operation) (credential : Option TypeDBCredential)
    (error : ServiceError) : Sees op Answer credential error ↔ isSeen op credential error := by
  constructor
  · intro sees
    exact ⟨sees.unavailable, sees.notPrimary, sees.tokenInvalid⟩
  · intro seen driver same start events server metadata resume ran
    subst same
    refine ⟨(placed_run start).of_run ran _ _ _ rfl, ?_⟩
    intro position world waiting
    rcases position.program_cases world with ⟨server, here⟩ | lost
    · cases waiting.trans here
      exact reaction_of_isSeen seen
    · cases waiting.trans lost

def unavailableError : ServiceError :=
  ⟨.unavailable, "No connection established", "14 UNAVAILABLE: No connection established"⟩

def tokenError : ServiceError :=
  ⟨.internal, "[CLS08] Invalid token credential.", "13 INTERNAL: [CLS08] Invalid token credential."⟩

/-- The schema is not asked of the second replica when the first one is unavailable, and a session
is not opened with a new token when the old one is invalid: both runs are over. -/
theorem failures_unseen :
    (Interaction.system Call (Reply String) _).run
        (run (twoServers none) .schema (twoReplicas false))
        [⟨.op .schema "first" none, .error unavailableError⟩] =
      some (.pure (.error (.service unavailableError), twoReplicas false)) ∧
    (Interaction.system Call (Reply String) _).run
        (run (twoServers (some ⟨"user", "password"⟩)) .sessionOpen (twoReplicas false))
        [⟨.op .sessionOpen "first" (some (.password "user" "password")), .error tokenError⟩] =
      some (.pure (.error (.driver (.ofServiceError tokenError)), twoReplicas false)) :=
  ⟨rfl, rfl⟩

end TypeDBDriver.Nodejs.Failover
