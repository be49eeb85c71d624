import TypeDBDriver.Common.Status
import TypeDBDriver.Database.Database

/-! How often failover runs a task, and on which replicas. The events below are what the
loops of `Database` do to the servers, in order; replaying them from the state in which a
call found the servers leads to the state in which it left them, so none is missing and
none is made up. -/

namespace TypeDBDriver

open Library
open Replica (fetchAll fetchFrom laterOrHigher skipsServer)

inductive FailoverEvent (σ ρ : Type) where
  | executed (cached : List (Replica σ)) (replica : Replica σ) (outcome : Result ρ)
  | fetched (replicas : Result (List (Replica σ)))

namespace FailoverEvent

variable {σ ρ : Type}

def outcome? : FailoverEvent σ ρ → Option (Result ρ)
  | .executed _ _ outcome => some outcome
  | .fetched _ => none

def isFetch : FailoverEvent σ ρ → Bool
  | .executed _ _ _ => false
  | .fetched _ => true

def cached (replicas : List (Replica σ)) : FailoverEvent σ ρ → List (Replica σ)
  | .fetched (.ok list) => list
  | _ => replicas

end FailoverEvent

namespace Database

variable {σ ρ : Type}

def seekPrimaryReplicaEvents : Nat → Database σ → σ → List (FailoverEvent σ ρ)
  | 0, _, _ => []
  | retries + 1, database, server =>
    match fetchAll database.name database.serverConnections server with
    | (.error err, _) => [.fetched (.error err)]
    | (.ok replicas, server) =>
      .fetched (.ok replicas) ::
        match { database with replicas }.primaryReplica with
        | some _ => []
        | none => seekPrimaryReplicaEvents retries { database with replicas } server

def runOnPrimaryReplicaWithinEvents (task : ServerDatabase σ → σ → Result ρ × σ) :
    Nat → Replica σ → Database σ → σ → List (FailoverEvent σ ρ)
  | 0, _, _, _ => []
  | retries + 1, primaryReplica, database, server =>
    match task primaryReplica.database server with
    | (.ok res, _) => [.executed database.replicas primaryReplica (.ok res)]
    | (.error err, server) =>
      .executed database.replicas primaryReplica (.error err) ::
        if isPrimaryReplicaError err then
          seekPrimaryReplicaEvents fetchReplicasMaxRetries database server ++
            match database.seekPrimaryReplica server with
            | (.ok replica, database, server) =>
              runOnPrimaryReplicaWithinEvents task retries replica database server
            | (.error _, _, _) => []
        else []

def runOnPrimaryReplicaEvents (task : ServerDatabase σ → σ → Result ρ × σ) (database : Database σ)
    (server : σ) : List (FailoverEvent σ ρ) :=
  match database.primaryReplica with
  | some replica =>
    runOnPrimaryReplicaWithinEvents task primaryReplicaTaskMaxRetries replica database server
  | none =>
    seekPrimaryReplicaEvents fetchReplicasMaxRetries database server ++
      match database.seekPrimaryReplica server with
      | (.ok replica, database, server) =>
        runOnPrimaryReplicaWithinEvents task primaryReplicaTaskMaxRetries replica database
          server
      | (.error _, _, _) => []

def runOnReplicasEvents (task : ServerDatabase σ → σ → Result ρ × σ) (cached : List (Replica σ)) :
    List (Replica σ) → σ → List (FailoverEvent σ ρ)
  | [], _ => []
  | replica :: rest, server =>
    match task replica.database server with
    | (.ok res, _) => [.executed cached replica (.ok res)]
    | (.error err, server) =>
      .executed cached replica (.error err) ::
        if skipsReplica err then runOnReplicasEvents task cached rest server else []

def runFailsafeEvents (task : ServerDatabase σ → σ → Result ρ × σ) (database : Database σ)
    (server : σ) : List (FailoverEvent σ ρ) :=
  runOnReplicasEvents task database.replicas database.replicas server ++
    match database.runOnAnyReplica task server with
    | (.error (.connection .cloudReplicaNotPrimary), server) =>
      runOnPrimaryReplicaEvents task database server
    | (_, _) => []

/-- Doing what the events say, one after the other, with the results they record. -/
inductive Replays (task : ServerDatabase σ → σ → Result ρ × σ) (database : Database σ) :
    List (FailoverEvent σ ρ) → σ → σ → Prop where
  | done (server : σ) : Replays task database [] server server
  | executed {cached : List (Replica σ)} {replica : Replica σ} {outcome : Result ρ}
      {rest : List (FailoverEvent σ ρ)} {before middle after : σ}
      (ran : task replica.database before = (outcome, middle))
      (others : Replays task database rest middle after) :
      Replays task database (.executed cached replica outcome :: rest) before after
  | fetched {replicas : Result (List (Replica σ))} {rest : List (FailoverEvent σ ρ)}
      {before middle after : σ}
      (asked : fetchAll database.name database.serverConnections before =
        (replicas, middle))
      (others : Replays task database rest middle after) :
      Replays task database (.fetched replicas :: rest) before after

def executions (events : List (FailoverEvent σ ρ)) : List (Result ρ) :=
  events.filterMap FailoverEvent.outcome?

def fetches (events : List (FailoverEvent σ ρ)) : Nat := events.countP FailoverEvent.isFetch

def cachedAfter (replicas : List (Replica σ)) (events : List (FailoverEvent σ ρ)) :
    List (Replica σ) :=
  events.foldl FailoverEvent.cached replicas

/-- The outcomes after which the task may be executed once more. -/
def isRetryable : Result ρ → Bool
  | .error (.connection .cloudReplicaNotPrimary) => true
  | .error (.connection .connectionFailed) => true
  | .error (.connection (.serverConnectionFailedStatusError _)) => true
  | _ => false

/-- A replica marked primary, with the highest term of those that are. -/
structure IsPrimaryOf (replica : Replica σ) (replicas : List (Replica σ)) : Prop where
  listed : replica ∈ replicas
  marked : replica.isPrimary = true
  highest : ∀ other ∈ replicas, other.isPrimary = true → other.term ≤ replica.term

/-- What the result of a call is: the last outcome of the task, or the reason why no further
replica could be tried. Only outcomes that are retried come before it. -/
inductive Concludes (serverConnections : HashMap Address (ServerConnection σ))
    (events : List (FailoverEvent σ ρ)) (result : Result ρ) : Prop where
  | settled (earlier : List (Result ρ)) (last : executions events = earlier ++ [result])
      (retried : ∀ outcome ∈ earlier, isRetryable outcome = true)
  | exhausted (retried : ∀ outcome ∈ executions events, isRetryable outcome = true)
      (unable : result = .error (unableToConnectError serverConnections))
  | unfetched (retried : ∀ outcome ∈ executions events, isRetryable outcome = true) (err : Error)
      (last : events.getLast? = some (.fetched (.error err))) (failed : result = .error err)

section Replays

variable {task : ServerDatabase σ → σ → Result ρ × σ} {database other : Database σ}
  {events later : List (FailoverEvent σ ρ)} {before middle after : σ}

theorem Replays.append (first : Replays task database events before middle)
    (second : Replays task database later middle after) :
    Replays task database (events ++ later) before after := by
  induction first with
  | done server => exact second
  | executed ran others ih => exact .executed ran (ih second)
  | fetched asked others ih => exact .fetched asked (ih second)

theorem Replays.congr (replays : Replays task database events before after)
    (name : database.name = other.name)
    (connections : database.serverConnections = other.serverConnections) :
    Replays task other events before after := by
  induction replays with
  | done server => exact .done server
  | executed ran others ih => exact .executed ran ih
  | fetched asked others ih =>
    rw [name, connections] at asked
    exact .fetched asked ih

end Replays

@[simp] theorem executions_append (events later : List (FailoverEvent σ ρ)) :
    executions (events ++ later) = executions events ++ executions later :=
  List.filterMap_append

@[simp] theorem fetches_append (events later : List (FailoverEvent σ ρ)) :
    fetches (events ++ later) = fetches events + fetches later :=
  List.countP_append

@[simp] theorem cachedAfter_append (replicas : List (Replica σ))
    (events later : List (FailoverEvent σ ρ)) :
    cachedAfter replicas (events ++ later) = cachedAfter (cachedAfter replicas events) later :=
  List.foldl_append

/-- Every execution is on a primary replica of the list that is cached by then. -/
def Disciplined : List (Replica σ) → List (FailoverEvent σ ρ) → Prop
  | _, [] => True
  | replicas, .executed cached replica _ :: rest =>
    cached = replicas ∧ IsPrimaryOf replica replicas ∧ Disciplined replicas rest
  | replicas, .fetched list :: rest =>
    Disciplined (FailoverEvent.cached replicas (.fetched list : FailoverEvent σ ρ)) rest

variable {replicas : List (Replica σ)} {events later : List (FailoverEvent σ ρ)}

theorem disciplined_append :
    Disciplined replicas (events ++ later) ↔
      Disciplined replicas events ∧ Disciplined (cachedAfter replicas events) later := by
  induction events generalizing replicas with
  | nil => simp [Disciplined, cachedAfter]
  | cons event rest ih =>
    cases event with
    | executed cached replica outcome =>
      simp only [List.cons_append, Disciplined, ih, and_assoc, cachedAfter, List.foldl_cons,
        FailoverEvent.cached]
    | fetched list =>
      simp only [List.cons_append, Disciplined, ih, cachedAfter, List.foldl_cons]

theorem foldl_laterOrHigher_term (best : Replica σ) (rest : List (Replica σ)) :
    ∀ replica ∈ best :: rest, replica.term ≤ (rest.foldl laterOrHigher best).term := by
  induction rest generalizing best with
  | nil =>
    intro replica member
    rw [List.mem_singleton.mp member]
    exact Int64.le_refl _
  | cons next rest ih =>
    have chosen : best.term ≤ (laterOrHigher best next).term ∧
        next.term ≤ (laterOrHigher best next).term := by
      unfold laterOrHigher
      split
      next higher => exact ⟨higher, Int64.le_refl _⟩
      next lower => exact ⟨Int64.le_refl _, Int64.le_of_lt (Int64.not_le.mp lower)⟩
    have bound := ih (laterOrHigher best next)
    have top := bound _ List.mem_cons_self
    intro replica member
    rcases List.mem_cons.mp member with rfl | member
    · exact Int64.le_trans chosen.1 top
    · rcases List.mem_cons.mp member with rfl | member
      · exact Int64.le_trans chosen.2 top
      · exact bound replica (List.mem_cons_of_mem _ member)

variable {replica : Replica σ} {database : Database σ}

theorem primaryReplica_isPrimaryOf (found : database.primaryReplica = some replica) :
    IsPrimaryOf replica database.replicas := by
  unfold primaryReplica at found
  cases primaries : database.replicas.filter (·.isPrimary) with
  | nil =>
    rw [primaries] at found
    cases found
  | cons best rest =>
    rw [primaries] at found
    cases found
    have chosen := Replica.foldl_laterOrHigher_mem best rest
    rw [← primaries] at chosen
    obtain ⟨listed, marked⟩ := List.mem_filter.mp chosen
    refine ⟨listed, marked, ?_⟩
    intro other member primary
    apply foldl_laterOrHigher_term best rest
    rw [← primaries]
    exact List.mem_filter.mpr ⟨member, primary⟩

variable {outcome : Result ρ} {cached : List (Replica σ)}

theorem Disciplined.executed {before after : List (FailoverEvent σ ρ)}
    (disciplined : Disciplined replicas (before ++ .executed cached replica outcome :: after)) :
    cached = cachedAfter replicas before ∧ IsPrimaryOf replica cached := by
  obtain ⟨_, same, primary, _⟩ := disciplined_append.mp disciplined
  rw [same]
  exact ⟨rfl, primary⟩

theorem retried_of_unexecuted (unexecuted : executions events = []) :
    ∀ outcome ∈ executions events, isRetryable outcome = true := by
  rw [unexecuted]
  intro outcome member
  cases member

variable {err : Error}

theorem isRetryable_error (err : Error) :
    isRetryable (.error err : Result ρ) = isPrimaryReplicaError err := by
  unfold isRetryable isPrimaryReplicaError
  split <;> simp_all

theorem retried_executed (retryable : isPrimaryReplicaError err = true) :
    ∀ outcome ∈ executions [(.executed cached replica (.error err) : FailoverEvent σ ρ)],
      isRetryable outcome = true := by
  intro outcome member
  rw [List.mem_singleton.mp member, isRetryable_error]
  exact retryable

variable {serverConnections : HashMap Address (ServerConnection σ)} {result : Result ρ}

variable {first : List (FailoverEvent σ ρ)}

theorem Concludes.prepend (concludes : Concludes serverConnections later result)
    (before : ∀ outcome ∈ executions first, isRetryable outcome = true) :
    Concludes serverConnections (first ++ later) result := by
  have retried : (∀ outcome ∈ executions later, isRetryable outcome = true) →
      ∀ outcome ∈ executions (first ++ later), isRetryable outcome = true := by
    intro after outcome member
    rw [executions_append] at member
    rcases List.mem_append.mp member with member | member
    · exact before outcome member
    · exact after outcome member
  cases concludes with
  | settled earlier last after =>
    refine .settled (executions first ++ earlier) ?_ ?_
    · rw [executions_append, last, List.append_assoc]
    · intro outcome member
      rcases List.mem_append.mp member with member | member
      · exact before outcome member
      · exact after outcome member
  | exhausted after unable => exact .exhausted (retried after) unable
  | unfetched after err last failed =>
    refine .unfetched (retried after) err ?_ failed
    rw [List.getLast?_append, last]
    rfl

structure Seeks (task : ServerDatabase σ → σ → Result ρ × σ) (database : Database σ) (server : σ)
    (retries : Nat) (events : List (FailoverEvent σ ρ))
    (answer : Result (Replica σ) × Database σ × σ) : Prop where
  replays : Replays task database events server answer.2.2
  cached : answer.2.1 = { database with replicas := cachedAfter database.replicas events }
  unexecuted : executions events = []
  bounded : fetches events ≤ retries
  primary : ∀ replica, answer.1 = .ok replica → IsPrimaryOf replica answer.2.1.replicas
  failed : ∀ err, answer.1 = .error err →
    err = unableToConnectError database.serverConnections ∨
      events.getLast? = some (.fetched (.error err))

theorem seekPrimaryReplicaWithin_seeks (task : ServerDatabase σ → σ → Result ρ × σ) (retries : Nat)
    (database : Database σ) (server : σ) :
    Seeks task database server retries (seekPrimaryReplicaEvents retries database server)
      (seekPrimaryReplicaWithin retries database server) := by
  induction retries generalizing database server with
  | zero =>
    refine ⟨.done server, rfl, rfl, Nat.le_refl _, ?_, ?_⟩
    · intro replica found
      cases found
    · intro err failed
      cases failed
      exact .inl rfl
  | succ retries ih =>
    obtain ⟨outcome, middle, asked⟩ : ∃ outcome middle,
        fetchAll database.name database.serverConnections server = (outcome, middle) :=
      ⟨_, _, rfl⟩
    cases outcome with
    | error err =>
      simp only [seekPrimaryReplicaWithin, seekPrimaryReplicaEvents, asked]
      refine ⟨.fetched asked (.done middle), rfl, rfl, ?_, ?_, ?_⟩
      · simp [fetches, FailoverEvent.isFetch]
      · intro replica found
        cases found
      · intro other failed
        cases failed
        exact .inr rfl
    | ok replicas =>
      simp only [seekPrimaryReplicaWithin, seekPrimaryReplicaEvents, asked]
      cases found : ({ database with replicas } : Database σ).primaryReplica with
      | some replica =>
        refine ⟨.fetched asked (.done middle), rfl, rfl, ?_, ?_, ?_⟩
        · simp [fetches, FailoverEvent.isFetch]
        · intro other chosen
          cases chosen
          exact primaryReplica_isPrimaryOf found
        · intro err failed
          cases failed
      | none =>
        have sought := ih { database with replicas } middle
        refine ⟨.fetched asked (sought.replays.congr rfl rfl), sought.cached,
          sought.unexecuted, ?_, sought.primary, ?_⟩
        · have bounded := sought.bounded
          simp only [fetches, List.countP_cons, FailoverEvent.isFetch, if_true] at bounded ⊢
          omega
        · intro err failed
          rcases sought.failed err failed with unable | last
          · exact .inl unable
          · refine .inr ?_
            rw [List.getLast?_cons, last]
            rfl

theorem disciplined_of_unexecuted (unexecuted : executions events = []) :
    Disciplined replicas events := by
  induction events generalizing replicas with
  | nil => trivial
  | cons event rest ih =>
    cases event with
    | executed cached replica outcome => simp [executions, FailoverEvent.outcome?] at unexecuted
    | fetched list => exact ih unexecuted

/-- What a loop that retries on the primary replica does, within bounds on how often it
executes the task and fetches the replicas. -/
structure Runs (task : ServerDatabase σ → σ → Result ρ × σ) (database : Database σ) (server : σ)
    (attempts lookups : Nat) (events : List (FailoverEvent σ ρ))
    (answer : Result ρ × Database σ × σ) : Prop where
  replays : Replays task database events server answer.2.2
  cached : answer.2.1 = { database with replicas := cachedAfter database.replicas events }
  disciplined : Disciplined database.replicas events
  concludes : Concludes database.serverConnections events answer.1
  executed : (executions events).length ≤ attempts
  fetched : fetches events ≤ lookups

variable {server : σ} {attempts lookups : Nat} {task : ServerDatabase σ → σ → Result ρ × σ}

variable {middle : σ} {answer : Result ρ × Database σ × σ}

theorem Runs.prepend
    (runs : Runs task { database with replicas := cachedAfter database.replicas first } middle
      attempts lookups later answer) (replays : Replays task database first server middle)
    (disciplined : Disciplined database.replicas first)
    (retried : ∀ outcome ∈ executions first, isRetryable outcome = true) :
    Runs task database server ((executions first).length + attempts) (fetches first + lookups)
      (first ++ later) answer where
  replays := replays.append (runs.replays.congr rfl rfl)
  cached := by rw [runs.cached, cachedAfter_append]
  disciplined := disciplined_append.mpr ⟨disciplined, runs.disciplined⟩
  concludes := runs.concludes.prepend retried
  executed := by
    have executed := runs.executed
    rw [executions_append, List.length_append]
    omega
  fetched := by
    have fetched := runs.fetched
    rw [fetches_append]
    omega

variable {after : σ}

theorem Seeks.runs {found : Database σ} {retries : Nat}
    (seeks : Seeks task database server retries events (.error err, found, after))
    (attempts : Nat) :
    Runs task database server attempts retries events (.error err, found, after) where
  replays := seeks.replays
  cached := seeks.cached
  disciplined := disciplined_of_unexecuted seeks.unexecuted
  concludes := by
    have retried := retried_of_unexecuted seeks.unexecuted
    rcases seeks.failed err rfl with unable | last
    · exact .exhausted retried (by rw [unable])
    · exact .unfetched retried err last rfl
  executed := by rw [seeks.unexecuted]; exact Nat.zero_le _
  fetched := seeks.bounded

theorem Runs.settled (ran : task replica.database server = (outcome, after))
    (primary : IsPrimaryOf replica database.replicas) :
    Runs task database server (attempts + 1) lookups [.executed database.replicas replica outcome]
      (outcome, database, after) where
  replays := .executed ran (.done after)
  cached := rfl
  disciplined := ⟨rfl, primary, trivial⟩
  concludes := .settled [] rfl (by intro earlier member; cases member)
  executed := Nat.le_add_left _ _
  fetched := Nat.zero_le _

theorem Runs.retry (runs : Runs task database middle attempts lookups later answer)
    (ran : task replica.database server = (.error err, middle))
    (primary : IsPrimaryOf replica database.replicas)
    (retryable : isPrimaryReplicaError err = true) :
    Runs task database server (attempts + 1) lookups
      (.executed database.replicas replica (.error err) :: later) answer := by
  have first : Replays task database [.executed database.replicas replica (.error err)] server
      middle := .executed ran (.done middle)
  have whole := runs.prepend first ⟨rfl, primary, trivial⟩ (retried_executed retryable)
  refine { whole with executed := ?_, fetched := ?_ }
  · rw [Nat.add_comm]
    exact whole.executed
  · rw [← Nat.zero_add lookups]
    exact whole.fetched

theorem runOnSought (task : ServerDatabase σ → σ → Result ρ × σ) (database : Database σ)
    (server : σ) {loop : Replica σ → Database σ → σ → Result ρ × Database σ × σ}
    {loopEvents : Replica σ → Database σ → σ → List (FailoverEvent σ ρ)}
    (loops : ∀ {replica : Replica σ} {database : Database σ} (server : σ),
      IsPrimaryOf replica database.replicas →
        Runs task database server attempts lookups (loopEvents replica database server)
          (loop replica database server)) :
    Runs task database server attempts (fetchReplicasMaxRetries + lookups)
      (seekPrimaryReplicaEvents fetchReplicasMaxRetries database server ++
        match database.seekPrimaryReplica server with
        | (.ok replica, database, server) => loopEvents replica database server
        | (.error _, _, _) => [])
      (match database.seekPrimaryReplica server with
        | (.ok replica, database, server) => loop replica database server
        | (.error err, database, server) => (.error err, database, server)) := by
  have seeks := seekPrimaryReplicaWithin_seeks task fetchReplicasMaxRetries database server
  obtain ⟨outcome, found, after, sought⟩ : ∃ outcome found after,
      database.seekPrimaryReplica server = (outcome, found, after) := ⟨_, _, _, rfl⟩
  rw [← seekPrimaryReplica, sought] at seeks
  rw [sought]
  cases outcome with
  | error err =>
    have runs := seeks.runs attempts
    dsimp only
    rw [List.append_nil]
    exact { runs with fetched := Nat.le_add_right_of_le runs.fetched }
  | ok replica =>
    have runs := loops after (seeks.primary replica rfl)
    obtain rfl : found = _ := seeks.cached
    have whole := runs.prepend seeks.replays (disciplined_of_unexecuted seeks.unexecuted)
      (retried_of_unexecuted seeks.unexecuted)
    refine { whole with executed := ?_, fetched := ?_ }
    · have executed := whole.executed
      rw [seeks.unexecuted] at executed
      rw [List.length_nil, Nat.zero_add] at executed
      exact executed
    · exact Nat.le_trans whole.fetched (Nat.add_le_add_right seeks.bounded _)

theorem runOnPrimaryReplicaWithin_runs (task : ServerDatabase σ → σ → Result ρ × σ) (retries : Nat)
    (server : σ) (primary : IsPrimaryOf replica database.replicas) :
    Runs task database server retries (retries * fetchReplicasMaxRetries)
      (runOnPrimaryReplicaWithinEvents task retries replica database server)
      (runOnPrimaryReplicaWithin task retries replica database server) := by
  induction retries generalizing replica database server with
  | zero =>
    exact ⟨.done server, rfl, trivial, .exhausted (retried_of_unexecuted rfl) rfl,
      Nat.le_refl _, Nat.zero_le _⟩
  | succ retries ih =>
    obtain ⟨outcome, middle, ran⟩ : ∃ outcome middle,
        task replica.database server = (outcome, middle) := ⟨_, _, rfl⟩
    cases outcome with
    | ok res =>
      simp only [runOnPrimaryReplicaWithin, runOnPrimaryReplicaWithinEvents, ran]
      exact .settled ran primary
    | error err =>
      simp only [runOnPrimaryReplicaWithin, runOnPrimaryReplicaWithinEvents, ran]
      cases retryable : isPrimaryReplicaError err with
      | false =>
        simp only [Bool.false_eq_true, if_false]
        exact .settled ran primary
      | true =>
        simp only [if_true]
        rw [Nat.succ_mul, Nat.add_comm (retries * _)]
        exact (runOnSought task database middle ih).retry ran primary retryable

theorem runOnPrimaryReplica_runs (task : ServerDatabase σ → σ → Result ρ × σ)
    (database : Database σ) (server : σ) :
    Runs task database server primaryReplicaTaskMaxRetries
      (fetchReplicasMaxRetries + primaryReplicaTaskMaxRetries * fetchReplicasMaxRetries)
      (runOnPrimaryReplicaEvents task database server)
      (database.runOnPrimaryReplica task server) := by
  unfold runOnPrimaryReplicaEvents runOnPrimaryReplica
  cases known : database.primaryReplica with
  | some replica =>
    have runs := runOnPrimaryReplicaWithin_runs task primaryReplicaTaskMaxRetries server
      (primaryReplica_isPrimaryOf known)
    exact { runs with fetched := Nat.le_trans runs.fetched (Nat.le_add_left _ _) }
  | none =>
    exact runOnSought task database server
      (runOnPrimaryReplicaWithin_runs task primaryReplicaTaskMaxRetries)

theorem isRetryable_of_skipsReplica (skipped : skipsReplica err = true) :
    isPrimaryReplicaError err = true := by
  unfold skipsReplica at skipped
  split at skipped
  · rfl
  · rfl
  · cases skipped

theorem runOnReplicas_concludes (task : ServerDatabase σ → σ → Result ρ × σ) (database : Database σ)
    (cached replicas : List (Replica σ)) (server : σ) :
    Replays task database (runOnReplicasEvents task cached replicas server) server
        (runOnReplicas task database.serverConnections replicas server).2 ∧
      Concludes database.serverConnections (runOnReplicasEvents task cached replicas server)
        (runOnReplicas task database.serverConnections replicas server).1 := by
  induction replicas generalizing server with
  | nil =>
    exact ⟨.done server, .exhausted (retried_of_unexecuted rfl) rfl⟩
  | cons replica rest ih =>
    obtain ⟨outcome, middle, ran⟩ : ∃ outcome middle,
        task replica.database server = (outcome, middle) := ⟨_, _, rfl⟩
    have settled : Concludes database.serverConnections
        [(.executed cached replica outcome : FailoverEvent σ ρ)] outcome :=
      .settled [] rfl (by intro earlier member; cases member)
    cases outcome with
    | ok res =>
      simp only [runOnReplicas, runOnReplicasEvents, ran]
      exact ⟨.executed ran (.done middle), settled⟩
    | error err =>
      simp only [runOnReplicas, runOnReplicasEvents, ran]
      cases skipped : skipsReplica err with
      | false => exact ⟨.executed ran (.done middle), settled⟩
      | true =>
        obtain ⟨replays, concludes⟩ := ih middle
        refine ⟨.executed ran replays, ?_⟩
        exact concludes.prepend (retried_executed (isRetryable_of_skipsReplica skipped))

theorem Concludes.retried (concludes : Concludes serverConnections events result)
    (retryable : isRetryable result = true) :
    ∀ outcome ∈ executions events, isRetryable outcome = true := by
  cases concludes with
  | settled earlier last retried =>
    intro outcome member
    rw [last] at member
    rcases List.mem_append.mp member with member | member
    · exact retried outcome member
    · rw [List.mem_singleton.mp member]
      exact retryable
  | exhausted retried unable => exact retried
  | unfetched retried err last failed => exact retried

theorem Concludes.ends {earlier later : List (Result ρ)}
    (concludes : Concludes serverConnections events result)
    (executed : executions events = earlier ++ outcome :: later)
    (final : isRetryable outcome = false) : later = [] ∧ result = outcome := by
  have listed : outcome ∈ executions events := by
    rw [executed]
    exact List.mem_append_right _ List.mem_cons_self
  have unretried : (∀ outcome ∈ executions events, isRetryable outcome = true) → False := by
    intro retried
    rw [retried outcome listed] at final
    cases final
  cases concludes with
  | exhausted retried unable => exact (unretried retried).elim
  | unfetched retried err last failed => exact (unretried retried).elim
  | settled before last retried =>
    rw [last] at executed
    rcases List.eq_nil_or_concat later with rfl | ⟨rest, tail, rfl⟩
    · obtain ⟨_, same⟩ := List.append_inj' executed rfl
      exact ⟨rfl, List.head_eq_of_cons_eq same⟩
    · -- an execution that is followed by others is among those that were retried
      rw [List.concat_eq_append, ← List.cons_append, ← List.append_assoc] at executed
      obtain ⟨same, _⟩ := List.append_inj' executed rfl
      have among : outcome ∈ before := by
        rw [same]
        exact List.mem_append_right _ List.mem_cons_self
      rw [retried outcome among] at final
      cases final

theorem runFailsafe_of_settled (answered : database.runOnAnyReplica task server = (outcome, after))
    (settled : outcome ≠ .error (.connection .cloudReplicaNotPrimary)) :
    database.runFailsafe task server = (outcome, database, after) := by
  unfold runFailsafe
  rw [answered]
  split
  next rejected =>
    cases rejected
    exact absurd rfl settled
  next same =>
    cases same
    rfl

theorem runFailsafeEvents_of_settled
    (answered : database.runOnAnyReplica task server = (outcome, after))
    (settled : outcome ≠ .error (.connection .cloudReplicaNotPrimary)) :
    runFailsafeEvents task database server =
      runOnReplicasEvents task database.replicas database.replicas server := by
  unfold runFailsafeEvents
  rw [answered]
  split
  next rejected =>
    cases rejected
    exact absurd rfl settled
  next => rw [List.append_nil]

theorem runFailsafe_concludes (task : ServerDatabase σ → σ → Result ρ × σ) (database : Database σ)
    (server : σ) :
    Replays task database (runFailsafeEvents task database server) server
        (database.runFailsafe task server).2.2 ∧
      Concludes database.serverConnections (runFailsafeEvents task database server)
        (database.runFailsafe task server).1 := by
  obtain ⟨replays, concludes⟩ :=
    runOnReplicas_concludes task database database.replicas database.replicas server
  rw [← runOnAnyReplica] at replays concludes
  rcases answered : database.runOnAnyReplica task server with ⟨outcome, after⟩
  rw [answered] at replays concludes
  by_cases rejected : outcome = .error (.connection .cloudReplicaNotPrimary)
  · subst rejected
    unfold runFailsafeEvents runFailsafe
    simp only [answered]
    have runs := runOnPrimaryReplica_runs task database after
    exact ⟨replays.append runs.replays, runs.concludes.prepend (concludes.retried rfl)⟩
  · rw [runFailsafe_of_settled answered rejected, runFailsafeEvents_of_settled answered rejected]
    exact ⟨replays, concludes⟩

/-- The task is executed again only after an error that says the replica could not be reached
or is not the primary one; any other outcome is the last one, and is returned. -/
theorem runFailsafe_executions (task : ServerDatabase σ → σ → Result ρ × σ) (database : Database σ)
    (server : σ) :
    Replays task database (runFailsafeEvents task database server) server
        (database.runFailsafe task server).2.2 ∧
      Concludes database.serverConnections (runFailsafeEvents task database server)
        (database.runFailsafe task server).1 ∧
      ∀ earlier outcome later,
        executions (runFailsafeEvents task database server) = earlier ++ outcome :: later →
          isRetryable outcome = false →
            later = [] ∧ (database.runFailsafe task server).1 = outcome := by
  obtain ⟨replays, concludes⟩ := runFailsafe_concludes task database server
  refine ⟨replays, concludes, ?_⟩
  intro earlier outcome later executed final
  exact concludes.ends executed final

/-- The task runs on what is the primary at that time, ten times at most. -/
theorem runOnPrimaryReplica_discipline (task : ServerDatabase σ → σ → Result ρ × σ)
    (database : Database σ) (server : σ) :
    Replays task database (runOnPrimaryReplicaEvents task database server) server
        (database.runOnPrimaryReplica task server).2.2 ∧
      (database.runOnPrimaryReplica task server).2.1.replicas =
        cachedAfter database.replicas (runOnPrimaryReplicaEvents task database server) ∧
      (∀ before cached replica outcome after,
        runOnPrimaryReplicaEvents task database server =
            before ++ .executed cached replica outcome :: after →
          cached = cachedAfter database.replicas before ∧ IsPrimaryOf replica cached) ∧
      (executions (runOnPrimaryReplicaEvents task database server)).length ≤ 10 ∧
      fetches (runOnPrimaryReplicaEvents task database server) ≤ 110 := by
  have runs := runOnPrimaryReplica_runs task database server
  refine ⟨runs.replays, ?_, ?_, runs.executed, runs.fetched⟩
  · rw [runs.cached]
  · intro before cached replica outcome after split
    have disciplined := runs.disciplined
    rw [split] at disciplined
    exact disciplined.executed

theorem skipsReplica_eq_isUnreachable (err : Error) : skipsReplica err = err.isUnreachable := rfl

theorem runOnReplicas_of_not_skipped {rest : List (Replica σ)}
    (failed : task replica.database server = (.error err, after))
    (kept : skipsReplica err = false) :
    runOnReplicas task serverConnections (replica :: rest) server = (.error err, after) := by
  simp only [runOnReplicas, failed, kept, Bool.false_eq_true, if_false]

theorem fetchFrom_of_not_skipped {name : String} {address : Address}
    {connection : ServerConnection σ} {rest : List (Σ _ : Address, ServerConnection σ)}
    (failed : connection.getDatabaseReplicas name server = (.error err, after))
    (kept : skipsServer err = false) :
    fetchFrom name serverConnections (⟨address, connection⟩ :: rest) server =
      (.error err, after) := by
  simp only [fetchFrom, failed, kept, Bool.false_eq_true, if_false]

theorem skipsServer_fromMessage {message : String}
    (code : (splitAsciiWhitespace message).head? ≠ some "[DBS06]") :
    skipsServer (Error.fromMessage message) = false := by
  have reached := Error.fromMessage_not_unreachable message
  cases skipped : skipsServer (Error.fromMessage message) with
  | false => rfl
  | true =>
    unfold skipsServer at skipped
    split at skipped
    next name found =>
      exact absurd ((Error.fromMessage_databaseNotFound_iff message).mp ⟨name, found⟩) code
    next text found =>
      rw [found] at reached
      cases reached
    next found =>
      rw [found] at reached
      cases reached
    next => cases skipped

/-- A status without details is taken for a message of the server, and no such message is one
of the errors after which the next replica is tried. -/
theorem unreachable_status_ends_failover (tonicTypes : TonicTypes)
    (reads : tonicTypes.ReadsNoDetails) (status : Status) (unreachable : status.SaysUnreachable) :
    (Error.fromStatus tonicTypes status).isUnreachable = false ∧
      (∀ (task : ServerDatabase σ → σ → Result ρ × σ)
        (serverConnections : HashMap Address (ServerConnection σ)) (replica : Replica σ)
        (rest : List (Replica σ)) (server after : σ),
        task replica.database server = (.error (Error.fromStatus tonicTypes status), after) →
          runOnReplicas task serverConnections (replica :: rest) server =
            (.error (Error.fromStatus tonicTypes status), after)) ∧
      (∀ (name : String) (serverConnections : HashMap Address (ServerConnection σ))
        (address : Address) (connection : ServerConnection σ)
        (rest : List (Σ _ : Address, ServerConnection σ)) (server after : σ),
        connection.getDatabaseReplicas name server =
            (.error (Error.fromStatus tonicTypes status), after) →
          (splitAsciiWhitespace status.message).head? ≠ some "[DBS06]" →
            fetchFrom name serverConnections (⟨address, connection⟩ :: rest) server =
              (.error (Error.fromStatus tonicTypes status), after)) := by
  rw [Error.fromStatus_of_no_details reads unreachable.details]
  have reached := Error.fromMessage_not_unreachable status.message
  refine ⟨reached, ?_, ?_⟩
  · intro task serverConnections replica rest server after failed
    apply runOnReplicas_of_not_skipped failed
    rw [skipsReplica_eq_isUnreachable]
    exact reached
  · intro name serverConnections address connection rest server after failed code
    exact fetchFrom_of_not_skipped failed (skipsServer_fromMessage code)

def emptyDetails : TonicTypes := ⟨fun _ => .ok {}, fun _ => ""⟩

theorem unreachable_status_ends_failover_refused :
    (Error.fromStatus emptyDetails
      ⟨.unavailable, "tcp connect error: Connection refused", []⟩).isUnreachable = false :=
  (@unreachable_status_ends_failover Unit Unit emptyDetails (fun _ _ => rfl)
    ⟨.unavailable, "tcp connect error: Connection refused", []⟩
    ⟨rfl, rfl, by decide, by decide, by decide⟩).1

/-- The first of two replicas refuses the connection; the second, which would have answered, is
not tried. -/
theorem connection_refused_ends_failover :
    let refused := Error.fromStatus emptyDetails
      ⟨.unavailable, "tcp connect error: Connection refused", []⟩
    let refusing : ServerConnection Unit := ⟨fun _ server => (.error refused, server), fun _ => ""⟩
    let answering : ServerConnection Unit :=
      ⟨fun _ server => (.ok (.databaseSchema "define"), server), fun _ => ""⟩
    let first := Replica.new "social" ⟨⟨⟨"first", none⟩⟩, true, true, 0⟩ refusing
    let second := Replica.new "social" ⟨⟨⟨"second", none⟩⟩, false, false, 0⟩ answering
    refused = .other "tcp connect error: Connection refused" ∧
      (second.database.schema ()).1 = .ok "define" ∧
      runOnReplicas ServerDatabase.schema ∅ [first, second] () = (.error refused, ()) := by
  refine ⟨by decide, rfl, rfl⟩

end Database

end TypeDBDriver
