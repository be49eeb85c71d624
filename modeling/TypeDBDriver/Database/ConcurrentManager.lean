import TypeDBDriver.Database.DatabaseManagerProperties
import TypeDBDriver.Library.Transition

/-! The database manager under concurrent calls. A step of a thread is one request to one
server or one access to the cache under its lock; between two steps anything may happen. A
thread that is left alone does what the call does in `DatabaseManager`. -/

namespace TypeDBDriver

open Library DatabaseManager

abbrev ConnectionList (σ : Type) := List (Σ _ : Address, ServerConnection σ)

inductive ManagerCall where
  | get (name : String)
  | getCachedOrFetch (name : String)
  | all
  | create (name : String)
  deriving DecidableEq, Repr

/-- What a thread does next, with what it has kept so far. -/
inductive ThreadPhase (σ : Type) where
  -- `get_cached_or_fetch`
  | peeking (name : String)
  -- `get`
  | containing (name : String) (rest : ConnectionList σ) (errorBuffer : List String)
  | removing (name : String)
  | lookingUp (name : String)
  | fetching (name : String) (rest : ConnectionList σ)
  | inserting (name : String) (database : Database σ)
  /-- The second `try_get_cached`, whose result is unwrapped. -/
  | rereading (name : String)
  | got (name : String) (outcome : Outcome Error Arc)
  -- `all`
  | listing (rest : ConnectionList σ) (errorBuffer : List String)
  | replacing (databases : List Arc)
  | listed (result : Result (List Arc))
  -- `create`
  | creating (name : String) (rest : ConnectionList σ) (errorBuffer : List String)
  | caching (database : Database σ)
  | created (result : Result Unit)

namespace ThreadPhase

variable {σ ρ : Type}

inductive Attempt (σ ρ : Type) where
  | settled (result : Result ρ)
  | failed (rest : ConnectionList σ) (errorBuffer : List String)

def attempt (display : Error → String) (task : ServerConnection σ → σ → Result ρ × σ) :
    ConnectionList σ → List String → σ → Attempt σ ρ × σ
  | [], errorBuffer, server => (.settled (.error (failedWithErrors errorBuffer)), server)
  | ⟨serverId, serverConnection⟩ :: rest, errorBuffer, server =>
    match task serverConnection server with
    | (.ok res, server) => (.settled (.ok res), server)
    | (.error (.connection .serverConnectionIsClosed), server) =>
      (.settled (.error (.connection .serverConnectionIsClosed)), server)
    | (.error err, server) =>
      (.failed rest (errorBuffer ++ [failureLine display serverId err]), server)

def start (manager : DatabaseManager σ) : ManagerCall → ThreadPhase σ
  | .get name => .containing name manager.serverConnections.entries []
  | .getCachedOrFetch name => .peeking name
  | .all => .listing manager.serverConnections.entries []
  | .create name => .creating name manager.serverConnections.entries []

def advance (display : Error → String) (manager : DatabaseManager σ) :
    ThreadPhase σ → Option (ThreadPhase σ × DatabaseManager σ)
  | .peeking name =>
    match manager.tryGetCached name with
    | (some cachedDatabase, manager) => some (.got name (.ok cachedDatabase), manager)
    | (none, manager) => some (.containing name manager.serverConnections.entries [], manager)
  | .containing name rest errorBuffer =>
    match attempt display (·.containsDatabase name) rest errorBuffer manager.server with
    | (.settled (.ok true), server) => some (.lookingUp name, { manager with server })
    | (.settled (.ok false), server) => some (.removing name, { manager with server })
    | (.settled (.error err), server) => some (.got name (.error err), { manager with server })
    | (.failed rest errorBuffer, server) =>
      some (.containing name rest errorBuffer, { manager with server })
  | .removing name =>
    some (.got name (.error (.connection (.databaseNotFound name))), manager.cacheRemove name)
  | .lookingUp name =>
    match manager.tryGetCached name with
    | (some cachedDatabase, manager) => some (.got name (.ok cachedDatabase), manager)
    | (none, manager) => some (.fetching name manager.serverConnections.entries, manager)
  | .fetching name [] =>
    some (.got name (.error (Database.unableToConnectError manager.serverConnections)), manager)
  | .fetching name (⟨_, serverConnection⟩ :: rest) =>
    match serverConnection.getDatabaseReplicas name manager.server with
    | (.ok info, server) =>
      match Replica.tryFromInfo info manager.serverConnections with
      | .ok replicas =>
        some (.inserting name ⟨name, replicas, manager.serverConnections⟩,
          { manager with server })
      | .error err => some (.got name (.error err), { manager with server })
    | (.error err, server) =>
      if Replica.skipsServer err then some (.fetching name rest, { manager with server })
      else some (.got name (.error err), { manager with server })
  | .inserting name database => some (.rereading name, manager.cacheInsert database)
  | .rereading name =>
    let (cached, manager) := manager.tryGetCached name
    some (.got name (Outcome.unwrap cached), manager)
  | .listing [] errorBuffer =>
    some (.listed (.error (failedWithErrors errorBuffer)), manager)
  | .listing (⟨serverId, serverConnection⟩ :: rest) errorBuffer =>
    match serverConnection.allDatabases manager.server with
    | (.ok list, server) =>
      match newDatabases manager.serverConnections list [] manager.heap with
      | (.ok databases, heap) => some (.replacing databases, { manager with heap, server })
      | (.error err, heap) => some (.listed (.error err), { manager with heap, server })
    | (.error err, server) =>
      some (.listing rest (errorBuffer ++ [failureLine display serverId err]),
        { manager with server })
  | .replacing databases =>
    some (.listed (.ok databases), databases.foldl cacheShare manager.cacheClear)
  | .creating name rest errorBuffer =>
    match attempt display (·.createDatabase name) rest errorBuffer manager.server with
    | (.settled (.ok databaseInfo), server) =>
      match Database.new databaseInfo manager.serverConnections with
      | .ok database => some (.caching database, { manager with server })
      | .error err => some (.created (.error err), { manager with server })
    | (.settled (.error err), server) => some (.created (.error err), { manager with server })
    | (.failed rest errorBuffer, server) =>
      some (.creating name rest errorBuffer, { manager with server })
  | .caching database => some (.created (.ok ()), manager.cacheInsert database)
  | .got _ _ | .listed _ | .created _ => none

end ThreadPhase

structure ConcurrentState (σ : Type) where
  manager : DatabaseManager σ
  threads : List (ThreadPhase σ) := []

namespace ConcurrentManager

variable {σ : Type}

/-- `interfere` is what other clients do to the servers. -/
inductive Label (σ : Type) where
  | call (call : ManagerCall)
  | advance (thread : Nat)
  | interfere (server : σ)

def step (display : Error → String) (state : ConcurrentState σ) :
    Label σ → Option (ConcurrentState σ)
  | .call call => some { state with threads := state.threads ++ [.start state.manager call] }
  | .advance thread =>
    match state.threads[thread]? with
    | none => none
    | some phase =>
      (phase.advance display state.manager).map fun (phase, manager) =>
        { manager, threads := state.threads.set thread phase }
  | .interfere server => some { state with manager := { state.manager with server } }

def system (display : Error → String) : TransitionSystem (ConcurrentState σ) (Label σ) where
  step := step display

end ConcurrentManager

namespace ThreadPhase

variable {σ : Type} {display : Error → String} {manager : DatabaseManager σ} {name : String}

def Advances (display : Error → String) (before after : ThreadPhase σ × DatabaseManager σ) : Prop :=
  before.1.advance display before.2 = some after

abbrev Alone (display : Error → String) :
    ThreadPhase σ × DatabaseManager σ → ThreadPhase σ × DatabaseManager σ → Prop :=
  Relation.ReflTransGen (Advances display)

def Attempt.continued {ρ : Type} (asking : ConnectionList σ → List String → ThreadPhase σ)
    (settle : Result ρ → ThreadPhase σ) : Attempt σ ρ → ThreadPhase σ
  | .settled result => settle result
  | .failed rest errorBuffer => asking rest errorBuffer

theorem asking_alone {ρ : Type} {task : ServerConnection σ → σ → Result ρ × σ}
    {asking : ConnectionList σ → List String → ThreadPhase σ} {settle : Result ρ → ThreadPhase σ}
    (asks : ∀ rest errorBuffer server,
      let round := attempt display task rest errorBuffer server
      Advances display (asking rest errorBuffer, { manager with server })
        (round.1.continued asking settle, { manager with server := round.2 }))
    (rest : ConnectionList σ) (errorBuffer : List String) (server : σ) :
    let answer := runFailsafeOn display task rest errorBuffer server
    Alone display (asking rest errorBuffer, { manager with server })
      (settle answer.1, { manager with server := answer.2 }) := by
  induction rest generalizing errorBuffer server with
  | nil => exact .single (asks [] errorBuffer server)
  | cons connection rest ih =>
    have round := asks (connection :: rest) errorBuffer server
    dsimp only at ih round ⊢
    unfold runFailsafeOn
    unfold attempt at round
    split
    next res after answered =>
      simp only [answered] at round
      exact .single round
    next after answered =>
      simp only [answered] at round
      exact .single round
    next err after closed answered =>
      simp only [answered] at round
      exact .head round (ih _ after)

def contained (name : String) : Result Bool → ThreadPhase σ
  | .ok true => .lookingUp name
  | .ok false => .removing name
  | .error err => .got name (.error err)

theorem containing_alone (name : String) (rest : ConnectionList σ) (errorBuffer : List String)
    (server : σ) :
    let answer := runFailsafeOn display (·.containsDatabase name) rest errorBuffer server
    Alone display (.containing name rest errorBuffer, { manager with server })
      (contained name answer.1, { manager with server := answer.2 }) := by
  refine asking_alone ?_ rest errorBuffer server
  intro rest errorBuffer server
  simp only [Advances, advance]
  rcases attempt display (·.containsDatabase name) rest errorBuffer server with
    ⟨(_ | contained) | ⟨rest, errorBuffer⟩, after⟩
  · rfl
  · cases contained <;> rfl
  · rfl

def fetched (name : String) (serverConnections : HashMap Address (ServerConnection σ)) :
    Result (List (Replica σ)) → ThreadPhase σ
  | .ok replicas => .inserting name ⟨name, replicas, serverConnections⟩
  | .error err => .got name (.error err)

theorem fetching_alone (name : String) (rest : ConnectionList σ) (server : σ) :
    let answer := Replica.fetchFrom name manager.serverConnections rest server
    Alone display (.fetching name rest, { manager with server })
      (fetched name manager.serverConnections answer.1, { manager with server := answer.2 }) := by
  induction rest generalizing server with
  | nil => exact .single rfl
  | cons connection rest ih =>
    dsimp only at ih ⊢
    unfold Replica.fetchFrom
    split
    next info after answered =>
      refine .single ?_
      simp only [Advances, advance, answered]
      cases Replica.tryFromInfo info manager.serverConnections <;> rfl
    next err after answered =>
      split
      next skipped =>
        refine .head ?_ (ih after)
        simp only [Advances, advance, answered, skipped, if_true]
      next kept =>
        refine .single ?_
        simp only [Advances, advance, answered, kept, Bool.false_eq_true, if_false]
        rfl

theorem lookingUp_alone {cached : Option Arc} {after : DatabaseManager σ}
    (read : manager.tryGetCached name = (cached, after)) :
    Advances display (.lookingUp name, manager)
      (cached.elim (.fetching name after.serverConnections.entries) (.got name <| .ok ·),
        after) := by
  cases cached <;> simp only [Advances, advance, read] <;> rfl

theorem get_alone (display : Error → String) (name : String) (manager : DatabaseManager σ) :
    Alone display (start manager (.get name), manager)
      (.got name (manager.get display name).1, (manager.get display name).2) := by
  have asked : Alone display (start manager (.get name), manager)
      (contained name (manager.contains display name).1, (manager.contains display name).2) :=
    containing_alone name manager.serverConnections.entries [] manager.server
  refine asked.trans ?_
  unfold DatabaseManager.get
  split
  next err after failed =>
    rw [failed]
    exact .refl
  next after absent =>
    rw [absent]
    exact .single rfl
  next after present =>
    rw [present]
    split
    next cachedDatabase middle read => exact .single (lookingUp_alone read)
    next middle read =>
      refine .head (lookingUp_alone read) ?_
      have fetches : Alone display (.fetching name middle.serverConnections.entries, middle) _ :=
        fetching_alone name middle.serverConnections.entries middle.server
      refine fetches.trans ?_
      unfold Database.get Replica.fetchAll
      split
      next err server failed =>
        split at failed
        · cases failed
        next answered =>
          cases failed
          rw [answered]
          exact .refl
      next database server succeeded =>
        split at succeeded
        next answered =>
          cases succeeded
          rw [answered]
          exact .head rfl (.single rfl)
        · cases succeeded

theorem getCachedOrFetch_alone (display : Error → String) (name : String)
    (manager : DatabaseManager σ) :
    Alone display (start manager (.getCachedOrFetch name), manager)
      (.got name (manager.getCachedOrFetch display name).1,
        (manager.getCachedOrFetch display name).2) := by
  unfold DatabaseManager.getCachedOrFetch
  split
  next cachedDatabase after read =>
    refine .single ?_
    simp only [Advances, start, advance, read]
  next after read =>
    refine .head ?_ (get_alone display name after)
    simp only [Advances, start, advance, read]

theorem listing_alone (rest : ConnectionList σ) (errorBuffer : List String) (server : σ) :
    let answer := allFrom display rest errorBuffer { manager with server }
    Alone display (.listing rest errorBuffer, { manager with server })
      (.listed answer.1, answer.2) := by
  induction rest generalizing errorBuffer server with
  | nil => exact .single rfl
  | cons connection rest ih =>
    dsimp only at ih ⊢
    unfold allFrom
    split
    next list after answered =>
      unfold replaceAll
      split
      next err heap failed =>
        refine .single ?_
        simp only [Advances, advance, answered]
        dsimp only at failed
        rw [failed]
      next databases heap made =>
        have allocated : Advances display
            (.listing (connection :: rest) errorBuffer, { manager with server })
            (.replacing databases, { manager with heap, server := after }) := by
          simp only [Advances, advance, answered]
          dsimp only at made
          rw [made]
        exact .head allocated (.single rfl)
    next err after answered =>
      refine .head ?_ (ih _ after)
      simp only [Advances, advance, answered]

theorem all_alone (display : Error → String) (manager : DatabaseManager σ) :
    Alone display (start manager .all, manager)
      (.listed (manager.all display).1, (manager.all display).2) :=
  listing_alone manager.serverConnections.entries [] manager.server

def answered (serverConnections : HashMap Address (ServerConnection σ)) :
    Result DatabaseInfo → ThreadPhase σ
  | .ok databaseInfo =>
    match Database.new databaseInfo serverConnections with
    | .ok database => .caching database
    | .error err => .created (.error err)
  | .error err => .created (.error err)

theorem creating_alone (name : String) (rest : ConnectionList σ) (errorBuffer : List String)
    (server : σ) :
    let answer := runFailsafeOn display (·.createDatabase name) rest errorBuffer server
    Alone display (.creating name rest errorBuffer, { manager with server })
      (answered manager.serverConnections answer.1, { manager with server := answer.2 }) := by
  refine asking_alone ?_ rest errorBuffer server
  intro rest errorBuffer server
  simp only [Advances, advance]
  rcases attempt display (·.createDatabase name) rest errorBuffer server with
    ⟨(_ | databaseInfo) | ⟨rest, errorBuffer⟩, after⟩
  · rfl
  · dsimp only [Attempt.continued, answered]
    cases Database.new databaseInfo manager.serverConnections <;> rfl
  · rfl

theorem create_alone (display : Error → String) (name : String) (manager : DatabaseManager σ) :
    Alone display (start manager (.create name), manager)
      (.created (manager.create display name).1, (manager.create display name).2) := by
  have asked : Alone display (start manager (.create name), manager) _ :=
    creating_alone name manager.serverConnections.entries [] manager.server
  refine asked.trans ?_
  unfold DatabaseManager.create DatabaseManager.runFailsafe cacheInfo
  dsimp only
  generalize runFailsafeOn display (·.createDatabase name) manager.serverConnections.entries []
    manager.server = answer
  obtain ⟨result, server⟩ := answer
  cases result with
  | error err => exact .refl
  | ok databaseInfo =>
    dsimp only [answered]
    cases Database.new databaseInfo manager.serverConnections with
    | error err => exact .refl
    | ok database => exact .single rfl

/-- What the call does in `DatabaseManager`. -/
def sequential (display : Error → String) (manager : DatabaseManager σ) :
    ManagerCall → ThreadPhase σ × DatabaseManager σ
  | .get name => (manager.get display name).map (.got name) id
  | .getCachedOrFetch name => (manager.getCachedOrFetch display name).map (.got name) id
  | .all => (manager.all display).map .listed id
  | .create name => (manager.create display name).map .created id

theorem call_alone (display : Error → String) (manager : DatabaseManager σ) (call : ManagerCall) :
    Alone display (start manager call, manager) (sequential display manager call) := by
  cases call with
  | get name => exact get_alone display name manager
  | getCachedOrFetch name => exact getCachedOrFetch_alone display name manager
  | all => exact all_alone display manager
  | create name => exact create_alone display name manager

end ThreadPhase

namespace ConcurrentManager

variable {σ : Type} {display : Error → String}

theorem run_of_alone {before after : ThreadPhase σ × DatabaseManager σ}
    (alone : ThreadPhase.Alone display before after) (threads : List (ThreadPhase σ)) :
    ∃ labels, (system display).run ⟨before.2, threads ++ [before.1]⟩ labels =
      some ⟨after.2, threads ++ [after.1]⟩ := by
  induction alone using Relation.ReflTransGen.head_induction_on with
  | refl => exact ⟨[], rfl⟩
  | head advances _ ih =>
    obtain ⟨labels, ran⟩ := ih
    refine ⟨.advance threads.length :: labels, TransitionSystem.run_cons.mpr ⟨_, ?_, ran⟩⟩
    rw [ThreadPhase.Advances] at advances
    simp [system, step, advances]

end ConcurrentManager

end TypeDBDriver
