import Mathlib.Data.Finset.Basic
import TypeDBDriver.Database.DatabaseManagerProperties
import TypeDBDriver.Library.Transition

/-! One client, one call at a time, against one reachable server whose databases nobody
else changes. `Catalog` says what the calls made so far amount to: the databases that
exist, and those the client has deleted and not asked about since. The manager refines
it: what it has cached is exactly what the catalog lists. -/

namespace TypeDBDriver

open Library DatabaseManager

/-- A server that always answers. It may refuse to create a database that exists or whose
name it does not accept, and has nothing to say about a database that does not exist. -/
structure SingleServer where
  address : Address
  replicas : String → List ReplicaInfo
  primary : ∀ name, ∃ replica ∈ replicas name, replica.isPrimary = true
  accepts : String → Bool
  refusal : Request → Error
  schema : String → String
  typeSchema : String → String
  debug : Response → String

namespace SingleServer

variable (server : SingleServer)

def info (name : String) : DatabaseInfo := ⟨name, server.replicas name⟩

/-- The state of the server is the list of the databases that exist. -/
def respond (request : Request) (databases : List String) : Result Response × List String :=
  match request with
  | .databasesAll => (.ok (.databasesAll (databases.map server.info)), databases)
  | .databaseGet name =>
    if name ∈ databases then (.ok (.databaseGet (server.info name)), databases)
    else (.error (server.refusal request), databases)
  | .databasesContains name => (.ok (.databasesContains (decide (name ∈ databases))), databases)
  | .databaseCreate name =>
    if name ∉ databases ∧ server.accepts name = true then
      (.ok (.databaseCreate (server.info name)), databases ++ [name])
    else (.error (server.refusal request), databases)
  | .databaseDelete name =>
    if name ∈ databases then (.ok .databaseDelete, databases.filter (· ≠ name))
    else (.error (server.refusal request), databases)
  | .databaseSchema name =>
    if name ∈ databases then (.ok (.databaseSchema (server.schema name)), databases)
    else (.error (server.refusal request), databases)
  | .databaseTypeSchema name =>
    if name ∈ databases then (.ok (.databaseTypeSchema (server.typeSchema name)), databases)
    else (.error (server.refusal request), databases)

def connection : ServerConnection (List String) := ⟨server.respond, server.debug⟩

def connections : HashMap Address (ServerConnection (List String)) :=
  AList.singleton server.address server.connection

def database (name : String) : Database (List String) where
  name
  replicas := (server.replicas name).map fun replica => .new name replica server.connection
  serverConnections := server.connections

end SingleServer

structure DatabaseClient where
  manager : DatabaseManager (List String)
  held : List Arc := []

/-- `delete` names the reference by its place among those the client holds, and the
database it refers to. -/
inductive Operation where
  | all
  | get (name : String)
  | create (name : String)
  | getCachedOrFetch (name : String)
  | delete (position : Nat) (name : String)
  deriving DecidableEq, Repr

namespace DatabaseClient

def step (display : Error → String) (client : DatabaseClient) : Operation → Option DatabaseClient
  | .all =>
    let answer := client.manager.all display
    some ⟨answer.2, grantedAll answer.1 ++ client.held⟩
  | .get name =>
    let answer := client.manager.get display name
    some ⟨answer.2, granted answer.1 ++ client.held⟩
  | .create name => some { client with manager := (client.manager.create display name).2 }
  | .getCachedOrFetch name =>
    -- `transaction` lets go of the database when it has opened the transaction.
    let answer := client.manager.getCachedOrFetch display name
    some { client with
      manager := (granted answer.1).foldl (fun manager arc => manager.dropArc arc) answer.2 }
  | .delete position name =>
    match client.held[position]? with
    | none => none
    | some arc =>
      if nameOf client.manager.heap arc = some name then
        some ⟨(client.manager.deleteDatabase arc).2, client.held.eraseIdx position⟩
      else none

def system (display : Error → String) : TransitionSystem DatabaseClient Operation where
  step := step display

end DatabaseClient

structure Catalog where
  existing : Finset String
  /-- Deleted, and not asked for by `all` or `get` nor created again since. -/
  lingering : Finset String := ∅

namespace Catalog

def opened (databases : List String) : Catalog := ⟨databases.toFinset, ∅⟩

def step (accepts : String → Bool) (catalog : Catalog) : Operation → Catalog
  | .all => { catalog with lingering := ∅ }
  | .get name => { catalog with lingering := catalog.lingering.erase name }
  | .create name =>
    if name ∉ catalog.existing ∧ accepts name = true then
      ⟨insert name catalog.existing, catalog.lingering.erase name⟩
    else catalog
  | .getCachedOrFetch _ => catalog
  | .delete _ name =>
    if name ∈ catalog.existing then
      ⟨catalog.existing.erase name, insert name catalog.lingering⟩
    else catalog

end Catalog

namespace SingleServer

variable (server : SingleServer) {databases : List String} {name : String}

theorem new_info (name : String) :
    Database.new (server.info name) server.connections = .ok (server.database name) := by
  have converted : Replica.tryFromInfo (server.info name) server.connections =
      .ok (server.database name).replicas := List.mapM_pure
  rw [Database.new, converted]
  rfl

theorem primaryReplica_database (name : String) :
    ∃ replica, (server.database name).primaryReplica = some replica ∧
      replica.database = ⟨name, server.connection⟩ := by
  obtain ⟨info, listed, primary⟩ := server.primary name
  have member : Replica.new name info server.connection ∈
      (server.database name).replicas.filter (·.isPrimary) :=
    List.mem_filter.mpr ⟨List.mem_map_of_mem listed, primary⟩
  obtain ⟨replica, chosen, found⟩ := Replica.exists_maxByTerm (List.ne_nil_of_mem member)
  refine ⟨replica, found, ?_⟩
  obtain ⟨origin, _, rfl⟩ := List.mem_map.mp (List.mem_filter.mp chosen).1
  rfl

theorem deleteDatabase_of_mem (present : name ∈ databases) :
    server.connection.deleteDatabase name databases =
      (.ok (), databases.filter (· ≠ name)) := by
  simp [ServerConnection.deleteDatabase, ServerConnection.expect, connection, respond, present]

theorem deleteDatabase_of_not_mem (missing : name ∉ databases) :
    server.connection.deleteDatabase name databases =
      (.error (server.refusal (.databaseDelete name)), databases) := by
  simp [ServerConnection.deleteDatabase, ServerConnection.expect, connection, respond, missing]

theorem getDatabaseReplicas_of_not_mem (missing : name ∉ databases) :
    server.connection.getDatabaseReplicas name databases =
      (.error (server.refusal (.databaseGet name)), databases) := by
  simp [ServerConnection.getDatabaseReplicas, ServerConnection.expect, connection, respond, missing]

theorem fetchAll_of_not_mem (missing : name ∉ databases) :
    ∃ err, Replica.fetchAll name server.connections databases = (.error err, databases) := by
  change ∃ err, Replica.fetchFrom name server.connections [⟨server.address, server.connection⟩]
    databases = (.error err, databases)
  rw [Replica.fetchFrom, server.getDatabaseReplicas_of_not_mem missing]
  dsimp only
  split <;> exact ⟨_, rfl⟩

theorem seekPrimaryReplica_of_not_mem (missing : name ∉ databases) :
    ∃ err, (server.database name).seekPrimaryReplica databases =
      (.error err, server.database name, databases) := by
  obtain ⟨err, failed⟩ := server.fetchAll_of_not_mem missing
  have failed : Replica.fetchAll (server.database name).name
      (server.database name).serverConnections databases = (.error err, databases) := failed
  refine ⟨err, ?_⟩
  rw [Database.seekPrimaryReplica, Database.fetchReplicasMaxRetries,
    Database.seekPrimaryReplicaWithin, failed]

theorem delete_of_mem (present : name ∈ databases) :
    (server.database name).delete databases =
      (.ok (), server.database name, databases.filter (· ≠ name)) := by
  obtain ⟨replica, found, located⟩ := server.primaryReplica_database name
  rw [Database.delete, Database.runOnPrimaryReplica, found]
  dsimp only [Database.primaryReplicaTaskMaxRetries]
  rw [Database.runOnPrimaryReplicaWithin, located, ServerDatabase.delete,
    server.deleteDatabase_of_mem present]

theorem delete_of_not_mem (missing : name ∉ databases) :
    ∃ err, (server.database name).delete databases =
      (.error err, server.database name, databases) := by
  obtain ⟨replica, found, located⟩ := server.primaryReplica_database name
  obtain ⟨err, failed⟩ := server.seekPrimaryReplica_of_not_mem missing
  rw [Database.delete, Database.runOnPrimaryReplica, found]
  dsimp only [Database.primaryReplicaTaskMaxRetries]
  rw [Database.runOnPrimaryReplicaWithin, located, ServerDatabase.delete,
    server.deleteDatabase_of_not_mem missing]
  dsimp only
  split
  · rw [failed]
    exact ⟨err, rfl⟩
  · exact ⟨_, rfl⟩

theorem delete_eq (name : String) (databases : List String) :
    ∃ res, (server.database name).delete databases =
      (res, server.database name, databases.filter (· ≠ name)) := by
  by_cases present : name ∈ databases
  · exact ⟨.ok (), server.delete_of_mem present⟩
  · obtain ⟨err, failed⟩ := server.delete_of_not_mem present
    have unchanged : databases.filter (· ≠ name) = databases :=
      List.filter_eq_self.mpr fun other listed => by
        simpa using fun same : other = name => present (same ▸ listed)
    exact ⟨.error err, failed.trans (by rw [unchanged])⟩

theorem runFailsafeOn_refused {σ ρ : Type} (task : ServerConnection σ → σ → Result ρ × σ)
    {serverConnection : ServerConnection σ} {state : σ} {err : Error}
    (refused : task serverConnection state = (.error err, state)) (display : Error → String)
    (serverId : Address) :
    ∃ cause, runFailsafeOn display task [⟨serverId, serverConnection⟩] [] state =
      (.error cause, state) := by
  rw [runFailsafeOn, refused]
  split
  next accepted => cases accepted
  next closed =>
    cases closed
    exact ⟨_, rfl⟩
  next failed =>
    cases failed
    exact ⟨_, rfl⟩

section Manager

variable {server} {manager : DatabaseManager (List String)}
  (connected : manager.serverConnections = server.connections) (display : Error → String)
include connected

theorem runFailsafe_eq {ρ : Type}
    (task : ServerConnection (List String) → List String → Result ρ × List String) :
    manager.runFailsafe display task =
      ((runFailsafeOn display task [⟨server.address, server.connection⟩] [] manager.server).1,
        { manager with
          server := (runFailsafeOn display task [⟨server.address, server.connection⟩] []
            manager.server).2 }) := by
  unfold DatabaseManager.runFailsafe
  rw [connected]
  rfl

theorem contains_eq (name : String) :
    manager.contains display name = (.ok (decide (name ∈ manager.server)), manager) := by
  rw [DatabaseManager.contains, runFailsafe_eq connected]
  rfl

theorem all_eq : manager.all display = manager.replaceAll (manager.server.map server.info) := by
  rw [DatabaseManager.all, connected]
  rfl

theorem create_accepted {name : String} (missing : name ∉ manager.server)
    (accepted : server.accepts name = true) :
    manager.create display name =
      (.ok (), { manager with server := manager.server ++ [name] }.cacheInsert
        (server.database name)) := by
  have answered : server.connection.createDatabase name manager.server =
      (.ok (server.info name), manager.server ++ [name]) := by
    simp [ServerConnection.createDatabase, ServerConnection.expect, connection, respond, missing,
      accepted]
  rw [DatabaseManager.create, runFailsafe_eq connected, runFailsafeOn, answered]
  dsimp only
  rw [cacheInfo, connected, server.new_info]

theorem create_refused {name : String}
    (refused : ¬(name ∉ manager.server ∧ server.accepts name = true)) :
    (manager.create display name).2 = manager := by
  have answered : server.connection.createDatabase name manager.server =
      (.error (server.refusal (.databaseCreate name)), manager.server) := by
    simp only [ServerConnection.createDatabase, ServerConnection.expect, connection, respond,
      refused, if_false]
  obtain ⟨cause, failed⟩ := runFailsafeOn_refused
    (fun serverConnection => serverConnection.createDatabase name) answered display server.address
  rw [DatabaseManager.create, runFailsafe_eq connected, failed]

theorem get_of_not_mem {name : String} (missing : name ∉ manager.server) :
    manager.get display name =
      (.error (.connection (.databaseNotFound name)), manager.cacheRemove name) := by
  rw [DatabaseManager.get, contains_eq connected, decide_eq_false missing]

theorem get_of_mem {name : String} {arc : Arc} (present : name ∈ manager.server)
    (cached : manager.databasesCache.lookup name = some arc) :
    manager.get display name = (.ok arc, { manager with heap := manager.heap.clone arc }) := by
  rw [DatabaseManager.get, contains_eq connected, decide_eq_true present]
  dsimp only
  rw [tryGetCached, cached]

end Manager

end SingleServer

structure Coherent (server : SingleServer) (client : DatabaseClient) (catalog : Catalog) :
    Prop where
  sound : client.manager.Sound client.held
  connected : client.manager.serverConnections = server.connections
  built : client.manager.heap.Stores fun database => database = server.database database.name
  existing : ∀ name, name ∈ client.manager.server ↔ name ∈ catalog.existing
  cached : ∀ name, client.manager.isCached name ↔
    name ∈ catalog.existing ∨ name ∈ catalog.lingering
  disjoint : ∀ name ∈ catalog.lingering, name ∉ catalog.existing

namespace Coherent

variable {server : SingleServer} {client : DatabaseClient} {catalog : Catalog}

theorem opened {manager : DatabaseManager (List String)} {databases : List String}
    (created : DatabaseManager.new server.connections (databases.map server.info) databases =
      .ok manager) : Coherent server { manager } (.opened databases) := by
  have kept : manager.serverConnections = server.connections ∧ manager.server = databases ∧
      manager.heap.Stores fun database => database = server.database database.name := by
    refine cacheInfos_invariant
      (fun manager => manager.serverConnections = server.connections ∧
        manager.server = databases ∧
        manager.heap.Stores fun database => database = server.database database.name)
      ?_ ⟨rfl, rfl, .empty⟩ created
    intro info listed manager database given made
    obtain ⟨connected, unchanged, built⟩ := given
    obtain ⟨name, _, rfl⟩ := List.mem_map.mp listed
    rw [connected, server.new_info] at made
    cases made
    exact ⟨connected, unchanged, stores_cacheInsert built rfl⟩
  obtain ⟨connected, unchanged, built⟩ := kept
  refine ⟨.new created, connected, built, fun name => ?_, fun name => ?_, ?_⟩
  · simp [unchanged, Catalog.opened]
  · rw [isCached_cacheInfos created]
    simp [isCached, Catalog.opened, SingleServer.info]
  · simp [Catalog.opened]

variable {name : String}

section

variable (coherent : Coherent server client catalog)

include coherent

theorem lookup (present : name ∈ catalog.existing ∨ name ∈ catalog.lingering) :
    ∃ arc, client.manager.databasesCache.lookup name = some arc :=
  Option.isSome_iff_exists.mp ((coherent.cached name).mpr present)

theorem all (display : Error → String) :
    Coherent server
      ⟨(client.manager.all display).2, grantedAll (client.manager.all display).1 ++ client.held⟩
      { catalog with lingering := ∅ } := by
  have convertible : ∀ info ∈ client.manager.server.map server.info,
      ∃ database, Database.new info client.manager.serverConnections = .ok database := by
    intro info listed
    obtain ⟨name, _, rfl⟩ := List.mem_map.mp listed
    exact ⟨server.database name, coherent.connected ▸ server.new_info name⟩
  have sound := coherent.sound.replaceAll (client.manager.server.map server.info)
  obtain ⟨heap, databasesCache, framed⟩ :=
    replaceAll_frame client.manager (client.manager.server.map server.info)
  have built := stores_replaceAll (client.manager.server.map server.info) coherent.built (by
    intro info listed database created
    obtain ⟨name, _, rfl⟩ := List.mem_map.mp listed
    rw [coherent.connected, server.new_info] at created
    cases created
    rfl)
  obtain ⟨arcs, next, replaced⟩ := replaceAll_ok convertible
  have names := isCached_replaceAll coherent.sound replaced
  rw [SingleServer.all_eq coherent.connected]
  rw [replaced] at sound framed built ⊢
  dsimp only at framed ⊢
  refine ⟨sound, ?_, built, fun name => ?_, fun name => ?_, ?_⟩
  · rw [framed]
    exact coherent.connected
  · rw [framed]
    exact coherent.existing name
  · rw [names, List.map_map, ← coherent.existing name]
    simp [Function.comp_def, SingleServer.info]
  · simp

theorem get (display : Error → String) (name : String) :
    Coherent server
      ⟨(client.manager.get display name).2,
        granted (client.manager.get display name).1 ++ client.held⟩
      { catalog with lingering := catalog.lingering.erase name } := by
  have sound := coherent.sound.get display name
  by_cases present : name ∈ client.manager.server
  · have listed := (coherent.existing name).mp present
    obtain ⟨arc, cached⟩ := coherent.lookup (.inl listed)
    have absent : name ∉ catalog.lingering := fun lingers => coherent.disjoint name lingers listed
    rw [SingleServer.get_of_mem coherent.connected display present cached] at sound ⊢
    rw [Finset.erase_eq_of_notMem absent]
    exact { coherent with
      sound := sound
      built := coherent.built.congr fun other => ArcHeap.value?_clone _ arc other }
  · rw [SingleServer.get_of_not_mem coherent.connected display present] at sound ⊢
    refine ⟨sound, coherent.connected, ?_, coherent.existing, fun other => ?_, ?_⟩
    · exact coherent.built.congr fun other => ArcHeap.value?_removeArc _ _ name other
    · rw [isCached_cacheRemove, coherent.cached, Finset.mem_erase]
      have missing : name ∉ catalog.existing := fun listed =>
        present ((coherent.existing name).mpr listed)
      by_cases same : other = name
      · simp [same, missing]
      · simp [same]
    · intro other lingers
      exact coherent.disjoint other (Finset.mem_of_mem_erase lingers)

theorem create (display : Error → String) (name : String) :
    Coherent server { client with manager := (client.manager.create display name).2 }
      (catalog.step server.accepts (.create name)) := by
  have sound := coherent.sound.create display name
  have same : (name ∉ client.manager.server ∧ server.accepts name = true) ↔
      (name ∉ catalog.existing ∧ server.accepts name = true) := by
    rw [coherent.existing]
  by_cases accepted : name ∉ catalog.existing ∧ server.accepts name = true
  · obtain ⟨missing, allowed⟩ := same.mpr accepted
    rw [SingleServer.create_accepted coherent.connected display missing allowed] at sound ⊢
    rw [Catalog.step, if_pos accepted]
    refine ⟨sound, coherent.connected, stores_cacheInsert coherent.built rfl, fun other => ?_,
      fun other => ?_, fun other lingers => ?_⟩
    · change other ∈ client.manager.server ++ [name] ↔ _
      rw [List.mem_append, coherent.existing, List.mem_singleton, Finset.mem_insert, or_comm]
    · have inserted := isCached_cacheInsert
        { client.manager with server := client.manager.server ++ [name] } (server.database name)
        other
      have earlier := coherent.cached other
      rw [inserted, Finset.mem_insert, Finset.mem_erase]
      change other = name ∨ client.manager.isCached other = true ↔ _
      rw [earlier]
      by_cases same : other = name
      · simp [same]
      · simp [same]
    · obtain ⟨differ, earlier⟩ := Finset.mem_erase.mp lingers
      simp [differ, coherent.disjoint other earlier]
  · rw [SingleServer.create_refused coherent.connected display (same.not.mpr accepted),
      Catalog.step, if_neg accepted]
    exact coherent

theorem absent (uncached : client.manager.databasesCache.lookup name = none) :
    name ∉ catalog.existing ∧ name ∉ catalog.lingering := by
  have unlisted : ¬client.manager.isCached name = true := by simp [isCached, uncached]
  exact not_or.mp ((coherent.cached name).not.mp unlisted)

theorem getCachedOrFetch (display : Error → String) (name : String) :
    Coherent server
      { client with
        manager := (granted (client.manager.getCachedOrFetch display name).1).foldl
          (fun manager arc => manager.dropArc arc)
          (client.manager.getCachedOrFetch display name).2 }
      catalog := by
  cases uncached : client.manager.databasesCache.lookup name with
  | some arc =>
    have sound := coherent.sound.getCachedOrFetch display name
    rw [getCachedOrFetch_of_cached uncached] at sound ⊢
    exact { coherent with
      sound := sound.dropArc
      built := coherent.built.congr fun other => by
        simp [granted, DatabaseManager.dropArc] }
  | none =>
    obtain ⟨missing, settled⟩ := coherent.absent uncached
    have fetched := coherent.get display name
    have refused := SingleServer.get_of_not_mem coherent.connected display
      fun present => missing ((coherent.existing name).mp present)
    rw [refused, Finset.erase_eq_of_notMem settled] at fetched
    rw [getCachedOrFetch_of_absent uncached, refused]
    exact fetched

end

variable {arc : Arc}

theorem deleteDatabase_eq (coherent : Coherent server client catalog) (owned : arc ∈ client.held)
    (named : nameOf client.manager.heap arc = some name) :
    (client.manager.deleteDatabase arc).2 =
      { client.manager with
        heap := (client.manager.heap.set arc (server.database name)).drop arc
        server := client.manager.server.filter (· ≠ name) } := by
  obtain ⟨database, stored, rfl⟩ := Option.map_eq_some_iff.mp named
  have read := coherent.sound.balanced.borrow (List.mem_append_right _ owned)
  obtain ⟨res, deleted⟩ := server.delete_eq database.name client.manager.server
  rw [← coherent.built arc database stored] at deleted ⊢
  rw [DatabaseManager.deleteDatabase, onDatabase, read, stored]
  dsimp only
  rw [deleted]
  rfl

theorem delete (coherent : Coherent server client catalog) {position : Nat}
    (holds : client.held[position]? = some arc)
    (named : nameOf client.manager.heap arc = some name) :
    Coherent server ⟨(client.manager.deleteDatabase arc).2, client.held.eraseIdx position⟩
      (catalog.step server.accepts (.delete position name)) := by
  have owned := List.mem_of_getElem? holds
  have sound : Sound (client.manager.deleteDatabase arc).2 (client.held.eraseIdx position) := by
    obtain ⟨inside, rfl⟩ := List.getElem?_eq_some_iff.mp holds
    exact (coherent.sound.perm (List.getElem_cons_eraseIdx_perm inside).symm).deleteDatabase
  have known := coherent.existing
  have listed := coherent.cached
  rw [coherent.deleteDatabase_eq owned named] at sound ⊢
  refine ⟨sound, coherent.connected, ?_, fun other => ?_, fun other => ?_, ?_⟩
  · exact (coherent.built.set rfl).congr fun other => ArcHeap.value?_drop _ arc other
  · rw [List.mem_filter, known, Catalog.step]
    split
    · simp [and_comm]
    next missing =>
      have differ : other ∈ catalog.existing → other ≠ name :=
        fun present same => missing (same ▸ present)
      simpa using differ
  · change client.manager.isCached other = true ↔ _
    rw [listed, Catalog.step]
    split
    next present =>
      by_cases same : other = name
      · simp [same, present]
      · simp [same]
    · rfl
  · rw [Catalog.step]
    split
    · intro other lingers
      rcases Finset.mem_insert.mp lingers with same | earlier
      · simp [same]
      · exact fun present => coherent.disjoint other earlier (Finset.mem_of_mem_erase present)
    · exact coherent.disjoint

theorem step (display : Error → String) (coherent : Coherent server client catalog)
    {op : Operation} {next : DatabaseClient}
    (took : (DatabaseClient.system display).step client op = some next) :
    Coherent server next (catalog.step server.accepts op) := by
  cases op with
  | all =>
    cases took
    exact coherent.all display
  | get name =>
    cases took
    exact coherent.get display name
  | create name =>
    cases took
    exact coherent.create display name
  | getCachedOrFetch name =>
    cases took
    exact coherent.getCachedOrFetch display name
  | delete position name =>
    simp only [DatabaseClient.system, DatabaseClient.step] at took
    split at took
    · cases took
    next arc holds =>
      split at took
      next named =>
        cases took
        exact coherent.delete holds named
      next => cases took

theorem getCachedOrFetch_iff (coherent : Coherent server client catalog)
    (display : Error → String) (name : String) :
    (∃ arc, (client.manager.getCachedOrFetch display name).1 = .ok arc) ↔
      name ∈ catalog.existing ∨ name ∈ catalog.lingering := by
  cases uncached : client.manager.databasesCache.lookup name with
  | some arc =>
    have listed : client.manager.isCached name = true := by simp [isCached, uncached]
    rw [getCachedOrFetch_of_cached uncached, ← coherent.cached]
    simp [listed]
  | none =>
    obtain ⟨missing, settled⟩ := coherent.absent uncached
    have refused := SingleServer.get_of_not_mem coherent.connected display
      fun present => missing ((coherent.existing name).mp present)
    rw [getCachedOrFetch_of_absent uncached, refused]
    simp [missing, settled]

end Coherent

/-- After any calls, `get_cached_or_fetch` tells what exists for exactly those names that the
client has not deleted since it last saw them listed, asked for them or created them. -/
theorem getCachedOrFetch_agrees_unless_lingering (server : SingleServer)
    (display : Error → String) {databases : List String}
    {manager : DatabaseManager (List String)} {operations : List Operation} {final : DatabaseClient}
    (created : DatabaseManager.new server.connections (databases.map server.info) databases =
      .ok manager) (ran : (DatabaseClient.system display).run { manager } operations = some final) :
    (∀ name,
      ((∃ arc, (final.manager.getCachedOrFetch display name).1 = .ok arc) ↔
        name ∈ final.manager.server) ↔
      name ∉ (operations.foldl (Catalog.step server.accepts) (.opened databases)).lingering) ∧
    ∀ name arc, final.manager.databasesCache.lookup name = some arc →
      nameOf final.manager.heap arc = some name := by
  have coherent := TransitionSystem.run_simulation
    (fun related took => related.step display took) (Coherent.opened created) ran
  refine ⟨fun name => ?_, fun _ _ found => coherent.sound.keyed found⟩
  rw [coherent.getCachedOrFetch_iff, coherent.existing]
  have apart := coherent.disjoint name
  tauto

def SingleServer.basic : SingleServer where
  address := ⟨"localhost:1729", some 1729⟩
  replicas _ := [⟨⟨"localhost:1729", some 1729⟩, true, true, 0⟩]
  primary _ := ⟨_, List.mem_cons_self, rfl⟩
  accepts _ := true
  refusal _ := .other "refused"
  schema _ := ""
  typeSchema _ := ""
  debug _ := ""

def deletingOperations : List Operation := [.get "orders", .delete 0 "orders"]

theorem getCachedOrFetch_agrees_after_get :
    ∃ manager final,
      DatabaseManager.new SingleServer.basic.connections (["orders"].map SingleServer.basic.info)
        ["orders"] = .ok manager ∧
      (DatabaseClient.system fun _ => "").run { manager } (deletingOperations ++ [.get "orders"]) =
        some final ∧
      ((∃ arc, (final.manager.getCachedOrFetch (fun _ => "") "orders").1 = .ok arc) ↔
        "orders" ∈ final.manager.server) := by
  refine ⟨_, _, rfl, rfl, ?_⟩
  have agrees := getCachedOrFetch_agrees_unless_lingering .basic (fun _ => "")
    (show DatabaseManager.new _ (["orders"].map SingleServer.basic.info) ["orders"] = .ok _
      from rfl)
    (show (DatabaseClient.system _).run _ (deletingOperations ++ [.get "orders"]) = some _ from rfl)
  exact (agrees.1 "orders").mpr (by decide)

/-- A transaction on the deleted database is still offered the cached object, although the
client itself deleted it and nobody else touched the server. -/
theorem getCachedOrFetch_returns_deleted :
    ∃ manager final,
      DatabaseManager.new SingleServer.basic.connections (["orders"].map SingleServer.basic.info)
        ["orders"] = .ok manager ∧
      (DatabaseClient.system fun _ => "").run { manager } deletingOperations = some final ∧
      (final.manager.getCachedOrFetch (fun _ => "") "orders").1 = .ok 0 ∧
      final.manager.server = [] :=
  ⟨_, _, rfl, rfl, rfl, rfl⟩

end TypeDBDriver
