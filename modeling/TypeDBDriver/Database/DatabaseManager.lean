import TypeDBDriver.Database.Database
import TypeDBDriver.Library.ArcHeap

/-! The database manager: its operations on the servers and on its cache of shared
databases. The manager is kept together with the cells its references point to and with
the state of the servers. Calls are made one at a time. -/

namespace TypeDBDriver

open Library

structure DatabaseManager (σ : Type) where
  serverConnections : HashMap Address (ServerConnection σ)
  databasesCache : HashMap String Arc := ∅
  heap : ArcHeap (Database σ) := {}
  server : σ

namespace DatabaseManager

variable {σ ρ : Type}

def failureLine (display : Error → String) (serverId : Address) (err : Error) : String :=
  "- " ++ serverId.uri.authority ++ ": " ++ display err

def failedWithErrors (errorBuffer : List String) : Error :=
  .connection (.serverConnectionFailedWithError ("\n".intercalate errorBuffer))

def runFailsafeOn (display : Error → String) (task : ServerConnection σ → σ → Result ρ × σ) :
    List (Σ _ : Address, ServerConnection σ) → List String → σ → Result ρ × σ
  | [], errorBuffer, server => (.error (failedWithErrors errorBuffer), server)
  | ⟨serverId, serverConnection⟩ :: rest, errorBuffer, server =>
    match task serverConnection server with
    | (.ok res, server) => (.ok res, server)
    | (.error (.connection .serverConnectionIsClosed), server) =>
      (.error (.connection .serverConnectionIsClosed), server)
    | (.error err, server) =>
      runFailsafeOn display task rest (errorBuffer ++ [failureLine display serverId err]) server

def runFailsafe (display : Error → String) (task : ServerConnection σ → σ → Result ρ × σ)
    (manager : DatabaseManager σ) : Result ρ × DatabaseManager σ :=
  let (res, server) :=
    runFailsafeOn display task manager.serverConnections.entries [] manager.server
  (res, { manager with server })

def tryGetCached (name : String) (manager : DatabaseManager σ) :
    Option Arc × DatabaseManager σ :=
  match manager.databasesCache.lookup name with
  | some arc => (some arc, { manager with heap := manager.heap.clone arc })
  | none => (none, manager)

/-- The cache takes over the reference, under the name of the database. -/
def cacheArc (name : String) (arc : Arc) (manager : DatabaseManager σ) : DatabaseManager σ :=
  let (heap, databasesCache) := manager.heap.insertArc manager.databasesCache name arc
  { manager with heap, databasesCache }

def cacheInsert (database : Database σ) (manager : DatabaseManager σ) : DatabaseManager σ :=
  let (arc, heap) := manager.heap.new database
  { manager with heap }.cacheArc database.name arc

def cacheRemove (name : String) (manager : DatabaseManager σ) : DatabaseManager σ :=
  let (heap, databasesCache) := manager.heap.removeArc manager.databasesCache name
  { manager with heap, databasesCache }

def cacheClear (manager : DatabaseManager σ) : DatabaseManager σ :=
  { manager with
    heap := manager.heap.dropAll (HashMap.values manager.databasesCache)
    databasesCache := ∅ }

def cacheShare (manager : DatabaseManager σ) (arc : Arc) : DatabaseManager σ :=
  match manager.heap.borrow arc with
  | (some database, heap) => { manager with heap := heap.clone arc }.cacheArc database.name arc
  | (none, heap) => { manager with heap }

def cacheInfo (manager : DatabaseManager σ) (info : DatabaseInfo) : Result (DatabaseManager σ) :=
  match Database.new info manager.serverConnections with
  | .ok database => .ok (manager.cacheInsert database)
  | .error err => .error err

def new (serverConnections : HashMap Address (ServerConnection σ))
    (databaseInfo : List DatabaseInfo) (server : σ) : Result (DatabaseManager σ) :=
  databaseInfo.foldlM cacheInfo { serverConnections, server }

def newDatabases (serverConnections : HashMap Address (ServerConnection σ)) :
    List DatabaseInfo → List Arc → ArcHeap (Database σ) → Result (List Arc) × ArcHeap (Database σ)
  | [], databases, heap => (.ok databases, heap)
  | info :: rest, databases, heap =>
    match Database.new info serverConnections with
    | .error err => (.error err, heap.dropAll databases)
    | .ok database =>
      let (arc, heap) := heap.new database
      newDatabases serverConnections rest (databases ++ [arc]) heap

def replaceAll (list : List DatabaseInfo) (manager : DatabaseManager σ) :
    Result (List Arc) × DatabaseManager σ :=
  match newDatabases manager.serverConnections list [] manager.heap with
  | (.error err, heap) => (.error err, { manager with heap })
  | (.ok databases, heap) =>
    (.ok databases, databases.foldl cacheShare { manager with heap }.cacheClear)

def allFrom (display : Error → String) :
    List (Σ _ : Address, ServerConnection σ) → List String → DatabaseManager σ →
      Result (List Arc) × DatabaseManager σ
  | [], errorBuffer, manager => (.error (failedWithErrors errorBuffer), manager)
  | ⟨serverId, serverConnection⟩ :: rest, errorBuffer, manager =>
    match serverConnection.allDatabases manager.server with
    | (.ok list, server) => { manager with server }.replaceAll list
    | (.error err, server) =>
      allFrom display rest (errorBuffer ++ [failureLine display serverId err])
        { manager with server }

def all (display : Error → String) (manager : DatabaseManager σ) :
    Result (List Arc) × DatabaseManager σ :=
  allFrom display manager.serverConnections.entries [] manager

def contains (display : Error → String) (name : String) (manager : DatabaseManager σ) :
    Result Bool × DatabaseManager σ :=
  manager.runFailsafe display fun serverConnection => serverConnection.containsDatabase name

def get (display : Error → String) (name : String) (manager : DatabaseManager σ) :
    Outcome Error Arc × DatabaseManager σ :=
  match manager.contains display name with
  | (.error err, manager) => (.error err, manager)
  | (.ok false, manager) =>
    (.error (.connection (.databaseNotFound name)), manager.cacheRemove name)
  | (.ok true, manager) =>
    match manager.tryGetCached name with
    | (some cachedDatabase, manager) => (.ok cachedDatabase, manager)
    | (none, manager) =>
      match Database.get name manager.serverConnections manager.server with
      | (.error err, server) => (.error err, { manager with server })
      | (.ok database, server) =>
        let (cached, manager) := ({ manager with server }.cacheInsert database).tryGetCached name
        (Outcome.unwrap cached, manager)

def create (display : Error → String) (name : String) (manager : DatabaseManager σ) :
    Result Unit × DatabaseManager σ :=
  match manager.runFailsafe display
      fun serverConnection => serverConnection.createDatabase name with
  | (.error err, manager) => (.error err, manager)
  | (.ok databaseInfo, manager) =>
    match manager.cacheInfo databaseInfo with
    | .error err => (.error err, manager)
    | .ok manager => (.ok (), manager)

def getCachedOrFetch (display : Error → String) (name : String) (manager : DatabaseManager σ) :
    Outcome Error Arc × DatabaseManager σ :=
  match manager.tryGetCached name with
  | (some cachedDatabase, manager) => (.ok cachedDatabase, manager)
  | (none, manager) => manager.get display name

/-- Runs an operation of the database behind a reference, which may replace its replicas.
There is no result if the database is freed. -/
def onDatabase (op : Database σ → σ → Result ρ × Database σ × σ) (arc : Arc)
    (manager : DatabaseManager σ) : Option (Result ρ) × DatabaseManager σ :=
  match manager.heap.borrow arc with
  | (none, heap) => (none, { manager with heap })
  | (some database, heap) =>
    let (res, database, server) := op database manager.server
    (some res, { manager with heap := heap.set arc database, server })

def dropArc (arc : Arc) (manager : DatabaseManager σ) : DatabaseManager σ :=
  { manager with heap := manager.heap.drop arc }

/-- `Database::delete(self: Arc<Self>)`: it consumes the reference and leaves the cache alone. -/
def deleteDatabase (arc : Arc) (manager : DatabaseManager σ) :
    Option (Result Unit) × DatabaseManager σ :=
  let (res, manager) := manager.onDatabase Database.delete arc
  (res, manager.dropArc arc)

def granted : Outcome Error Arc → List Arc
  | .ok arc => [arc]
  | _ => []

def grantedAll : Result (List Arc) → List Arc
  | .ok arcs => arcs
  | .error _ => []

def nameOf (heap : ArcHeap (Database σ)) (arc : Arc) : Option String :=
  (heap.value? arc).map Database.name

end DatabaseManager

end TypeDBDriver
