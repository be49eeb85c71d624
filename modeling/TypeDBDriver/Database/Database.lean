import TypeDBDriver.Common.Error
import TypeDBDriver.Library.HashMap

/-! A database and its replicas, and how an operation on it finds a server that can
carry it out. Servers are outside the driver: `σ` is the state of all of them, and a
connection may answer a request in any way. Waiting is not modelled, since nothing the
driver computes depends on the time it waits. -/

namespace TypeDBDriver

open Library

/-- The requests of `connection::message::Request` that the database methods send. -/
inductive Request where
  | databasesAll
  | databaseGet (databaseName : String)
  | databasesContains (databaseName : String)
  | databaseCreate (databaseName : String)
  | databaseDelete (databaseName : String)
  | databaseSchema (databaseName : String)
  | databaseTypeSchema (databaseName : String)
  deriving DecidableEq, Repr

/-- `connection::message::Response`; `other` stands for the variants that answer none of
these requests. -/
inductive Response where
  | databasesContains (contains : Bool)
  | databaseCreate (database : DatabaseInfo)
  | databaseGet (database : DatabaseInfo)
  | databasesAll (databases : List DatabaseInfo)
  | databaseDelete
  | databaseSchema (schema : String)
  | databaseTypeSchema (schema : String)
  | other
  deriving DecidableEq, Repr

structure ServerConnection (σ : Type) where
  request : Request → σ → Result Response × σ
  /-- The text of the derived `Debug` implementation. -/
  debug : Response → String

namespace ServerConnection

variable {σ α : Type}

def expect (connection : ServerConnection σ) (request : Request) (select : Response → Option α)
    (server : σ) : Result α × σ :=
  match connection.request request server with
  | (.ok response, server) =>
    match select response with
    | some value => (.ok value, server)
    | none => (.error (.internal (.unexpectedResponseType (connection.debug response))), server)
  | (.error err, server) => (.error err, server)

def allDatabases (connection : ServerConnection σ) : σ → Result (List DatabaseInfo) × σ :=
  connection.expect .databasesAll fun
    | .databasesAll databases => some databases
    | _ => none

def getDatabaseReplicas (connection : ServerConnection σ) (databaseName : String) :
    σ → Result DatabaseInfo × σ :=
  connection.expect (.databaseGet databaseName) fun
    | .databaseGet database => some database
    | _ => none

def containsDatabase (connection : ServerConnection σ) (databaseName : String) :
    σ → Result Bool × σ :=
  connection.expect (.databasesContains databaseName) fun
    | .databasesContains contains => some contains
    | _ => none

def createDatabase (connection : ServerConnection σ) (databaseName : String) :
    σ → Result DatabaseInfo × σ :=
  connection.expect (.databaseCreate databaseName) fun
    | .databaseCreate database => some database
    | _ => none

/-- Any response that is not an error counts as done. -/
def deleteDatabase (connection : ServerConnection σ) (databaseName : String) :
    σ → Result Unit × σ :=
  connection.expect (.databaseDelete databaseName) fun _ => some ()

def databaseSchema (connection : ServerConnection σ) (databaseName : String) :
    σ → Result String × σ :=
  connection.expect (.databaseSchema databaseName) fun
    | .databaseSchema schema => some schema
    | _ => none

def databaseTypeSchema (connection : ServerConnection σ) (databaseName : String) :
    σ → Result String × σ :=
  connection.expect (.databaseTypeSchema databaseName) fun
    | .databaseTypeSchema schema => some schema
    | _ => none

end ServerConnection

structure ServerDatabase (σ : Type) where
  name : String
  connection : ServerConnection σ

namespace ServerDatabase

variable {σ : Type}

def delete (database : ServerDatabase σ) : σ → Result Unit × σ :=
  database.connection.deleteDatabase database.name

def schema (database : ServerDatabase σ) : σ → Result String × σ :=
  database.connection.databaseSchema database.name

def typeSchema (database : ServerDatabase σ) : σ → Result String × σ :=
  database.connection.databaseTypeSchema database.name

end ServerDatabase

structure Replica (σ : Type) where
  server : Address
  databaseName : String
  isPrimary : Bool
  term : Int64
  isPreferred : Bool
  database : ServerDatabase σ

structure Database (σ : Type) where
  name : String
  replicas : List (Replica σ)
  serverConnections : HashMap Address (ServerConnection σ)

def Database.unableToConnectError {σ : Type}
    (serverConnections : HashMap Address (ServerConnection σ)) : Error :=
  .connection (.serverConnectionFailed serverConnections.keys)

namespace Replica

variable {σ : Type}

def new (name : String) (metadata : ReplicaInfo) (serverConnection : ServerConnection σ) :
    Replica σ where
  server := metadata.server
  databaseName := name
  isPrimary := metadata.isPrimary
  term := metadata.term
  isPreferred := metadata.isPreferred
  database := ⟨name, serverConnection⟩

/-- With one connection every replica is reached through it, wherever it says it is. -/
def tryNew (name : String) (serverConnections : HashMap Address (ServerConnection σ))
    (replica : ReplicaInfo) : Result (Replica σ) :=
  match serverConnections.entries with
  | [⟨_, serverConnection⟩] => .ok (new name replica serverConnection)
  | _ =>
    match serverConnections.lookup replica.server with
    | some serverConnection => .ok (new name replica serverConnection)
    | none => .error (.internal (.unknownServer replica.server))

def tryFromInfo (databaseInfo : DatabaseInfo)
    (serverConnections : HashMap Address (ServerConnection σ)) : Result (List (Replica σ)) :=
  databaseInfo.replicas.mapM (tryNew databaseInfo.name serverConnections)

/-- The errors after which `fetch_all` asks the next server. -/
def skipsServer : Error → Bool
  | .connection (.databaseNotFound _) => true
  | .connection (.serverConnectionFailedStatusError _) => true
  | .connection .connectionFailed => true
  | _ => false

def fetchFrom (name : String) (serverConnections : HashMap Address (ServerConnection σ)) :
    List (Σ _ : Address, ServerConnection σ) → σ → Result (List (Replica σ)) × σ
  | [], server => (.error (Database.unableToConnectError serverConnections), server)
  | ⟨_, serverConnection⟩ :: rest, server =>
    match serverConnection.getDatabaseReplicas name server with
    | (.ok info, server) => (tryFromInfo info serverConnections, server)
    | (.error err, server) =>
      if skipsServer err then fetchFrom name serverConnections rest server
      else (.error err, server)

def fetchAll (name : String) (serverConnections : HashMap Address (ServerConnection σ)) :
    σ → Result (List (Replica σ)) × σ :=
  fetchFrom name serverConnections serverConnections.entries

def laterOrHigher (best next : Replica σ) : Replica σ :=
  if best.term ≤ next.term then next else best

/-- `Iterator::max_by_key` on the term: the last of the replicas with the highest term. -/
def maxByTerm : List (Replica σ) → Option (Replica σ)
  | [] => none
  | replica :: rest => some (rest.foldl laterOrHigher replica)

theorem foldl_laterOrHigher_mem (best : Replica σ) (rest : List (Replica σ)) :
    rest.foldl laterOrHigher best ∈ best :: rest := by
  induction rest generalizing best with
  | nil => exact List.mem_cons_self
  | cons next rest ih =>
    have chosen : laterOrHigher best next = next ∨ laterOrHigher best next = best := by
      unfold laterOrHigher
      split <;> simp
    rcases chosen with later | kept
    · rw [List.foldl_cons, later]
      exact List.mem_cons_of_mem _ (ih next)
    · rw [List.foldl_cons, kept]
      rcases List.mem_cons.mp (ih best) with first | listed
      · simp [first]
      · exact List.mem_cons_of_mem _ (List.mem_cons_of_mem _ listed)

theorem exists_maxByTerm {replicas : List (Replica σ)} (nonempty : replicas ≠ []) :
    ∃ replica ∈ replicas, maxByTerm replicas = some replica := by
  cases replicas with
  | nil => exact absurd rfl nonempty
  | cons replica rest => exact ⟨_, foldl_laterOrHigher_mem replica rest, rfl⟩

end Replica

namespace Database

variable {σ ρ : Type}

def primaryReplicaTaskMaxRetries : Nat := 10

def fetchReplicasMaxRetries : Nat := 10

def new (databaseInfo : DatabaseInfo) (serverConnections : HashMap Address (ServerConnection σ)) :
    Result (Database σ) :=
  match Replica.tryFromInfo databaseInfo serverConnections with
  | .ok replicas => .ok ⟨databaseInfo.name, replicas, serverConnections⟩
  | .error err => .error err

def get (name : String) (serverConnections : HashMap Address (ServerConnection σ)) (server : σ) :
    Result (Database σ) × σ :=
  match Replica.fetchAll name serverConnections server with
  | (.ok replicas, server) => (.ok ⟨name, replicas, serverConnections⟩, server)
  | (.error err, server) => (.error err, server)

def primaryReplica (database : Database σ) : Option (Replica σ) :=
  Replica.maxByTerm (database.replicas.filter (·.isPrimary))

def seekPrimaryReplicaWithin : Nat → Database σ → σ → Result (Replica σ) × Database σ × σ
  | 0, database, server =>
    (.error (unableToConnectError database.serverConnections), database, server)
  | retries + 1, database, server =>
    match Replica.fetchAll database.name database.serverConnections server with
    | (.error err, server) => (.error err, database, server)
    | (.ok replicas, server) =>
      let database := { database with replicas }
      match database.primaryReplica with
      | some replica => (.ok replica, database, server)
      | none => seekPrimaryReplicaWithin retries database server

def seekPrimaryReplica : Database σ → σ → Result (Replica σ) × Database σ × σ :=
  seekPrimaryReplicaWithin fetchReplicasMaxRetries

/-- The errors after which `run_on_primary_replica` looks for another primary replica. -/
def isPrimaryReplicaError : Error → Bool
  | .connection .cloudReplicaNotPrimary => true
  | .connection (.serverConnectionFailedStatusError _) => true
  | .connection .connectionFailed => true
  | _ => false

def runOnPrimaryReplicaWithin (task : ServerDatabase σ → σ → Result ρ × σ) :
    Nat → Replica σ → Database σ → σ → Result ρ × Database σ × σ
  | 0, _, database, server =>
    (.error (unableToConnectError database.serverConnections), database, server)
  | retries + 1, primaryReplica, database, server =>
    match task primaryReplica.database server with
    | (.ok res, server) => (.ok res, database, server)
    | (.error err, server) =>
      if isPrimaryReplicaError err then
        match database.seekPrimaryReplica server with
        | (.ok replica, database, server) =>
          runOnPrimaryReplicaWithin task retries replica database server
        | (.error err, database, server) => (.error err, database, server)
      else (.error err, database, server)

def runOnPrimaryReplica (task : ServerDatabase σ → σ → Result ρ × σ) (database : Database σ)
    (server : σ) : Result ρ × Database σ × σ :=
  match database.primaryReplica with
  | some replica =>
    runOnPrimaryReplicaWithin task primaryReplicaTaskMaxRetries replica database server
  | none =>
    match database.seekPrimaryReplica server with
    | (.ok replica, database, server) =>
      runOnPrimaryReplicaWithin task primaryReplicaTaskMaxRetries replica database server
    | (.error err, database, server) => (.error err, database, server)

/-- The errors after which `run_on_any_replica` tries the next one. -/
def skipsReplica : Error → Bool
  | .connection (.serverConnectionFailedStatusError _) => true
  | .connection .connectionFailed => true
  | _ => false

def runOnReplicas (task : ServerDatabase σ → σ → Result ρ × σ)
    (serverConnections : HashMap Address (ServerConnection σ)) :
    List (Replica σ) → σ → Result ρ × σ
  | [], server => (.error (unableToConnectError serverConnections), server)
  | replica :: rest, server =>
    match task replica.database server with
    | (.ok res, server) => (.ok res, server)
    | (.error err, server) =>
      if skipsReplica err then runOnReplicas task serverConnections rest server
      else (.error err, server)

def runOnAnyReplica (task : ServerDatabase σ → σ → Result ρ × σ) (database : Database σ) :
    σ → Result ρ × σ :=
  runOnReplicas task database.serverConnections database.replicas

def runFailsafe (task : ServerDatabase σ → σ → Result ρ × σ) (database : Database σ) (server : σ) :
    Result ρ × Database σ × σ :=
  match database.runOnAnyReplica task server with
  | (.error (.connection .cloudReplicaNotPrimary), server) =>
    database.runOnPrimaryReplica task server
  | (res, server) => (res, database, server)

def delete : Database σ → σ → Result Unit × Database σ × σ :=
  runOnPrimaryReplica ServerDatabase.delete

def schema : Database σ → σ → Result String × Database σ × σ := runFailsafe ServerDatabase.schema

def typeSchema : Database σ → σ → Result String × Database σ × σ :=
  runFailsafe ServerDatabase.typeSchema

/-! An operation may replace the replicas of a database; its name stays. -/

theorem new_name {databaseInfo : DatabaseInfo}
    {serverConnections : HashMap Address (ServerConnection σ)} {database : Database σ}
    (created : new databaseInfo serverConnections = .ok database) :
    database.name = databaseInfo.name := by
  unfold new at created
  split at created
  · cases created
    rfl
  · cases created

theorem seekPrimaryReplicaWithin_name (retries : Nat) (database : Database σ) (server : σ) :
    (seekPrimaryReplicaWithin retries database server).2.1.name = database.name := by
  induction retries generalizing database server with
  | zero => rfl
  | succ retries ih =>
    unfold seekPrimaryReplicaWithin
    split
    · rfl
    · dsimp only
      split
      · rfl
      · exact ih _ _

theorem seekPrimaryReplica_name (database : Database σ) (server : σ) :
    (seekPrimaryReplica database server).2.1.name = database.name :=
  seekPrimaryReplicaWithin_name _ database server

theorem runOnPrimaryReplicaWithin_name (task : ServerDatabase σ → σ → Result ρ × σ)
    (retries : Nat) (replica : Replica σ) (database : Database σ) (server : σ) :
    (runOnPrimaryReplicaWithin task retries replica database server).2.1.name = database.name := by
  induction retries generalizing replica database server with
  | zero => rfl
  | succ retries ih =>
    unfold runOnPrimaryReplicaWithin
    split
    · rfl
    next err after failed =>
      have sought := seekPrimaryReplica_name database after
      split
      · split
        next found => exact (ih _ _ _).trans (by simpa only [found] using sought)
        next found => simpa only [found] using sought
      · rfl

theorem runOnPrimaryReplica_name (task : ServerDatabase σ → σ → Result ρ × σ)
    (database : Database σ) (server : σ) :
    (runOnPrimaryReplica task database server).2.1.name = database.name := by
  have sought := seekPrimaryReplica_name database server
  unfold runOnPrimaryReplica
  split
  · exact runOnPrimaryReplicaWithin_name task _ _ database server
  · split
    next found =>
      exact (runOnPrimaryReplicaWithin_name task _ _ _ _).trans
        (by simpa only [found] using sought)
    next found => simpa only [found] using sought

theorem delete_name (database : Database σ) (server : σ) :
    (delete database server).2.1.name = database.name :=
  runOnPrimaryReplica_name _ database server

end Database

end TypeDBDriver
