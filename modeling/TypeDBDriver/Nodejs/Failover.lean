import TypeDBDriver.Common.Status
import TypeDBDriver.Library.Interaction

/-! Failover and the renewal of tokens in the Node.js driver: the methods of the stub, the loops
of `TypeDBDatabaseImpl` over the replicas of a database, and the errors on whose class and
template both depend. A program waits at each gRPC call for the reply of the server. -/

namespace TypeDBDriver.Nodejs

open Library

structure ServiceError where
  code : Code
  details : String
  message : String
  deriving DecidableEq, Repr

/-- The templates in `ErrorMessage.Driver` that failover knows or throws. -/
inductive ErrorMessage where
  | rpcMethodUnavailable
  | unableToConnect
  | databaseDoesNotExist
  | cloudReplicaNotPrimary
  | cloudTokenCredentialInvalid
  deriving DecidableEq, Repr

namespace ErrorMessage

def codeNumber : ErrorMessage → Nat
  | .rpcMethodUnavailable => 1
  | .unableToConnect => 7
  | .databaseDoesNotExist => 10
  | .cloudReplicaNotPrimary => 16
  | .cloudTokenCredentialInvalid => 20

/-- No zeros are filled in: the length that `code` compares with the number of digits is that of
the text of a missing code. -/
def code (template : ErrorMessage) : String :=
  "NDR" ++ toString template.codeNumber

def messageBody (args : List String) : ErrorMessage → String
  | .rpcMethodUnavailable =>
    "The server does not support this method. Please ensure that the TypeDB Driver and " ++
      "TypeDB Server versions are compatible:\n'" ++ args.headD "undefined" ++ "'."
  | .unableToConnect => "Unable to connect to TypeDB server."
  | .databaseDoesNotExist => "The database '" ++ args.headD "undefined" ++ "' does not exist."
  | .cloudReplicaNotPrimary => "The replica is not the primary replica."
  | .cloudTokenCredentialInvalid => "Invalid token credential."

def message (template : ErrorMessage) (args : List String) : String :=
  "[" ++ template.code ++ "] Driver Error: " ++ template.messageBody args

end ErrorMessage

def isReplicaNotPrimaryError (error : ServiceError) : Bool :=
  containsText error.message "[RPL01]"

def isTokenCredentialInvalidError (error : ServiceError) : Bool :=
  containsText error.message "[CLS08]" || containsText error.message "[ENT08]"

structure TypeDBDriverError where
  message : String
  messageTemplate : Option ErrorMessage
  deriving DecidableEq, Repr

namespace TypeDBDriverError

def ofString (message : String) : TypeDBDriverError :=
  ⟨message, none⟩

def ofServiceError (error : ServiceError) : TypeDBDriverError :=
  if error.code = .unimplemented then
    ⟨ErrorMessage.rpcMethodUnavailable.message [error.details], some .rpcMethodUnavailable⟩
  else if error.code ∈ [Code.unavailable, .unknown, .cancelled] ∨
      containsText error.message "Received RST_STREAM" then
    ⟨ErrorMessage.unableToConnect.message [], some .unableToConnect⟩
  else if isReplicaNotPrimaryError error then
    ⟨ErrorMessage.cloudReplicaNotPrimary.message [], some .cloudReplicaNotPrimary⟩
  else if isTokenCredentialInvalidError error then
    ⟨ErrorMessage.cloudTokenCredentialInvalid.message [], some .cloudTokenCredentialInvalid⟩
  else if error.code = .internal then ⟨error.details, none⟩
  else ⟨"Error: " ++ error.message, none⟩

end TypeDBDriverError

inductive Thrown where
  | driver (error : TypeDBDriverError)
  | service (error : ServiceError)
  /-- A property of `undefined` or `null` was read. -/
  | typeError
  deriving DecidableEq, Repr

/-- `e instanceof TypeDBDriverError`, and it has this template. -/
def Thrown.hasTemplate (template : ErrorMessage) : Thrown → Bool
  | .driver error => error.messageTemplate == some template
  | _ => false

def Thrown.unableToConnect : Thrown :=
  .driver (.ofString (ErrorMessage.unableToConnect.message []))

structure TypeDBCredential where
  username : String
  password : String
  deriving DecidableEq, Repr

inductive Metadata where
  | password (username password : String)
  | token (username token : String)
  deriving DecidableEq, Repr

structure Replica where
  server : String
  term : Nat
  primary : Bool
  preferred : Bool
  deriving DecidableEq, Repr

inductive Operation where
  | delete
  | schema
  | typeSchema
  | ruleSchema
  | sessionOpen
  deriving DecidableEq, Repr

inductive Call where
  | op (op : Operation) (server : String) (metadata : Option Metadata)
  | userToken (server : String) (metadata : Option Metadata) (username : String)
  | databasesGet (server : String) (metadata : Option Metadata) (name : String)
  | wait
  deriving DecidableEq, Repr

/-- The answers of the operations have the type `Answer`. -/
abbrev Reply (Answer : Type) : Call → Type
  | .op .. => Except ServiceError Answer
  | .userToken .. => Except ServiceError String
  | .databasesGet .. => Except ServiceError (List Replica)
  | .wait => Unit

/-- The driver after it was opened, and the database of the operation. A server driver goes by
its id in the map of the driver. -/
structure TypeDBDriverImpl where
  serverDrivers : List String
  credential : Option TypeDBCredential
  database : String

/-- What the calls of an operation change: the replicas of the database, and the token of each
stub. -/
structure World where
  replicas : List Replica := []
  token : String → Option String := fun _ => none

abbrev Async (Answer α : Type) :=
  Process Call (Reply Answer) World Thrown α

variable {Answer α : Type}

def request (call : Call) : Async Answer (Reply Answer call) :=
  Process.request call

def waitForPrimaryReplicaSelection : Async Answer Unit :=
  request .wait

namespace TypeDBStub

variable (driver : TypeDBDriverImpl) (server : String)

def metadata (world : World) : Option Metadata :=
  driver.credential.map fun credential =>
    match world.token server with
    | none => .password credential.username credential.password
    | some token => .token credential.username token

def setToken (token : Option String) : Async Answer Unit :=
  modify fun world => { world with token := Function.update world.token server token }

def userToken (username : String) : Async Answer String := do
  match ← request (.userToken server (metadata driver server (← get)) username) with
  | .ok token => pure token
  | .error error => throw (.service error)

def mayRenewToken (fn : Async Answer α) : Async Answer α := do
  try fn
  catch e =>
    match driver.credential with
    | none => throw e
    | some credential =>
      if e.hasTemplate .cloudTokenCredentialInvalid then
        setToken server none
        let token ← userToken driver server credential.username
        setToken server (some token)
        try fn
        catch e2 =>
          match e2 with
          | .service error => throw (.driver (.ofServiceError error))
          | _ => throw e2
      else throw e

def databasesGet : Async Answer (List Replica) :=
  mayRenewToken driver server do
    match ← request (.databasesGet server (metadata driver server (← get)) driver.database) with
    | .ok replicas => pure replicas
    | .error error => throw (.driver (.ofServiceError error))

def call (op : Operation) (reject : ServiceError → Thrown) : Async Answer Answer := do
  match ← request (.op op server (metadata driver server (← get))) with
  | .ok answer => pure answer
  | .error error => throw (reject error)

def databaseDelete : Async Answer Answer :=
  mayRenewToken driver server (call driver server .delete .service)

def databaseSchema : Async Answer Answer :=
  mayRenewToken driver server (call driver server .schema .service)

def databaseTypeSchema : Async Answer Answer :=
  mayRenewToken driver server (call driver server .typeSchema .service)

def databaseRuleSchema : Async Answer Answer :=
  mayRenewToken driver server (call driver server .ruleSchema .service)

def sessionOpen : Async Answer Answer :=
  call driver server .sessionOpen fun error => .driver (.ofServiceError error)

end TypeDBStub

namespace TypeDBDatabaseImpl

variable (driver : TypeDBDriverImpl)

def primaryReplicaTaskMaxRetries : Nat := 10

def fetchReplicasMaxRetries : Nat := 10

/-- The first one of those with the highest term. -/
def primaryReplica (replicas : List Replica) : Option Replica :=
  match replicas.filter (·.primary) with
  | [] => none
  | first :: rest =>
    some (rest.foldl (fun current next => if next.term > current.term then next else current)
      first)

def fetchReplicasFrom : List String → Async Answer (List Replica)
  | [] => throw .unableToConnect
  | server :: rest => do
      try TypeDBStub.databasesGet driver server
      catch err =>
        if err.hasTemplate .databaseDoesNotExist || err.hasTemplate .unableToConnect then
          fetchReplicasFrom rest
        else throw err

def fetchReplicas : Async Answer (List Replica) :=
  fetchReplicasFrom driver driver.serverDrivers

def seekPrimaryReplicaWithin : Nat → Async Answer Replica
  | 0 => throw .unableToConnect
  | retries + 1 => do
      let replicas ← fetchReplicas driver
      modify fun world => { world with replicas }
      match primaryReplica replicas with
      | some replica => pure replica
      | none =>
        waitForPrimaryReplicaSelection
        seekPrimaryReplicaWithin retries

def seekPrimaryReplica : Async Answer Replica :=
  seekPrimaryReplicaWithin driver fetchReplicasMaxRetries

section Tasks

variable (task : String → Async Answer α)

def runOnAnyReplicaOf : List Replica → Async Answer α
  | [] => throw .unableToConnect
  | replica :: rest => do
      try task replica.server
      catch e => if e.hasTemplate .unableToConnect then runOnAnyReplicaOf rest else throw e

def runOnAnyReplica : Async Answer α := do
  runOnAnyReplicaOf task (← get).replicas

def runOn : Option Replica → Async Answer α
  | some replica => task replica.server
  | none => throw .typeError

def runOnPrimaryReplicaWithin : Nat → Async Answer α
  | 0 => throw .unableToConnect
  | retries + 1 => do
      try runOn task (primaryReplica (← get).replicas)
      catch e =>
        if e.hasTemplate .unableToConnect || e.hasTemplate .cloudReplicaNotPrimary then
          waitForPrimaryReplicaSelection
          let _ ← seekPrimaryReplica driver
          runOnPrimaryReplicaWithin retries
        else throw e

def runOnPrimaryReplica : Async Answer α := do
  if (primaryReplica (← get).replicas).isNone then
    let _ ← seekPrimaryReplica driver
  runOnPrimaryReplicaWithin driver task primaryReplicaTaskMaxRetries

def orOnPrimaryReplica (attempts : Async Answer α) : Async Answer α := do
  try attempts
  catch e =>
    if e.hasTemplate .cloudReplicaNotPrimary then runOnPrimaryReplica driver task else throw e

def runFailsafe : Async Answer α :=
  orOnPrimaryReplica driver task (runOnAnyReplica task)

end Tasks

def stubMethod (op : Operation) (server : String) : Async Answer Answer :=
  match op with
  | .delete => TypeDBStub.databaseDelete driver server
  | .schema => TypeDBStub.databaseSchema driver server
  | .typeSchema => TypeDBStub.databaseTypeSchema driver server
  | .ruleSchema => TypeDBStub.databaseRuleSchema driver server
  | .sessionOpen => TypeDBStub.sessionOpen driver server

/-- The task of an operation for the server of a replica. The server driver is undefined where
the driver does not know the server. -/
def task (op : Operation) (server : String) : Async Answer Answer :=
  if server ∈ driver.serverDrivers then stubMethod driver op server
  else throw .typeError

/-- `delete`, `schema`, `typeSchema`, `ruleSchema`, and `TypeDBSessionImpl.open` once it has its
database. -/
def run : Operation → Async Answer Answer
  | .delete => runOnPrimaryReplica driver (task driver .delete)
  | .schema => runFailsafe driver (task driver .schema)
  | .typeSchema => runFailsafe driver (task driver .typeSchema)
  | .ruleSchema => runFailsafe driver (task driver .ruleSchema)
  | .sessionOpen => runFailsafe driver (task driver .sessionOpen)

end TypeDBDatabaseImpl

namespace Failover

open TypeDBDatabaseImpl

/-- Where the operation is called: for a replica while the replicas `rest` are left, or for the
primary replica while `retries` more rounds are left. -/
inductive Position where
  | any (replica : Replica) (rest : List Replica)
  | primary (retries : Nat)

variable (driver : TypeDBDriverImpl) (op : Operation)

def onReplicas (replicas : List Replica) : Async Answer Answer :=
  orOnPrimaryReplica driver (task driver op)
    (runOnAnyReplicaOf (task driver op) replicas)

def onRefetchedPrimary (retries : Nat) : Async Answer Answer := do
  waitForPrimaryReplicaSelection
  let _ ← seekPrimaryReplica driver
  runOnPrimaryReplicaWithin driver (task driver op) retries

namespace Position

/-- What is to be done at a position. -/
def program : Position → Async Answer Answer
  | .any replica rest => onReplicas driver op (replica :: rest)
  | .primary retries =>
    runOnPrimaryReplicaWithin driver (task driver op) (retries + 1)

def tryNext : Position → Async Answer Answer
  | .any _ rest => onReplicas driver op rest
  | .primary retries => onRefetchedPrimary driver op retries

def tryPrimary : Position → Async Answer Answer
  | .any _ _ => runOnPrimaryReplica driver (task driver op)
  | .primary retries => onRefetchedPrimary driver op retries

end Position

abbrev Residual (Answer : Type) :=
  Interaction Call (Reply Answer) (Except Thrown Answer × World)

/-- The token is asked for with the password, and the call is made again with the new token. -/
def Renews (server : String) (credential : TypeDBCredential) (after : Residual Answer) : Prop :=
  ∃ renewed, after = .call (.userToken server
      (some (.password credential.username credential.password)) credential.username) renewed ∧
    ∀ token, ∃ resume, renewed (.ok token) = .call (.op op server
      (some (.token credential.username token))) resume

/-- The program `after` is what should follow the failure of the call at a position. -/
structure Reaction (position : Position) (world : World) (server : String) (error : ServiceError)
    (after : Residual Answer) : Prop where
  unavailable : error.code = .unavailable → after = position.tryNext driver op world
  notPrimary : isReplicaNotPrimaryError error = true →
    after = position.tryPrimary driver op world
  tokenInvalid : ∀ credential, driver.credential = some credential →
    isTokenCredentialInvalidError error = true → Renews op server credential after

/-- In every run of the operation on every list of replicas, each of its calls is made at some
position, and what should follow the error there does. -/
def Sees (Answer : Type) (credential : Option TypeDBCredential) (error : ServiceError) : Prop :=
  ∀ driver : TypeDBDriverImpl, driver.credential = credential →
    ∀ (start : World) events server metadata
      (resume : Reply Answer (.op op server metadata) → Residual Answer),
      (Interaction.system Call (Reply Answer) _).run (run driver op start) events =
        some (.call (.op op server metadata) resume) →
      (∃ position world, .call (.op op server metadata) resume =
        Position.program driver op position world) ∧
      ∀ position world, .call (.op op server metadata) resume =
        Position.program driver op position world →
        Reaction driver op position world server error (resume (.error error))

def isSeen (credential : Option TypeDBCredential) (error : ServiceError) : Prop :=
  (error.code = .unavailable → op = .sessionOpen) ∧
  (isReplicaNotPrimaryError error = true → op = .sessionOpen ∧
    error.code ∉ [Code.unimplemented, .unavailable, .unknown, .cancelled] ∧
    containsText error.message "Received RST_STREAM" = false) ∧
  (isTokenCredentialInvalidError error = true → credential = none)

end Failover

end TypeDBDriver.Nodejs
