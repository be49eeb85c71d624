import Mathlib.Data.List.AList
import TypeDBDriver.Nodejs.Failover

/-! How the Node.js driver connects: the check of its addresses, the servers that it learns of, and
the map of server drivers that the replicas of a database are looked up in. -/

namespace TypeDBDriver.Nodejs.Connection

open Library

/-- An object, or a `Map`, whose keys are strings. No result depends on the order of what is
added. -/
abbrev Record (α : Type) := AList fun _ : String => α

namespace Record

def values {α : Type} (record : Record α) : List α :=
  record.entries.map (·.2)

end Record

def driverMessage (codeNumber : Nat) (messageBody : String) : Thrown :=
  .driver (.ofString ("[NDR" ++ toString codeNumber ++ "] Driver Error: " ++ messageBody))

/-- The template prints its second argument, and is given one. -/
def cloudUnableToConnect : Thrown :=
  driverMessage 15 ("Unable to connect to TypeDB Cloud. " ++
    "Attempted connecting to the cloud nodes, but none are available: 'undefined'.")

/-- Here too the address is the first argument. -/
def missingPort : Thrown :=
  driverMessage 23 "Invalid URL 'undefined': missing port."

def braced (addresses : List String) : String :=
  ("".push '{' ++ ", ".intercalate addresses).push '}'

def addressTranslationMismatch (unknown unmapped : List String) : Thrown :=
  driverMessage 24
    ("Address translation map does not match the server's advertised address list. " ++
    "User-provided servers not in the advertised list: " ++ braced unknown ++
    ". Advertised servers not mapped by user: " ++ braced unmapped ++ ".")

structure RequestTransmitter where
  isOpen : Bool := true
  deriving DecidableEq, Repr

structure Stub where
  address : String
  isClosed : Bool := false
  deriving DecidableEq, Repr

structure ServerDriver where
  address : String
  stub : Stub
  transmitter : RequestTransmitter
  deriving DecidableEq, Repr

namespace ServerDriver

def new (address : String) (stub : Stub) : ServerDriver :=
  ⟨address, stub, {}⟩

def close (server : ServerDriver) : ServerDriver :=
  { server with stub := { server.stub with isClosed := true } }

end ServerDriver

inductive Addresses where
  | list (addresses : List String)
  /-- From the addresses to connect to, to those that the servers advertise. -/
  | record (translation : Record String)

namespace Addresses

def values : Addresses → List String
  | .list addresses => addresses
  | .record translation => translation.values

end Addresses

structure TypeDBDriverImpl where
  initAddresses : Addresses
  isCloud : Bool
  isOpen : Bool := false
  serverDrivers : Record ServerDriver := ∅

def hasPort : List Char → Bool
  | [] => false
  | char :: rest =>
    (char == ':' && rest.head?.any Char.isDigit) || hasPort rest

def TypeDBDriverImpl.new (addresses : Addresses) (isCloud : Bool) :
    Except Thrown TypeDBDriverImpl :=
  if addresses.values.all fun address => hasPort address.toList then
    .ok { initAddresses := addresses, isCloud }
  else .error missingPort

/-- What the driver waits for: a method of a stub with this address, or the first of several stubs
that is open. -/
inductive Call where
  | stubOpen (address : String)
  | serversAll (address : String)
  | anyOpen (addresses : List String)
  deriving DecidableEq, Repr

abbrev Answer : Call → Type
  | .stubOpen _ => Unit
  | .serversAll _ => List String
  | .anyOpen _ => Unit

abbrev Reply (call : Call) : Type := Except Thrown (Answer call)

abbrev Async (α : Type) := Process Call Reply TypeDBDriverImpl Thrown α

def await (call : Call) : Async (Answer call) :=
  fun driver => .call call fun reply => .pure (reply, driver)

def fetchCloudServerAddressesFrom : List String → Async (List String)
  | [] => throw cloudUnableToConnect
  | address :: rest => do
      try
        await (.stubOpen address)
        await (.serversAll address)
      catch _ => fetchCloudServerAddressesFrom rest

/-- Of a translation, the values are tried. -/
def fetchCloudServerAddresses : Async (List String) := do
  fetchCloudServerAddressesFrom (← get).initAddresses.values

def publicAddress (translation : Record String) (privateAddress : String) : Option String :=
  translation.keys.find? fun key => translation.lookup key == some privateAddress

/-- `!publicAddress`: an empty text counts as none. -/
def isUnmapped (translation : Record String) (privateAddress : String) : Bool :=
  (publicAddress translation privateAddress).all (· == "")

def addressTranslation (serverAddresses : List String) : Addresses → Except Thrown (Record String)
  | .list _ => .ok (serverAddresses.foldl (fun record address => record.insert address address) ∅)
  | .record translation =>
    let unknown := translation.values.filter fun address => ! serverAddresses.contains address
    let unmapped := serverAddresses.filter (isUnmapped translation)
    if unknown ≠ [] ∨ unmapped ≠ [] then .error (addressTranslationMismatch unknown unmapped)
    else .ok translation

/-- The loop that makes the server drivers: a server has its key for an id, and its stub connects to
the value. -/
def setServerDrivers (serverDrivers : Record ServerDriver)
    (entries : List (Sigma fun _ : String => String)) : Record ServerDriver :=
  entries.foldl
    (fun drivers entry => drivers.insert entry.1 (.new entry.2 { address := entry.2 }))
    serverDrivers

/-- `Promise.any` is rejected when there are no promises, or all of them are rejected. -/
def anyOpen : List String → Async Unit
  | [] => throw cloudUnableToConnect
  | addresses => do
      try await (.anyOpen addresses)
      catch _ => throw cloudUnableToConnect

def connect (translation : Record String) : Async Unit := do
  modify fun driver =>
    { driver with serverDrivers := setServerDrivers driver.serverDrivers translation.entries }
  anyOpen translation.values
  modify fun driver => { driver with isOpen := true }

def openCloud : Async Unit := do
  let serverAddresses ← fetchCloudServerAddresses
  match addressTranslation serverAddresses (← get).initAddresses with
  | .ok translation => connect translation
  | .error mismatch => throw mismatch

/-- The first of the addresses is connected to, under the id that its server gives itself. -/
def openCore : Async Unit := do
  match (← get).initAddresses with
  | .list (serverAddress :: _) =>
    await (.stubOpen serverAddress)
    match ← await (.serversAll serverAddress) with
    | advertisedAddress :: _ =>
      modify fun driver =>
        { driver with
          isOpen := true
          serverDrivers := driver.serverDrivers.insert advertisedAddress
            (.new serverAddress { address := serverAddress }) }
    | [] => throw .typeError
  | _ => throw .typeError

def TypeDBDriverImpl.open : Async Unit := do
  if (← get).isCloud then openCloud else openCore

/-- The server driver of a replica, as `fetchReplicas`, `of` and the loops over the replicas look it
up. -/
def TypeDBDriverImpl.serverDriverOf (driver : TypeDBDriverImpl) (replica : Replica) :
    Option ServerDriver :=
  driver.serverDrivers.lookup replica.server

end TypeDBDriver.Nodejs.Connection
