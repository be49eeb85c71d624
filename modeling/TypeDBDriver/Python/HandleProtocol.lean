import TypeDBDriver.Library.ProxyProtocol

/-! The Python objects that wrap native handles: transactions, databases, users, and the
promises of queries. The flag of a SWIG proxy, `thisown`, only says whether the finalizer frees
the native object; the proxy keeps its pointer when the flag is cleared. -/

namespace TypeDBDriver.Python

open Library

inductive Kind where
  | transaction
  | database
  | user
  | promise
  deriving DecidableEq, Repr

inductive ErrorMessage where
  | transactionClosed
  | databaseDeleted
  | illegalState
  | missingQuery
  deriving DecidableEq, Repr

inductive Exception where
  /-- `TypeDBDriverException(message)` -/
  | driver (message : ErrorMessage)
  /-- `TypeDBDriverException.of(exception)` -/
  | driverOf
  /-- `TypeDBDriverExceptionNative`, which the SWIG wrapper raises for an error of a call. -/
  | native
  deriving DecidableEq, Repr

def Exception.isDriver : Exception → Bool
  | .driver _ | .driverOf => true
  | .native => false

inductive Value where
  | none
  | bool (value : Bool)
  | text
  | promise
  deriving DecidableEq, Repr

inductive NativeFunction where
  | transactionQuery
  | transactionIsOpen
  | transactionOnClose
  | transactionCommit
  | transactionRollback
  | transactionForceClose
  | transactionDrop
  | databaseGetName
  | databaseSchema
  | databaseTypeSchema
  | databaseDelete
  | databaseDrop
  | userGetName
  | userUpdatePassword
  | userDelete
  | userDrop
  | queryAnswerPromiseResolve
  | queryAnswerPromiseDrop
  | voidPromiseResolve
  deriving DecidableEq, Repr

namespace NativeFunction

/-- The functions that end the life of the object they are given. The reference that
`database_schema` and `database_type_schema` take over is the subject of `Ffi.DatabaseApi`. -/
def consumes : NativeFunction → Bool
  | .transactionCommit | .databaseDelete | .userDelete | .queryAnswerPromiseResolve
  | .voidPromiseResolve | .transactionDrop | .databaseDrop | .userDrop
  | .queryAnswerPromiseDrop => true
  | _ => false

/-- `%delobject` in the interface file: the wrapper clears `thisown` of its argument. -/
def delobject : NativeFunction → Bool
  | .transactionCommit | .databaseDelete | .userDelete | .queryAnswerPromiseResolve
  | .queryAnswerPromiseDrop | .voidPromiseResolve => true
  | _ => false

end NativeFunction

abbrev State := ProxyState Kind

section Methods

-- `isSpace` is `str.isspace` of one character; `fails` says which native calls report an error
variable (isSpace : Char → Bool) (fails : NativeFunction → Bool)
  (object : Nat) (proxy : Proxy Kind)

def swig (fn : NativeFunction) : Body Kind Exception Unit := do
  if fn.delobject then Body.store object { proxy with owned := false }
  Body.native .native (fails fn) fn.consumes proxy.pointer

def voidPromiseResolve : Body Kind Exception Unit := do
  let promise ← Body.issue
  Body.native .native (fails .voidPromiseResolve) true promise

def nativeObject (notOwned : ErrorMessage) : Body Kind Exception Unit := do
  if !proxy.owned then throw (.driver notOwned)

/-- `except TypeDBDriverExceptionNative as e: raise TypeDBDriverException.of(e)`. -/
def wrapping (body : Body Kind Exception Value) : Body Kind Exception Value :=
  Body.translating (fun
    | .native => .driverOf
    | raised => raised) body

def setThisown (thisown : Bool) : Body Kind Exception Unit :=
  Body.store object { proxy with owned := thisown }

def checkQuery (text : String) : Body Kind Exception Unit := do
  if text.toList.all isSpace then throw (.driver .missingQuery)

def query (text : String) : Body Kind Exception Value := do
  checkQuery isSpace text
  nativeObject proxy .transactionClosed
  swig fails object proxy .transactionQuery
  Body.allocate .promise
  return .promise

def isOpen (answer : Bool) : Body Kind Exception Value := do
  if !proxy.owned then return .bool false
  nativeObject proxy .transactionClosed
  swig fails object proxy .transactionIsOpen
  return .bool answer

def onClose : Body Kind Exception Value := do
  nativeObject proxy .transactionClosed
  swig fails object proxy .transactionOnClose
  return .none

/-- It reads the private field, not the property. -/
def commit : Body Kind Exception Value := wrapping do
  setThisown object proxy false
  swig fails object proxy .transactionCommit
  voidPromiseResolve fails
  return .none

def rollback : Body Kind Exception Value := wrapping do
  nativeObject proxy .transactionClosed
  swig fails object proxy .transactionRollback
  voidPromiseResolve fails
  return .none

def close : Body Kind Exception Value := do
  if proxy.owned then swig fails object proxy .transactionForceClose
  return .none

def databaseName : Body Kind Exception Value := do
  if !proxy.owned then throw (.driver .databaseDeleted)
  return .text

def schema : Body Kind Exception Value := wrapping do
  nativeObject proxy .databaseDeleted
  swig fails object proxy .databaseSchema
  return .text

def typeSchema : Body Kind Exception Value := wrapping do
  nativeObject proxy .databaseDeleted
  swig fails object proxy .databaseTypeSchema
  return .text

/-- It reads the private field, not the property. -/
def databaseDelete : Body Kind Exception Value := wrapping do
  setThisown object proxy false
  swig fails object proxy .databaseDelete
  return .none

def userName : Body Kind Exception Value := do
  nativeObject proxy .illegalState
  swig fails object proxy .userGetName
  return .text

def updatePassword : Body Kind Exception Value := wrapping do
  nativeObject proxy .illegalState
  swig fails object proxy .userUpdatePassword
  return .none

def userDelete : Body Kind Exception Value := wrapping do
  nativeObject proxy .illegalState
  swig fails object proxy .userDelete
  return .none

/-- `Promise.resolve` on the promise of a query, whose closure holds the SWIG proxy itself. -/
def resolve : Body Kind Exception Value := wrapping do
  swig fails object proxy .queryAnswerPromiseResolve
  return .none

end Methods

inductive Method where
  | query (text : String)
  | isOpen (answer : Bool)
  | onClose
  | commit
  | rollback
  | close
  | databaseName
  | schema
  | typeSchema
  | databaseDelete
  | userName
  | updatePassword
  | userDelete
  | resolve

namespace Method

def kind : Method → Kind
  | .query _ | .isOpen _ | .onClose | .commit | .rollback | .close => .transaction
  | .databaseName | .schema | .typeSchema | .databaseDelete => .database
  | .userName | .updatePassword | .userDelete => .user
  | .resolve => .promise

def body (isSpace : Char → Bool) (fails : NativeFunction → Bool) (object : Nat)
    (proxy : Proxy Kind) : Method → Body Kind Exception Value
  | .query text => Python.query isSpace fails object proxy text
  | .isOpen answer => Python.isOpen fails object proxy answer
  | .onClose => Python.onClose fails object proxy
  | .commit => Python.commit fails object proxy
  | .rollback => Python.rollback fails object proxy
  | .close => Python.close fails object proxy
  | .databaseName => Python.databaseName proxy
  | .schema => Python.schema fails object proxy
  | .typeSchema => Python.typeSchema fails object proxy
  | .databaseDelete => Python.databaseDelete fails object proxy
  | .userName => Python.userName fails object proxy
  | .updatePassword => Python.updatePassword fails object proxy
  | .userDelete => Python.userDelete fails object proxy
  | .resolve => Python.resolve fails object proxy

/-- `is_open` and `close` have an answer for an object whose handle is gone. -/
def needsHandle : Method → Bool
  | .isOpen _ | .close => false
  | _ => true

/-- The methods that do not look at `thisown` before the native call. -/
def unchecked : Method → Bool
  | .commit | .databaseDelete | .resolve => true
  | _ => false

end Method

def Kind.drop : Kind → NativeFunction
  | .transaction => .transactionDrop
  | .database => .databaseDrop
  | .user => .userDrop
  | .promise => .queryAnswerPromiseDrop

def finalize (object : Nat) (proxy : Proxy Kind) : Body Kind Exception Value := do
  Body.store object { proxy with owned := false, collected := true }
  if proxy.owned then Body.native .native false proxy.kind.drop.consumes proxy.pointer
  return .none

/-- `_Database.__init__` asks for the name at once. -/
def createDatabase (fails : NativeFunction → Bool) : Body Kind Exception Value := do
  let state ← get
  Body.allocate .database
  Body.native .native (fails .databaseGetName) NativeFunction.databaseGetName.consumes
    (some state.issued)
  return .none

inductive Creation where
  | openTransaction
  | getDatabase (fails : NativeFunction → Bool)
  | getUser

def create : Creation → Body Kind Exception Value
  | .openTransaction => do
      Body.allocate .transaction
      return .none
  | .getDatabase fails => createDatabase fails
  | .getUser => do
      Body.allocate .user
      return .none

structure Call where
  method : Method
  /-- The native functions that report an error during the call. -/
  fails : NativeFunction → Bool

def protocol (isSpace : Char → Bool) : ProxyProtocol Kind Creation Call Exception Value where
  create := create
  kind call := call.method.kind
  body call object proxy := call.method.body isSpace call.fails object proxy
  finalize _ := finalize

abbrev Label := ProxyProtocol.Label Creation Call

/-- What the protocol asks of a call: it passes no consumed handle to a native function, and
raises a `TypeDBDriverException` where it would need one. -/
def Protected (isSpace : Char → Bool) : State → Label → Prop :=
  (protocol isSpace).Protected (·.method.needsHandle) Exception.isDriver

/-- `commit`, `Database.delete` and the `resolve` of a query promise are not called on an object
whose handle an earlier call has consumed. -/
def ChecksBeforeUse (isSpace : Char → Bool) (state : State) (label : Label) : Prop :=
  (protocol isSpace).checksBeforeUse (·.method.unchecked) state label = true

end TypeDBDriver.Python
