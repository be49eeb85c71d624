import TypeDBDriver.Library.ProxyProtocol

/-! The Java objects that wrap native handles. A proxy that gives up its object with `released`
forgets the pointer; the proxy of a promise keeps it when the promise is resolved. -/

namespace TypeDBDriver.Java

open Library

inductive Kind where
  | transaction
  | database
  | user
  | promise
  deriving DecidableEq, Repr

inductive ErrorMessage where
  | transactionClosed
  | databaseDeleted
  | missingQuery
  deriving DecidableEq, Repr

inductive Exception where
  /-- `TypeDBDriverException(ErrorMessage)` -/
  | driver (message : ErrorMessage)
  /-- `TypeDBDriverException(Throwable)` -/
  | driverOf
  /-- `com.typedb.driver.jni.Error` -/
  | error
  /-- `com.typedb.driver.jni.Error.Unchecked` -/
  | unchecked
  deriving DecidableEq, Repr

def Exception.isDriver : Exception → Bool
  | .driver _ | .driverOf => true
  | .error | .unchecked => false

inductive Value where
  | void
  | bool (value : Bool)
  | text
  | promise
  | answer
  deriving DecidableEq, Repr

inductive NativeFunction where
  | transactionQuery
  | transactionIsOpen
  | transactionOnClose
  | transactionCommit
  | transactionRollback
  | transactionForceClose
  | transactionDrop
  | databaseGetName
  | databaseSchema
  | databaseTypeSchema
  | databaseDelete
  | databaseDrop
  | userGetName
  | userUpdatePassword
  | userDelete
  | userDrop
  | queryAnswerPromiseResolve
  | voidPromiseResolve
  deriving DecidableEq, Repr

namespace NativeFunction

/-- The functions that end the life of the object they are given. The reference that
`database_schema` and `database_type_schema` take over is the subject of `Ffi.DatabaseApi`. -/
def consumes : NativeFunction → Bool
  | .transactionCommit | .databaseDelete | .userDelete | .queryAnswerPromiseResolve
  | .voidPromiseResolve | .transactionDrop | .databaseDrop | .userDrop => true
  | _ => false

/-- The functions without `%nojavaexception`, whose wrapper throws what the call reports. -/
def throws : NativeFunction → Bool
  | .transactionIsOpen | .transactionCommit | .transactionRollback | .transactionDrop
  | .databaseGetName | .databaseDrop | .userGetName | .userDrop => false
  | _ => true

end NativeFunction

abbrev State := ProxyState Kind

section Methods

-- `isWhitespace` is the test of `String.isBlank`; `fails` says which native calls report an error
variable (isWhitespace : Char → Bool) (fails : NativeFunction → Bool)
  (object : Nat) (proxy : Proxy Kind)

def jni (fn : NativeFunction) (pointer : Option Handle) : Body Kind Exception Unit :=
  Body.native .error (fails fn && fn.throws) fn.consumes pointer

def released : Body Kind Exception (Option Handle) := do
  if proxy.owned then Body.store object { proxy with pointer := none, owned := false }
  return proxy.pointer

def unchecking (body : Body Kind Exception Unit) : Body Kind Exception Unit :=
  Body.translating (fun
    | .error => .unchecked
    | raised => raised) body

def voidPromiseGet : Body Kind Exception Unit := do
  let promise ← Body.issue
  unchecking (jni fails .voidPromiseResolve promise)

def queryAnswerPromiseGet : Body Kind Exception Unit := do
  Body.store object { proxy with owned := false }
  unchecking (jni fails .queryAnswerPromiseResolve proxy.pointer)

/-- `catch (Error e)` or `catch (Error.Unchecked e)` around a body that throws no other kind. -/
def wrapping (body : Body Kind Exception Value) : Body Kind Exception Value :=
  Body.translating (fun
    | .error | .unchecked => .driverOf
    | raised => raised) body

def checkOwned (notOwned : ErrorMessage) : Body Kind Exception Unit := do
  if !proxy.owned then throw (.driver notOwned)

def isOpen (answer : Bool) : Body Kind Exception Value := do
  if !proxy.owned then return .bool false
  jni fails .transactionIsOpen proxy.pointer
  return .bool answer

/-- `query == null || query.isBlank()` -/
def isMissing (text : Option String) : Bool :=
  text.all fun query => query.toList.all isWhitespace

/-- It does not ask whether the transaction is owned. -/
def query (text : Option String) : Body Kind Exception Value := do
  if isMissing isWhitespace text then throw (.driver .missingQuery)
  wrapping do
    jni fails .transactionQuery proxy.pointer
    Body.allocate .promise
    return .promise

def onClose : Body Kind Exception Value := do
  checkOwned proxy .transactionClosed
  wrapping do
    jni fails .transactionOnClose proxy.pointer
    return .void

def commit : Body Kind Exception Value := do
  checkOwned proxy .transactionClosed
  wrapping do
    let pointer ← released object proxy
    jni fails .transactionCommit pointer
    voidPromiseGet fails
    return .void

def rollback : Body Kind Exception Value := do
  checkOwned proxy .transactionClosed
  wrapping do
    jni fails .transactionRollback proxy.pointer
    voidPromiseGet fails
    return .void

def close : Body Kind Exception Value := do
  if !proxy.owned then return .void
  wrapping do
    jni fails .transactionForceClose proxy.pointer
    return .void

def databaseName : Body Kind Exception Value := do
  checkOwned proxy .databaseDeleted
  jni fails .databaseGetName proxy.pointer
  return .text

def schema : Body Kind Exception Value := do
  checkOwned proxy .databaseDeleted
  wrapping do
    jni fails .databaseSchema proxy.pointer
    return .text

def typeSchema : Body Kind Exception Value := do
  checkOwned proxy .databaseDeleted
  wrapping do
    jni fails .databaseTypeSchema proxy.pointer
    return .text

def databaseDelete : Body Kind Exception Value := do
  checkOwned proxy .databaseDeleted
  wrapping do
    let pointer ← released object proxy
    jni fails .databaseDelete pointer
    return .void

def userName : Body Kind Exception Value := do
  jni fails .userGetName proxy.pointer
  return .text

def updatePassword : Body Kind Exception Value := wrapping do
  jni fails .userUpdatePassword proxy.pointer
  return .void

def userDelete : Body Kind Exception Value := wrapping do
  let pointer ← released object proxy
  jni fails .userDelete pointer
  return .void

def resolve : Body Kind Exception Value := wrapping do
  queryAnswerPromiseGet fails object proxy
  return .answer

end Methods

inductive Method where
  | isOpen (answer : Bool)
  | query (text : Option String)
  | onClose
  | commit
  | rollback
  | close
  | databaseName
  | schema
  | typeSchema
  | databaseDelete
  | userName
  | updatePassword
  | userDelete
  | resolve

namespace Method

def kind : Method → Kind
  | .isOpen _ | .query _ | .onClose | .commit | .rollback | .close => .transaction
  | .databaseName | .schema | .typeSchema | .databaseDelete => .database
  | .userName | .updatePassword | .userDelete => .user
  | .resolve => .promise

def body (isWhitespace : Char → Bool) (fails : NativeFunction → Bool) (object : Nat)
    (proxy : Proxy Kind) : Method → Body Kind Exception Value
  | .isOpen answer => Java.isOpen fails proxy answer
  | .query text => Java.query isWhitespace fails proxy text
  | .onClose => Java.onClose fails proxy
  | .commit => Java.commit fails object proxy
  | .rollback => Java.rollback fails proxy
  | .close => Java.close fails proxy
  | .databaseName => Java.databaseName fails proxy
  | .schema => Java.schema fails proxy
  | .typeSchema => Java.typeSchema fails proxy
  | .databaseDelete => Java.databaseDelete fails object proxy
  | .userName => Java.userName fails proxy
  | .updatePassword => Java.updatePassword fails proxy
  | .userDelete => Java.userDelete fails object proxy
  | .resolve => Java.resolve fails object proxy

/-- `isOpen` and `close` have an answer for an object whose handle is gone. -/
def needsHandle : Method → Bool
  | .isOpen _ | .close => false
  | _ => true

/-- The methods that do not ask `isOwned` before the native call. -/
def unchecked (isWhitespace : Char → Bool) : Method → Bool
  | .query text => !isMissing isWhitespace text
  | .userName | .updatePassword | .userDelete | .resolve => true
  | _ => false

end Method

def Kind.drop : Kind → NativeFunction
  | .transaction => .transactionDrop
  | .database => .databaseDrop
  | .user => .userDrop
  | .promise => .queryAnswerPromiseResolve

/-- `delete` of the proxy, as `finalize` calls it. A promise that was never resolved is resolved
now, and if that throws the pointer stays. -/
def delete (fails : Bool) (object : Nat) (proxy : Proxy Kind) :
    Body Kind Exception Unit := do
  if proxy.pointer.isSome then
    if proxy.owned then
      if proxy.kind = .promise then queryAnswerPromiseGet (fun _ => fails) object proxy
      else
        Body.store object { proxy with owned := false }
        jni (fun _ => fails) proxy.kind.drop proxy.pointer
    Body.store object { proxy with pointer := none, owned := false }

def finalize (fails : Bool) (object : Nat) (proxy : Proxy Kind) :
    Body Kind Exception Value := do
  Body.store object { proxy with collected := true }
  delete fails object { proxy with collected := true }
  return .void

inductive Creation where
  | openTransaction
  | getDatabase
  | getUser

def create : Creation → Body Kind Exception Value
  | .openTransaction => do
      Body.allocate .transaction
      return .void
  | .getDatabase => do
      Body.allocate .database
      return .void
  | .getUser => do
      Body.allocate .user
      return .void

structure Call where
  method : Method
  /-- The native functions that report an error during the call. -/
  fails : NativeFunction → Bool

def protocol (isWhitespace : Char → Bool) :
    ProxyProtocol Kind Creation Call Exception Value where
  create := create
  kind call := call.method.kind
  body call object proxy := call.method.body isWhitespace call.fails object proxy
  finalize := finalize

abbrev Label := ProxyProtocol.Label Creation Call

/-- What the protocol asks of a call: it passes no null pointer and no consumed handle to a
native function, and throws a `TypeDBDriverException` where it would need one. -/
def Protected (isWhitespace : Char → Bool) : State → Label → Prop :=
  (protocol isWhitespace).Protected (·.method.needsHandle) Exception.isDriver

/-- No query is sent on a transaction, no method called on a user and no promise resolved whose
handle an earlier call has consumed. -/
def ChecksBeforeUse (isWhitespace : Char → Bool) (state : State) (label : Label) : Prop :=
  (protocol isWhitespace).checksBeforeUse (·.method.unchecked isWhitespace) state label = true

end TypeDBDriver.Java
