import TypeDBDriver.Nodejs.Connection

/-! The sessions of the Node.js driver on the event loop. A step is one event: a call by the
application, a timer that fires, or the reply that a waiting function gets. It lasts until the
function waits again or returns; what is then left of the function is a task. -/

namespace TypeDBDriver.Nodejs.Connection

open Library

/-- Why a session is opened: by `TypeDBDriverImpl.session`, or in the `catch` of `transaction`. -/
inductive Purpose where
  | session
  | reconnect
  deriving DecidableEq, Repr

/-- Who called `closeResources`: `close` for the application, `close` in the `catch` of
`transaction`, or `pulse`. -/
inductive Closer where
  | application
  | reconnect
  | pulse
  deriving DecidableEq, Repr

inductive Task where
  /-- `openAt` waits for the server. -/
  | sessionOpen (server : String) (purpose : Purpose)
  /-- `reopenAt` waits for a callback. -/
  | onReopen (index : Nat)
  /-- `transaction` waits for `transaction.open`, for the second time within `runFailsafe`. -/
  | transactionOpen (transaction : Nat) (again : Bool)
  /-- `closeResources` waits for a callback of a transaction. -/
  | transactionOnClose (transaction index : Nat) (closer : Closer)
  /-- `closeResources` waits for a callback of the session. -/
  | onClose (index : Nat) (closer : Closer)
  /-- `close` waits for the server. -/
  | sessionClose (closer : Closer)
  /-- `pulse` waits for the server. -/
  | sessionPulse
  /-- `close` of a transaction or of its stream waits for a callback. -/
  | streamOnClose (transaction index : Nat) (ofTransaction : Bool)
  deriving DecidableEq, Repr

/-- A callback that is pushed to `_onClose` goes by its index. -/
structure TypeDBTransactionImpl where
  /-- Of its stream. -/
  isOpen : Bool := true
  /-- The promise of `open` is fulfilled. -/
  opened : Bool := false
  onClose : Nat := 0
  deriving DecidableEq, Repr

structure TypeDBSessionImpl where
  isOpen : Bool := false
  id : Option String := none
  serverDriver : Option String := none
  /-- The handle of the timer that was set last. -/
  pulse : Option Nat := none
  transactions : List Nat := []
  onClose : Nat := 0
  onReopen : Nat := 0
  /-- The timers that are pending, and how many were set. -/
  timers : List Nat := []
  timersSet : Nat := 0
  /-- The transactions that were made, in `transactions` or not. -/
  made : List TypeDBTransactionImpl := []
  /-- The callbacks that were registered while the session was open and were not called since it
  was opened. -/
  due : List Nat := []
  tasks : List Task := []
  deriving DecidableEq, Repr

namespace TypeDBSessionImpl

def setPulse (session : TypeDBSessionImpl) : TypeDBSessionImpl :=
  { session with
    pulse := some session.timersSet
    timers := session.timersSet :: session.timers
    timersSet := session.timersSet + 1 }

def clearTimeout (session : TypeDBSessionImpl) : TypeDBSessionImpl :=
  match session.pulse with
  | some timer => { session with timers := session.timers.erase timer }
  | none => session

def openAt (server id : String) (session : TypeDBSessionImpl) : TypeDBSessionImpl :=
  setPulse { session with
    id := some id
    serverDriver := some server
    isOpen := true
    due := List.range session.onClose }

def setClosed (session : TypeDBSessionImpl) : TypeDBSessionImpl :=
  { session with isOpen := false }

def closeStream (transaction : Nat) (session : TypeDBSessionImpl) : TypeDBSessionImpl :=
  { session with made := session.made.modify transaction fun made => { made with isOpen := false } }

def closed (transaction : Nat) (session : TypeDBSessionImpl) : TypeDBSessionImpl :=
  { session with transactions := session.transactions.filter (· ≠ transaction) }

def add (transaction : Nat) (session : TypeDBSessionImpl) : TypeDBSessionImpl :=
  { session with
    transactions := session.transactions ++ [transaction]
    made := session.made.modify transaction fun made => { made with opened := true } }

def callbacksOf (transaction : Nat) (session : TypeDBSessionImpl) : Nat :=
  ((session.made[transaction]?).map (·.onClose)).getD 0

def call (index : Nat) (session : TypeDBSessionImpl) : TypeDBSessionImpl :=
  { session with due := session.due.filter (· ≠ index) }

def wait (task : Task) (session : TypeDBSessionImpl) : TypeDBSessionImpl :=
  { session with tasks := session.tasks ++ [task] }

def removeTask (index : Nat) (session : TypeDBSessionImpl) : TypeDBSessionImpl :=
  { session with tasks := session.tasks.eraseIdx index }

/-- A new transaction is opened. -/
def openTransaction (again : Bool) (session : TypeDBSessionImpl) : TypeDBSessionImpl :=
  wait (.transactionOpen session.made.length again) { session with made := session.made ++ [{}] }

def callOnReopen (index : Nat) (session : TypeDBSessionImpl) : TypeDBSessionImpl :=
  if index < session.onReopen then session.wait (.onReopen index)
  else session.openTransaction true

/-- The loop of `BidirectionalStream.close`, and what comes after it in
`TypeDBTransactionImpl.close`. -/
def callStreamOnClose (transaction : Nat) (ofTransaction : Bool) (index : Nat)
    (session : TypeDBSessionImpl) : TypeDBSessionImpl :=
  if index < session.callbacksOf transaction then
    session.wait (.streamOnClose transaction index ofTransaction)
  else if ofTransaction then session.closed transaction
  else session

/-- What `runFailsafe` tries next is a server, or nothing when it gives up. A server that the driver
does not know is undefined, and to read its stub throws. -/
def attempt (servers : List String) (purpose : Purpose) (next : Option String)
    (session : TypeDBSessionImpl) : TypeDBSessionImpl :=
  match next with
  | some server =>
    if server ∈ servers then session.wait (.sessionOpen server purpose) else session
  | none => session

def afterClose (servers : List String) (next : Option String) (closer : Closer)
    (session : TypeDBSessionImpl) : TypeDBSessionImpl :=
  match closer with
  | .reconnect => session.attempt servers .reconnect next
  | .application | .pulse => session

def closingFailed (closer : Closer) (session : TypeDBSessionImpl) : TypeDBSessionImpl :=
  match closer with
  | .pulse => session.setClosed
  | .application | .reconnect => session

end TypeDBSessionImpl

structure View where
  session : TypeDBSessionImpl
  sessions : Record Nat

namespace View

def update (change : TypeDBSessionImpl → TypeDBSessionImpl) (view : View) : View :=
  { view with session := change view.session }

def closeSession (view : View) : View :=
  match view.session.id with
  | some id => { view with sessions := view.sessions.erase id }
  | none => view

/-- What `TypeDBDriverImpl.session` does with an open session. Where the id exists it throws. -/
def addSession (self : Nat) (id : String) (view : View) : View :=
  if (view.sessions.lookup id).isSome then view
  else { view with sessions := view.sessions.insert id self }

def finishClosing (closer : Closer) (view : View) : View :=
  let finished := view.closeSession.update .clearTimeout
  match closer with
  | .pulse => finished
  | .application | .reconnect => finished.update (.wait (.sessionClose closer))

def callOnClose (closer : Closer) (index : Nat) (view : View) : View :=
  if index < view.session.onClose then
    view.update fun session => (session.call index).wait (.onClose index closer)
  else view.finishClosing closer

/-- The loop of `closeResources` over the transactions that are left in the set. Each one has left
the set before the next is visited. -/
def closeTransactions (closer : Closer) : List Nat → View → View
  | [], view => view.callOnClose closer 0
  | transaction :: rest, view =>
    let view := view.update (.closeStream transaction)
    if 0 < view.session.callbacksOf transaction then
      view.update (.wait (.transactionOnClose transaction 0 closer))
    else closeTransactions closer rest (view.update (.closed transaction))

def closeResources (closer : Closer) (view : View) : View :=
  closeTransactions closer view.session.transactions (view.update .setClosed)

def close (servers : List String) (next : Option String) (closer : Closer) (view : View) : View :=
  if view.session.isOpen then view.closeResources closer
  else view.update (.afterClose servers next closer)

end View

inductive Settlement where
  | fulfilled
  | opened (id : String)
  | alive
  | dead
  | rejected
  deriving DecidableEq, Repr

namespace View

def resume (servers : List String) (self : Nat) (next : Option String) (view : View) :
    Task → Settlement → Option View
  | .sessionOpen server .session, .opened id =>
    some ((view.update (.openAt server id)).addSession self id)
  | .sessionOpen server .reconnect, .opened id =>
    some (view.update fun session => (session.openAt server id).callOnReopen 0)
  | .sessionOpen _ purpose, .rejected => some (view.update (.attempt servers purpose next))
  | .onReopen index, .fulfilled => some (view.update (.callOnReopen (index + 1)))
  | .onReopen _, .rejected => some (view.update (.attempt servers .reconnect next))
  | .transactionOpen transaction _, .fulfilled => some (view.update (.add transaction))
  | .transactionOpen transaction false, .rejected =>
    some ((view.update (.closeStream transaction)).close servers next .reconnect)
  | .transactionOpen transaction true, .rejected =>
    some (view.update fun session =>
      (session.closeStream transaction).attempt servers .reconnect next)
  | .transactionOnClose transaction index closer, .fulfilled =>
    if index + 1 < view.session.callbacksOf transaction then
      some (view.update (.wait (.transactionOnClose transaction (index + 1) closer)))
    else
      let view := view.update (.closed transaction)
      some (view.closeTransactions closer view.session.transactions)
  | .transactionOnClose _ _ closer, .rejected => some (view.update (.closingFailed closer))
  | .onClose index closer, .fulfilled => some (view.callOnClose closer (index + 1))
  | .onClose _ closer, .rejected => some (view.update (.closingFailed closer))
  | .sessionClose closer, .fulfilled => some (view.update (.afterClose servers next closer))
  | .sessionPulse, .alive => some (view.update .setPulse)
  | .sessionPulse, .dead => some (view.closeResources .pulse)
  | .sessionPulse, .rejected => some (view.update .setClosed)
  | .streamOnClose transaction index ofTransaction, .fulfilled =>
    some (view.update (.callStreamOnClose transaction ofTransaction (index + 1)))
  | .streamOnClose .., .rejected => some view
  | _, _ => none

end View

inductive Action where
  | close
  | transaction
  | onClose
  | onReopen
  /-- A timer calls `pulse`. -/
  | fire (timer : Nat)
  | transactionClose (transaction : Nat)
  | transactionOnClose (transaction : Nat)
  /-- The stream of a transaction has failed or is done. -/
  | streamClose (transaction : Nat)
  /-- The promise that a task waits for is settled. If `runFailsafe` is to try a server then, it
  tries this one. -/
  | settle (task : Nat) (settlement : Settlement) (next : Option String)
  deriving DecidableEq, Repr

namespace TypeDBSessionImpl

def hasOpened (transaction : Nat) (session : TypeDBSessionImpl) : Bool :=
  (session.made[transaction]?).any (·.opened)

def register (session : TypeDBSessionImpl) : TypeDBSessionImpl :=
  { session with
    onClose := session.onClose + 1
    due := if session.isOpen then session.due ++ [session.onClose] else session.due }

def registerOn (transaction : Nat) (session : TypeDBSessionImpl) : TypeDBSessionImpl :=
  { session with
    made := session.made.modify transaction fun made => { made with onClose := made.onClose + 1 } }

def fire (timer : Nat) (session : TypeDBSessionImpl) : TypeDBSessionImpl :=
  let session := { session with timers := session.timers.erase timer }
  if session.isOpen then session.wait .sessionPulse else session

end TypeDBSessionImpl

namespace View

def step (servers : List String) (self : Nat) (view : View) : Action → Option View
  | .close => some (view.close servers none .application)
  | .transaction =>
    if view.session.isOpen then some (view.update (.openTransaction false)) else some view
  | .onClose => some (view.update .register)
  | .onReopen =>
    some (view.update fun session => { session with onReopen := session.onReopen + 1 })
  | .fire timer => if timer ∈ view.session.timers then some (view.update (.fire timer)) else none
  | .transactionClose transaction =>
    if view.session.hasOpened transaction then
      some (view.update fun session =>
        (session.closeStream transaction).callStreamOnClose transaction true 0)
    else none
  | .transactionOnClose transaction =>
    if view.session.hasOpened transaction then some (view.update (.registerOn transaction))
    else none
  | .streamClose transaction =>
    if transaction < view.session.made.length then
      some (view.update fun session =>
        (session.closeStream transaction).callStreamOnClose transaction false 0)
    else none
  | .settle index settlement next =>
    match view.session.tasks[index]? with
    | some task => (view.update (.removeTask index)).resume servers self next task settlement
    | none => none

end View

/-- `Object.entries` of a `Map`. What is set in the map is no property of it. -/
def objectEntries {α : Type} (_ : Record α) : List (Sigma fun _ : String => α) :=
  []

def TypeDBDriverImpl.close (driver : TypeDBDriverImpl) : TypeDBDriverImpl :=
  if driver.isOpen then
    { driver with
      isOpen := false
      serverDrivers := (objectEntries driver.serverDrivers).foldl
        (fun servers entry => servers.insert entry.1 entry.2.close) driver.serverDrivers }
  else driver

/-- The driver with the sessions that it has made, each of which goes by its index. -/
structure DriverState where
  driver : TypeDBDriverImpl
  /-- The object `_sessions`. -/
  sessions : Record Nat := ∅
  made : List TypeDBSessionImpl := []

inductive Label where
  /-- `session` is called, and `runFailsafe` starts with this server. -/
  | session (next : Option String)
  | close
  | on (session : Nat) (action : Action)
  deriving DecidableEq, Repr

namespace DriverState

def servers (state : DriverState) : List String :=
  state.driver.serverDrivers.keys

def step (state : DriverState) : Label → Option DriverState
  | .session next =>
    if state.driver.isOpen then
      let session := TypeDBSessionImpl.attempt state.servers .session next {}
      some { state with made := state.made ++ [session] }
    else some state
  | .close => some { state with driver := state.driver.close }
  | .on index action =>
    match state.made[index]? with
    | some session =>
      (View.step state.servers index ⟨session, state.sessions⟩ action).map fun view =>
        { state with sessions := view.sessions, made := state.made.set index view.session }
    | none => none

def system : TransitionSystem DriverState Label where
  step := step

end DriverState

end TypeDBDriver.Nodejs.Connection
