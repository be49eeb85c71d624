import TypeDBDriver.Nodejs.BidirectionalStream

/-! How the transactions of a Node.js session are closed: by an error of the stream, by the
application, at the end of `commit`, and together with the session. The callbacks are asynchronous,
and `close` waits for each of them before it calls the next. -/

namespace TypeDBDriver.Nodejs.Closing

open Library

inductive Caller where
  /-- The handler of error events. -/
  | stream
  /-- `TypeDBTransactionImpl.close`, for the application or for `commit`. -/
  | transaction
  /-- `TypeDBTransactionImpl.close`, for `closeResources` of the session. -/
  | session
  deriving DecidableEq, Repr

structure Pending where
  index : Nat
  caller : Caller
  deriving DecidableEq, Repr

/-- A callback that is pushed to `_onClose` goes by its index. -/
structure TypeDBTransactionImpl where
  /-- Of its stream, as `error` and `onClose`. -/
  isOpen : Bool := true
  error : Option CloseError := none
  onClose : Nat := 0
  pending : List Pending := []
  /-- The calls of `commit` that await the server. -/
  commits : Nat := 0
  /-- `open` has returned, so that the application has the transaction. -/
  opened : Bool := false
  /-- With what `BidirectionalStream.close` was called each time. -/
  closes : List (Option CloseError) := []
  /-- How many callbacks were registered before the first close. -/
  early : Nat := 0
  /-- The callbacks that were called, in order. -/
  called : List Nat := []
  /-- The callbacks whose promises were rejected. -/
  rejected : List Nat := []
  deriving DecidableEq, Repr

inductive RequestError where
  | illegalState
  | transactionClosed
  | transactionClosedWithErrors (error : CloseError)
  deriving DecidableEq, Repr

/-- What requests should throw after a close with an error or without one. -/
def RequestError.ofClose (error : Option CloseError) : RequestError :=
  error.elim .transactionClosed .transactionClosedWithErrors

namespace TypeDBTransactionImpl

def callOnClose (transaction : TypeDBTransactionImpl) (caller : Caller) (index : Nat) :
    TypeDBTransactionImpl :=
  if index < transaction.onClose then
    { transaction with
      pending := transaction.pending ++ [⟨index, caller⟩]
      called := transaction.called ++ [index] }
  else transaction

def closeStream (transaction : TypeDBTransactionImpl) (error : Option CloseError)
    (caller : Caller) : TypeDBTransactionImpl :=
  callOnClose { transaction with
    isOpen := false
    error
    closes := transaction.closes ++ [error] } caller 0

def resume (transaction : TypeDBTransactionImpl) (place : Nat) : TypeDBTransactionImpl :=
  match transaction.pending[place]? with
  | some waiting =>
    callOnClose { transaction with pending := transaction.pending.eraseIdx place } waiting.caller
      (waiting.index + 1)
  | none => transaction

def reject (transaction : TypeDBTransactionImpl) (place : Nat) : TypeDBTransactionImpl :=
  match transaction.pending[place]? with
  | some waiting =>
    { transaction with
      pending := transaction.pending.eraseIdx place
      rejected := transaction.rejected ++ [waiting.index] }
  | none => transaction

def register (transaction : TypeDBTransactionImpl) : TypeDBTransactionImpl :=
  { transaction with
    onClose := transaction.onClose + 1
    early := if transaction.closes = [] then transaction.early + 1 else transaction.early }

def getError (transaction : TypeDBTransactionImpl) : Option CloseError :=
  transaction.error

/-- An error is an object, so it counts as true. -/
def throwTransactionClosed (transaction : TypeDBTransactionImpl) : RequestError :=
  if transaction.isOpen then .illegalState
  else
    match transaction.getError with
    | none => .transactionClosed
    | some error => .transactionClosedWithErrors error

def checkOpen (transaction : TypeDBTransactionImpl) : Except RequestError Unit :=
  if transaction.isOpen then .ok () else .error transaction.throwTransactionClosed

end TypeDBTransactionImpl

structure TypeDBSessionImpl where
  isOpen : Bool := true
  /-- The set `_transactions`. -/
  transactions : List Nat := []
  /-- All transactions that were made, each of which goes by its index. -/
  made : List TypeDBTransactionImpl := []
  deriving DecidableEq, Repr

namespace TypeDBSessionImpl

def update (session : TypeDBSessionImpl) (transaction : Nat)
    (change : TypeDBTransactionImpl → TypeDBTransactionImpl) : TypeDBSessionImpl :=
  { session with made := session.made.modify transaction change }

def callbacks (session : TypeDBSessionImpl) (transaction : Nat) : Nat :=
  ((session.made[transaction]?).map (·.onClose)).getD 0

def closed (session : TypeDBSessionImpl) (transaction : Nat) : TypeDBSessionImpl :=
  { session with transactions := session.transactions.filter (· ≠ transaction) }

/-- The loop of `closeResources` over the transactions. Each one has left the set before the next
is visited. -/
def closeTransactions : List Nat → TypeDBSessionImpl → TypeDBSessionImpl
  | [], session => session
  | transaction :: rest, session =>
    let session := session.update transaction (·.closeStream none .session)
    if 0 < session.callbacks transaction then session
    else closeTransactions rest (session.closed transaction)

def closeResources (session : TypeDBSessionImpl) : TypeDBSessionImpl :=
  closeTransactions session.transactions { session with isOpen := false }

def afterClose (session : TypeDBSessionImpl) (transaction : Nat) (caller : Caller) :
    TypeDBSessionImpl :=
  match caller with
  | .stream => session
  | .transaction => session.closed transaction
  | .session =>
    let session := session.closed transaction
    closeTransactions session.transactions session

def closeStream (session : TypeDBSessionImpl) (transaction : Nat) (error : Option CloseError)
    (caller : Caller) : TypeDBSessionImpl :=
  let session := session.update transaction (·.closeStream error caller)
  if 0 < session.callbacks transaction then session else session.afterClose transaction caller

def closeTransaction (session : TypeDBSessionImpl) (transaction : Nat) : TypeDBSessionImpl :=
  session.closeStream transaction none .transaction

inductive Label where
  /-- The stream of a new transaction is opened. -/
  | open
  /-- `open` of the transaction returns. -/
  | opened (transaction : Nat)
  | onClose (transaction : Nat)
  | close (transaction : Nat)
  | commit (transaction : Nat)
  /-- The request of a call of `commit` is answered or has failed. -/
  | committed (transaction : Nat)
  | errorEvent (transaction : Nat) (error : CloseError)
  | sessionClose
  /-- `pulse` learns that the session is not alive. -/
  | pulse
  /-- The promise of a callback is fulfilled or rejected. -/
  | settle (transaction place : Nat) (fulfilled : Bool)
  deriving DecidableEq, Repr

def openedTransaction (session : TypeDBSessionImpl) (transaction : Nat) :
    Option TypeDBTransactionImpl :=
  (session.made[transaction]?).filter (·.opened)

def step (session : TypeDBSessionImpl) : Label → Option TypeDBSessionImpl
  | .open => some { session with made := session.made ++ [{}] }
  | .opened transaction =>
    if session.made[transaction]?.any (!·.opened) then
      some { session.update transaction ({ · with opened := true }) with
        transactions := session.transactions ++ [transaction] }
    else none
  | .onClose transaction => do
      let _ ← session.openedTransaction transaction
      some (session.update transaction (·.register))
  | .close transaction => do
      let _ ← session.openedTransaction transaction
      some (session.closeTransaction transaction)
  | .commit transaction => do
      let impl ← session.openedTransaction transaction
      match impl.checkOpen with
      | .ok () =>
        some (session.update transaction fun impl => { impl with commits := impl.commits + 1 })
      | .error _ => some (session.closeTransaction transaction)
  | .committed transaction => do
      let impl ← session.openedTransaction transaction
      if 0 < impl.commits then
        some ((session.update transaction fun impl =>
          { impl with commits := impl.commits - 1 }).closeTransaction transaction)
      else none
  | .errorEvent transaction error =>
    if transaction < session.made.length then
      some (session.closeStream transaction (some error) .stream)
    else none
  | .sessionClose => some (if session.isOpen then session.closeResources else session)
  | .pulse => some session.closeResources
  | .settle transaction place fulfilled => do
      let impl ← session.made[transaction]?
      let waiting ← impl.pending[place]?
      if fulfilled then
        let session := session.update transaction (·.resume place)
        if waiting.index + 1 < session.callbacks transaction then some session
        else some (session.afterClose transaction waiting.caller)
      else some (session.update transaction (·.reject place))

def system : TransitionSystem TypeDBSessionImpl Label where
  step := step

end TypeDBSessionImpl

end TypeDBDriver.Nodejs.Closing
