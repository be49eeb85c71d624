import TypeDBDriver.Ffi.Strings
import TypeDBDriver.Network.TransactionTransmitter

/-! The functions that Python registers with `Transaction.on_close`: the director objects in the
map that all transactions of a process share, and what a director does when the callback handler
of the native side executes it. -/

namespace TypeDBDriver.Python

open Library

inductive Crash where
  /-- The accessor dereferences a null pointer. -/
  | nullPointer
  /-- The accessor panics. -/
  | panic
  deriving DecidableEq, Repr

def accessor (read : Error → Exported CharPointer) : Option Error → Except Crash CharPointer
  | none => .error .nullPointer
  | some error =>
    match read error with
    | .ok text => .ok text
    | .error cause => nomatch cause
    | .panicked => .error .panic

structure TypeDBException where
  code : CharPointer
  message : CharPointer

/-- `TransactionOnClose.callback` up to the call of the function. -/
def callback (texts : ErrorText) (error : Option Error) : Except Crash TypeDBException := do
  let code ← accessor (Native.errorCode texts) error
  let message ← accessor (Native.errorMessage texts) error
  return ⟨code, message⟩

structure OnCloseState where
  transmitter : Transmitter.State := {}
  /-- The errors that the closures in the queue of the callback handler carry. -/
  carried : List (Option Error) := []
  nextId : Nat := 0
  /-- `transactionOnCloseCallbacks`. The directors of other transactions are `none`. -/
  directors : HashMap Nat (Option Callback) := ∅
  /-- The ID that each `on_close` call of this transaction passed to the native side. -/
  ids : List Nat := []
  /-- The functions that were called, and with what. -/
  calls : List (Callback × TypeDBException) := []
  crashed : Option Crash := none

namespace OnClose

inductive Label where
  /-- Any step of the native side but the two below. -/
  | native (label : Transmitter.Label)
  | onClose
  /-- The callback handler executes the closure it has received; the function may raise. -/
  | execute (raises : Bool)
  | registerElsewhere
  | executeElsewhere (id : Nat)

def carry (state : Transmitter.State) (carried : List (Option Error)) :
    Transmitter.Label → List (Option Error)
  | .listen _ =>
    match state.listen with
    | .calling error (_ :: _) => if state.handlerAlive then carried ++ [error] else carried
    | _ => carried
  | .loseHandler => []
  | _ => carried

def native (env : Environment) (state : OnCloseState) :
    Transmitter.Label → Option OnCloseState
  | .onClose | .runCallback _ => none
  | label =>
    (Transmitter.step env state.transmitter label).map fun transmitter =>
      { state with transmitter, carried := carry state.transmitter state.carried label }

def transactionOnCloseRegister (state : OnCloseState) : OnCloseState :=
  { state with
    nextId := state.nextId + 1
    directors := state.directors.insert state.nextId (some state.transmitter.registrations.length)
    ids := state.ids ++ [state.nextId]
    transmitter := Transmitter.onClose state.transmitter }

/-- `transaction_callback_execute`. An exception of the function is printed, and the director
stays in the map. -/
def transactionCallbackExecute (texts : ErrorText) (state : OnCloseState) (id : Nat)
    (error : Option Error) (raises : Bool) : OnCloseState :=
  match state.directors.lookup id with
  | some (some fn) =>
    match callback texts error with
    | .error crash => { state with crashed := some crash }
    | .ok exception =>
      { state with
        calls := state.calls ++ [(fn, exception)]
        directors := if raises then state.directors else state.directors.erase id }
  | _ => state

def execute (texts : ErrorText) (state : OnCloseState) (raises : Bool) : Option OnCloseState :=
  match state.transmitter.handlerQueue, state.carried with
  | callback :: _, error :: carried => do
      let id ← state.ids[callback]?
      let transmitter ← Transmitter.runCallback state.transmitter false
      return transactionCallbackExecute texts { state with transmitter, carried } id error raises
  | _, _ => none

def registerElsewhere (state : OnCloseState) : OnCloseState :=
  { state with
    nextId := state.nextId + 1
    directors := state.directors.insert state.nextId none }

def executeElsewhere (state : OnCloseState) (id : Nat) : Option OnCloseState :=
  if state.directors.lookup id = some none then
    some { state with directors := state.directors.erase id }
  else none

def step (env : Environment) (texts : ErrorText) (state : OnCloseState) (label : Label) :
    Option OnCloseState :=
  if state.crashed.isSome then none
  else match label with
    | .native label => native env state label
    | .onClose => some (transactionOnCloseRegister state)
    | .execute raises => execute texts state raises
    | .registerElsewhere => some (registerElsewhere state)
    | .executeElsewhere id => executeElsewhere state id

def system (env : Environment) (texts : ErrorText) : TransitionSystem OnCloseState Label where
  step := step env texts

/-- Every function that the native side has invoked was called exactly once, and no accessor met
a null pointer. -/
def Delivered (state : OnCloseState) : Prop :=
  state.crashed ≠ some .nullPointer ∧
    ∀ callback ∈ state.transmitter.invoked, (state.calls.map (·.1)).count callback = 1

def readable (texts : ErrorText) (error : Error) : Bool :=
  !(error.code texts).toList.contains nul && !(error.message texts).toList.contains nul

/-- A callback is executed only after a stream that ended with an error. -/
def survives (texts : ErrorText) (state : OnCloseState) : Label → Bool
  | .execute _ =>
    match state.transmitter.termination with
    | some (.failed error) => readable texts error
    | _ => false
  | _ => true

end OnClose

end TypeDBDriver.Python
