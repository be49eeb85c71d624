import TypeDBDriver.Network.WorkerProperties

/-! A transaction from the answer of the server to its request to open until everything that
belongs to it is gone: the transmitter of `Network`, the handle that the user holds, the
sender of shutdown signals that its connection keeps, the driver's own `force_close`, and the
runtime on which the listener runs. -/

namespace TypeDBDriver

open Library

inductive OpeningPhase where
  | answered
  /-- The transmitter exists; the connection has no shutdown sender for it yet. -/
  | created
  | returned
  deriving DecidableEq, Repr

inductive HandlePhase where
  | held
  /-- `drop` runs `force_close`. -/
  | dropping
  | dropped
  deriving DecidableEq, Repr

inductive DriverClosePhase where
  | drainingConnections
  | closingRuntime
  | returned
  deriving DecidableEq, Repr

structure Lifecycle.State where
  transmitter : Transmitter.State := { shutdownSender := false }
  opening : OpeningPhase := .answered
  /-- `start_workers` has run, so both loops exist. -/
  started : Bool := false
  handle : HandlePhase := .held
  /-- The connection, and with it its map of shutdown senders. -/
  connectionAlive : Bool := true
  forceCloses : List DriverClosePhase := []
  runtimeOpen : Bool := true
  /-- The runtime has been told to stop. -/
  shutdownSent : Bool := false
  runtimeStopped : Bool := false

namespace Lifecycle

inductive Label where
  | transaction (label : Transmitter.Label)
  -- `open_transaction`
  | create
  | startWorkers
  | register
  -- what goes out of scope
  | drop
  | finishDrop
  | dropConnection
  | dropRuntime
  -- `TypeDBDriver::force_close`
  | forceClose
  | drainConnection (call : Nat)
  | skipConnection (call : Nat)
  | closeRuntime (call : Nat)
  -- the runtime
  | stopRuntime

/-- The steps of the transmitter that are possible by themselves. A call borrows the handle;
the signal of the connection and the end of the runtime have labels of their own here. -/
def permits (state : State) : Transmitter.Label → Bool
  | .call _ | .proceed _ | .onClose | .forceClose =>
    state.opening == .returned && state.handle == .held
  | .poll _ => state.opening == .returned
  | .dispatch _ | .listen _ => state.started
  | .connectionForceClose | .shutdownRuntime => false
  | _ => true

def transaction (env : Environment) (state : State) (label : Transmitter.Label) :
    Option State :=
  if permits state label then
    (Transmitter.step env state.transmitter label).map fun transmitter =>
      { state with transmitter }
  else none

/-- The runtime drops `start_workers` before it has run: the loops never exist, and their ends
of the channels are gone. -/
def dropWorkers (transmitter : Transmitter.State) : Transmitter.State :=
  { Transmitter.leaveDispatch transmitter .ended with listen := .aborted }

/-- `TransactionTransmitter::new`. A runtime that has stopped drops what is spawned on it. -/
def create (state : State) : Option State :=
  if state.opening = .answered then
    some { state with
      opening := .created
      transmitter :=
        if state.runtimeStopped then dropWorkers state.transmitter else state.transmitter }
  else none

def startWorkers (state : State) : Option State :=
  if state.opening ≠ .answered ∧ state.started = false ∧ state.runtimeStopped = false then
    some { state with started := true }
  else none

def register (state : State) : Option State :=
  if state.opening = .created then
    some { state with
      opening := .returned
      transmitter := { state.transmitter with shutdownSender := true } }
  else none

def forceCloseDone (transmitter : Transmitter.State) : Bool :=
  transmitter.forceClosing == .idle || transmitter.forceClosing == .finished

def drop (state : State) : Option State :=
  if state.opening = .returned ∧ state.handle = .held ∧ forceCloseDone state.transmitter ∧
      state.transmitter.calls.all (·.phase.hasReturned) then
    some { state with
      handle := .dropping
      transmitter := Transmitter.forceClose state.transmitter }
  else none

def finishDrop (state : State) : Option State :=
  if state.handle = .dropping ∧ forceCloseDone state.transmitter then
    some { state with handle := .dropped }
  else none

def dropConnection (state : State) : Option State :=
  if state.opening = .returned ∧ state.connectionAlive ∧
      state.forceCloses.all (· != .drainingConnections) then
    some { state with
      connectionAlive := false
      transmitter := { state.transmitter with shutdownSender := false } }
  else none

def dropRuntime (state : State) : Option State :=
  if state.handle = .dropped ∧ state.connectionAlive = false ∧
      state.forceCloses.all (· == .returned) then
    some { state with runtimeOpen := false, shutdownSent := true }
  else none

def forceClose (state : State) : Option State :=
  if state.connectionAlive then
    some { state with
      forceCloses := state.forceCloses ++
        [if state.runtimeOpen then .drainingConnections else .returned] }
  else none

def drainConnection (state : State) (call : Nat) : Option State :=
  if state.forceCloses[call]? = some .drainingConnections then
    some { state with
      forceCloses := state.forceCloses.set call .closingRuntime
      transmitter :=
        (Transmitter.connectionForceClose state.transmitter).getD state.transmitter }
  else none

/-- `try_collect` stops at the first connection that fails to close, so that this one may be
left out. -/
def skipConnection (state : State) (call : Nat) : Option State :=
  if state.forceCloses[call]? = some .drainingConnections then
    some { state with forceCloses := state.forceCloses.set call .closingRuntime }
  else none

def closeRuntime (state : State) (call : Nat) : Option State :=
  if state.forceCloses[call]? = some .closingRuntime then
    some { state with
      forceCloses := state.forceCloses.set call .returned
      runtimeOpen := false
      shutdownSent := true }
  else none

/-- The thread of the runtime reads the signal while all its tasks wait, and drops them. The
dispatch loop runs on a thread of its own. -/
def stopRuntime (state : State) : Option State :=
  if state.shutdownSent = false ∨ state.runtimeStopped then none
  else if state.opening = .answered ∨ state.transmitter.listen.isOver then
    some { state with runtimeStopped := true }
  else if state.started then
    (Transmitter.shutdownRuntime state.transmitter).map fun transmitter =>
      { state with transmitter, runtimeStopped := true }
  else
    some { state with transmitter := dropWorkers state.transmitter, runtimeStopped := true }

def step (env : Environment) (state : State) : Label → Option State
  | .transaction label => transaction env state label
  | .create => create state
  | .startWorkers => startWorkers state
  | .register => register state
  | .drop => drop state
  | .finishDrop => finishDrop state
  | .dropConnection => dropConnection state
  | .dropRuntime => dropRuntime state
  | .forceClose => forceClose state
  | .drainConnection call => drainConnection state call
  | .skipConnection call => skipConnection state call
  | .closeRuntime call => closeRuntime state call
  | .stopRuntime => stopRuntime state

def system (env : Environment) : TransitionSystem State Label where
  step := step env

/-- Nobody can send a shutdown signal any more, none is queued, and the dispatch loop goes
on. -/
def Orphaned (state : State) : Prop :=
  state.started = true ∧ state.transmitter.dispatch.isOver = false ∧
    state.transmitter.shutdownSignals = 0 ∧ state.handle = .dropped ∧
    state.transmitter.shutdownSender = false ∧ state.transmitter.listen.isOver = true

def openRun : List Label := [.create, .startWorkers, .register]

end Lifecycle

end TypeDBDriver
