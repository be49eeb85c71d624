import TypeDBDriver.Database.DatabaseManager
import TypeDBDriver.Library.Transition

/-! The database functions of the C API. A handle is a raw pointer that the foreign side
obtained and has not given back; an iterator still owns the references it has not handed
out. A call names a handle or an iterator by its place among those the foreign side has,
so a handle that was given back cannot be named again. `none` says that the process
aborts, as it does on a panic inside an exported function. -/

namespace TypeDBDriver

open Library DatabaseManager

structure NativeState (σ : Type) where
  manager : DatabaseManager σ
  handles : List Arc := []
  /-- What each iterator has yet to hand out. -/
  iterators : List (List Arc) := []
  lastError : Option Error := none

namespace NativeState

variable {σ α : Type}

def recordError (err : Error) (state : NativeState σ) : NativeState σ :=
  { state with lastError := some err }

def okRecord (result : Result α) (state : NativeState σ) : Option α × NativeState σ :=
  match result with
  | .ok value => (some value, state)
  | .error err => (none, state.recordError err)

/-- A C string cannot hold a zero character: `CString::new(str).unwrap()`. -/
def releaseString (str : String) : Option String :=
  if str.toList.contains (Char.ofNat 0) then none else some str

/-- The foreign side gets a pointer; a null pointer is not a handle. -/
def releaseArc (database : Option Arc) (state : NativeState σ) : NativeState σ :=
  { state with handles := database.toList ++ state.handles }

def forget (handle : Nat) (state : NativeState σ) : NativeState σ :=
  { state with handles := state.handles.eraseIdx handle }

def databasesAll (display : Error → String) (state : NativeState σ) : NativeState σ :=
  let answer := state.manager.all display
  let (databases, state) := { state with manager := answer.2 }.okRecord answer.1
  { state with iterators := databases.toList ++ state.iterators }

def databaseIteratorNext (iterator : Nat) (state : NativeState σ) : NativeState σ :=
  match state.iterators[iterator]? with
  | some (database :: rest) =>
    { state with iterators := state.iterators.set iterator rest }.releaseArc (some database)
  | _ => state

def databaseIteratorDrop (iterator : Nat) (state : NativeState σ) : NativeState σ :=
  match state.iterators[iterator]? with
  | some databases =>
    { state with
      manager := { state.manager with heap := state.manager.heap.dropAll databases }
      iterators := state.iterators.eraseIdx iterator }
  | none => state

def databasesCreate (display : Error → String) (name : String) (state : NativeState σ) :
    NativeState σ :=
  let answer := state.manager.create display name
  ({ state with manager := answer.2 }.okRecord answer.1).2

def databasesContains (display : Error → String) (name : String) (state : NativeState σ) :
    Bool × NativeState σ :=
  let answer := state.manager.contains display name
  let (contains, state) := { state with manager := answer.2 }.okRecord answer.1
  (contains.getD false, state)

def databasesGet (display : Error → String) (name : String) (state : NativeState σ) :
    Option (NativeState σ) :=
  let answer := state.manager.get display name
  let state := { state with manager := answer.2 }
  match answer.1 with
  | .ok database => some (state.releaseArc (some database))
  | .error err => some (state.recordError err)
  | .panicked => none

def databaseClose (database : Arc) (state : NativeState σ) : NativeState σ :=
  { state with manager := state.manager.dropArc database }

def databaseGetName (database : Arc) (state : NativeState σ) :
    Option (Option String × NativeState σ) :=
  let (borrowed, heap) := state.manager.heap.borrow database
  let state := { state with manager := { state.manager with heap } }
  match borrowed with
  | none => some (none, state)
  | some database => (releaseString database.name).map fun name => (some name, state)

def databaseDelete (database : Arc) (state : NativeState σ) : NativeState σ :=
  let answer := state.manager.deleteDatabase database
  let state := { state with manager := answer.2 }
  match answer.1 with
  | none => state
  | some result => (state.okRecord result).2

/-- `try_release_string(take_arc(database).operation())`: the reference that was taken over
is dropped when the statement ends. -/
def takeText (op : Database σ → σ → Result String × Database σ × σ) (database : Arc)
    (state : NativeState σ) : Option (Option String × NativeState σ) :=
  let answer := state.manager.onDatabase op database
  let state := { state with manager := answer.2.dropArc database }
  match answer.1 with
  | none => some (none, state)
  | some result =>
    match state.okRecord result with
    | (none, state) => some (none, state)
    | (some text, state) => (releaseString text).map fun text => (some text, state)

def databaseSchema (database : Arc) (state : NativeState σ) :
    Option (Option String × NativeState σ) :=
  takeText Database.schema database state

def databaseTypeSchema (database : Arc) (state : NativeState σ) :
    Option (Option String × NativeState σ) :=
  takeText Database.typeSchema database state

end NativeState

inductive DatabaseCall where
  | databasesAll
  | databaseIteratorNext (iterator : Nat)
  | databaseIteratorDrop (iterator : Nat)
  | databasesCreate (name : String)
  | databasesContains (name : String)
  | databasesGet (name : String)
  | databaseClose (handle : Nat)
  | databaseGetName (handle : Nat)
  | databaseDelete (handle : Nat)
  | databaseSchema (handle : Nat)
  | databaseTypeSchema (handle : Nat)
  deriving DecidableEq, Repr

namespace NativeState

variable {σ : Type}

/-- The foreign side keeps the handle it passes, except to `database_close` and
`database_delete`. -/
def step (display : Error → String) (state : NativeState σ) : DatabaseCall → Option (NativeState σ)
  | .databasesAll => some (state.databasesAll display)
  | .databaseIteratorNext iterator => some (state.databaseIteratorNext iterator)
  | .databaseIteratorDrop iterator => some (state.databaseIteratorDrop iterator)
  | .databasesCreate name => some (state.databasesCreate display name)
  | .databasesContains name => some (state.databasesContains display name).2
  | .databasesGet name => state.databasesGet display name
  | .databaseClose handle =>
    (state.handles[handle]?).map fun database => (state.databaseClose database).forget handle
  | .databaseGetName handle =>
    (state.handles[handle]?).bind fun database => (state.databaseGetName database).map (·.2)
  | .databaseDelete handle =>
    (state.handles[handle]?).map fun database => (state.databaseDelete database).forget handle
  | .databaseSchema handle =>
    (state.handles[handle]?).bind fun database => (state.databaseSchema database).map (·.2)
  | .databaseTypeSchema handle =>
    (state.handles[handle]?).bind fun database => (state.databaseTypeSchema database).map (·.2)

def system (σ : Type) (display : Error → String) :
    TransitionSystem (NativeState σ) DatabaseCall where
  step := step display

end NativeState

end TypeDBDriver
