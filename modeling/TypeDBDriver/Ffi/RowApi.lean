import TypeDBDriver.Concept.Concept
import TypeDBDriver.Library.ArcHeap
import TypeDBDriver.Library.Transition

/-! The functions of the C API for rows of concepts. `borrow` gives a reference with a static
lifetime, so the iterators over the column names and over the concepts of a row go on reading
its memory; the header of the rows is shared by all rows of an answer and by their iterator. -/

namespace TypeDBDriver

open Library

structure RowBox where
  header : Arc
  row : List (Option Concept)
  freed : Bool := false

/-- A `ConceptRowIterator`. The closure of its `flat_map` holds the header, until the stream is
exhausted and `flat_map` drops the closure. -/
structure RowIterator where
  header : Arc
  exhausted : Bool := false
  freed : Bool := false

structure NameIterator where
  header : Arc
  position : Nat := 0
  length : Nat
  freed : Bool := false

structure ConceptIterator where
  row : Nat
  position : Nat := 0
  length : Nat
  freed : Bool := false

structure RowApi.State where
  headers : ArcHeap ConceptRowHeader := {}
  rowIterators : List RowIterator := []
  rows : List RowBox := []
  nameIterators : List NameIterator := []
  conceptIterators : List ConceptIterator := []
  /-- The entries of a row were read after its drop. -/
  readFreedRow : Bool := false

inductive RowAnswer where
  | row (row : List (Option Concept))
  | error
  | exhausted

namespace RowApi.State

def useAfterFree (state : State) : Bool :=
  state.headers.faulted || state.readFreedRow

def queryAnswerIntoRows (state : State) (header : ConceptRowHeader) : State :=
  { state with
    headers := (state.headers.new header).2
    rowIterators := state.rowIterators ++ [{ header := (state.headers.new header).1 }] }

def live {α : Type} (freed : α → Bool) (handles : List α) (handle : Nat) : Option α :=
  handles[handle]?.filter (!freed ·)

def conceptRowIteratorNext (state : State) (iterator : Nat) (answer : RowAnswer) :
    Option State := do
  let found ← live RowIterator.freed state.rowIterators iterator
  match answer, found.exhausted with
  | .row row, false =>
    some { state with
      headers := state.headers.clone found.header
      rows := state.rows ++ [{ header := found.header, row }] }
  | .error, false => some state
  | .exhausted, false =>
    some { state with
      headers := state.headers.drop found.header
      rowIterators := state.rowIterators.set iterator { found with exhausted := true } }
  | .exhausted, true => some state
  | _, true => none

def conceptRowIteratorDrop (state : State) (iterator : Nat) : Option State := do
  let found ← live RowIterator.freed state.rowIterators iterator
  some { state with
    headers := if found.exhausted then state.headers else state.headers.drop found.header
    rowIterators := state.rowIterators.set iterator { found with freed := true } }

def conceptRowGetColumnNames (state : State) (row : Nat) : Option State := do
  let found ← live RowBox.freed state.rows row
  let (header, headers) := state.headers.borrow found.header
  some { state with
    headers
    nameIterators := state.nameIterators ++
      [{ header := found.header, length := header.elim 0 (·.columnNames.length) }] }

def conceptRowGetConcepts (state : State) (row : Nat) : Option State := do
  let found ← live RowBox.freed state.rows row
  some { state with
    conceptIterators := state.conceptIterators ++ [{ row, length := found.row.length }] }

/-- The iterator knows without a read that it has reached the end of its slice. -/
def stringIteratorNext (state : State) (iterator : Nat) :
    Option (Option String × State) := do
  let found ← live NameIterator.freed state.nameIterators iterator
  if found.position < found.length then
    let (header, headers) := state.headers.borrow found.header
    some (header.bind (·.columnNames[found.position]?), { state with
      headers
      nameIterators :=
        state.nameIterators.set iterator { found with position := found.position + 1 } })
  else some (none, state)

/-- `filter_map` reads on as long as the entries are empty. -/
def nextConcept (entries : List (Option Concept)) (position : Nat) : Option Concept × Nat :=
  let skipped := (entries.drop position).takeWhile Option.isNone
  (entries[position + skipped.length]?.join, position + skipped.length + 1)

def conceptIteratorNext (state : State) (iterator : Nat) :
    Option (Option Concept × State) := do
  let found ← live ConceptIterator.freed state.conceptIterators iterator
  let row ← state.rows[found.row]?
  if found.position < found.length then
    if row.freed then some (none, { state with readFreedRow := true })
    else
      let (concept, position) := nextConcept row.row found.position
      some (concept, { state with
        conceptIterators := state.conceptIterators.set iterator { found with position } })
  else some (none, state)

/-- `free`: the entries of the row and its reference to the header go with the box. -/
def conceptRowDrop (state : State) (row : Nat) : Option State := do
  let found ← live RowBox.freed state.rows row
  some { state with
    headers := state.headers.drop found.header
    rows := state.rows.set row { found with freed := true } }

def stringIteratorDrop (state : State) (iterator : Nat) : Option State := do
  let found ← live NameIterator.freed state.nameIterators iterator
  some { state with
    nameIterators := state.nameIterators.set iterator { found with freed := true } }

def conceptIteratorDrop (state : State) (iterator : Nat) : Option State := do
  let found ← live ConceptIterator.freed state.conceptIterators iterator
  some { state with
    conceptIterators := state.conceptIterators.set iterator { found with freed := true } }

end RowApi.State

inductive RowCall where
  | queryAnswerIntoRows (header : ConceptRowHeader)
  | conceptRowIteratorNext (iterator : Nat) (answer : RowAnswer)
  | conceptRowIteratorDrop (iterator : Nat)
  | conceptRowGetColumnNames (row : Nat)
  | conceptRowGetConcepts (row : Nat)
  | stringIteratorNext (iterator : Nat)
  | conceptIteratorNext (iterator : Nat)
  | conceptRowDrop (row : Nat)
  | stringIteratorDrop (iterator : Nat)
  | conceptIteratorDrop (iterator : Nat)

namespace RowApi

open State

/-- `none` where the call would use a handle that does not exist or was dropped, and after a
use of freed memory, from where on anything may happen. -/
def step (state : State) (call : RowCall) : Option State :=
  if state.useAfterFree then none
  else match call with
    | .queryAnswerIntoRows header => some (queryAnswerIntoRows state header)
    | .conceptRowIteratorNext iterator answer => conceptRowIteratorNext state iterator answer
    | .conceptRowIteratorDrop iterator => conceptRowIteratorDrop state iterator
    | .conceptRowGetColumnNames row => conceptRowGetColumnNames state row
    | .conceptRowGetConcepts row => conceptRowGetConcepts state row
    | .stringIteratorNext iterator => (stringIteratorNext state iterator).map (·.2)
    | .conceptIteratorNext iterator => (conceptIteratorNext state iterator).map (·.2)
    | .conceptRowDrop row => conceptRowDrop state row
    | .stringIteratorDrop iterator => stringIteratorDrop state iterator
    | .conceptIteratorDrop iterator => conceptIteratorDrop state iterator

def system : TransitionSystem State RowCall where
  step := step

/-- The references to headers, one for each row that was not dropped and one for each iterator
over rows that was neither dropped nor exhausted. -/
def owners (state : State) : List Arc :=
  state.rowIterators.flatMap (fun iterator =>
    if iterator.freed || iterator.exhausted then [] else [iterator.header]) ++
  state.rows.flatMap fun row => if row.freed then [] else [row.header]

/-- An iterator over names that has some left is advanced while the header has an owner, and one
over concepts that has entries left before its row is dropped. -/
def outlived (state : State) : RowCall → Bool
  | .stringIteratorNext iterator =>
    state.nameIterators[iterator]?.all fun found =>
      decide (found.length ≤ found.position) || (owners state).contains found.header
  | .conceptIteratorNext iterator =>
    state.conceptIterators[iterator]?.all fun found =>
      decide (found.length ≤ found.position) ||
        (state.rows[found.row]?).all fun row => !row.freed
  | _ => true

end RowApi

end TypeDBDriver
