import TypeDBDriver.Concept.Getters
import TypeDBDriver.Library.CString
import TypeDBDriver.Library.OwnershipLedger
import TypeDBDriver.Library.Transition

/-! Who frees what the C layer returns to Python. The interface file declares by name which
functions hand over what they return and which take what they are given; the C functions know
nothing of it. -/

namespace TypeDBDriver

open Library

def ConceptRowHeader.getIndex (header : ConceptRowHeader) (columnName : String) : Option Nat :=
  header.columnNames.idxOf? columnName

def ConceptRow.getIndex (row : ConceptRow) (columnIndex : Nat) : Option Concept :=
  row.row[columnIndex]?.join

def ConceptRow.get (row : ConceptRow) (columnName : String) : Option Concept :=
  (row.header.getIndex columnName).bind row.getIndex

namespace Python.Ownership

inductive Function where
  | transactionQuery
  | queryAnswerPromiseResolve
  | queryAnswerIntoRows
  | queryAnswerIntoDocuments
  | conceptRowIteratorNext
  | stringIteratorNext
  | conceptRowGet (columnName : String)
  | conceptGetString
  | conceptTryGetValue
  deriving DecidableEq, Repr

namespace Function

def name : Function → String
  | .transactionQuery => "transaction_query"
  | .queryAnswerPromiseResolve => "query_answer_promise_resolve"
  | .queryAnswerIntoRows => "query_answer_into_rows"
  | .queryAnswerIntoDocuments => "query_answer_into_documents"
  | .conceptRowIteratorNext => "concept_row_iterator_next"
  | .stringIteratorNext => "string_iterator_next"
  | .conceptRowGet _ => "concept_row_get"
  | .conceptGetString => "concept_get_string"
  | .conceptTryGetValue => "concept_try_get_value"

end Function

def promiseProxies : List String :=
  ["bool_promise", "concept_promise", "string_promise", "query_answer_promise", "void_promise"]

/-- `%newobject`. There are no functions `value_get_string` and `query_answer_get_rows`. -/
def newobjects : List String :=
  promiseProxies.map (· ++ "_resolve") ++
  ["concept_row_get", "concept_row_get_column_names", "concept_row_get_query_type",
    "query_answer_get_query_type", "concept_row_get_concepts", "concept_row_get_index",
    "concept_row_to_string", "value_get_string", "value_get_datetime_tz", "query_answer_get_rows",
    "concept_to_string", "entity_get_type", "relation_get_type", "attribute_get_type",
    "concept_get_label", "concept_try_get_label", "concept_try_get_iid",
    "concept_try_get_value_type", "concept_try_get_value", "driver_open_core", "driver_open_cloud",
    "driver_open_cloud_translated", "driver_options_new", "credentials_new", "database_get_name",
    "database_schema", "database_type_schema", "databases_all", "databases_get", "get_last_error",
    "error_code", "error_message", "concept_iterator_next", "concept_row_iterator_next",
    "database_iterator_next", "string_iterator_next", "string_and_opt_value_iterator_next",
    "user_iterator_next", "transaction_new", "transaction_query", "users_all",
    "users_get_current_user", "users_get", "user_get_name"]

def delobjects : List String :=
  promiseProxies.flatMap (fun prefix_ => [prefix_ ++ "_resolve", prefix_ ++ "_drop"]) ++
    ["database_delete", "transaction_commit", "user_delete"]

/-- `%disown`, which sets `thisown` of the argument to 0. -/
def disowns : List String := ["query_answer_into_rows", "query_answer_into_documents"]

namespace Function

def isNewobject (fn : Function) : Bool := newobjects.contains fn.name

def disownsArgument (fn : Function) : Bool :=
  delobjects.contains fn.name || disowns.contains fn.name

end Function

inductive AnswerContent where
  | ok
  | rows (stream : List (Result ConceptRow))
  /-- Each document as the text of its JSON. -/
  | documents (stream : List (Result String))

/-- What a native object is. A promise and a stream hold what they will yield. -/
inductive Native where
  | promise (result : Result AnswerContent)
  | answer (content : AnswerContent)
  | rowIterator (stream : List (Result ConceptRow))
  | stringIterator (stream : List (Result String))
  | row (row : ConceptRow)
  | concept (concept : Concept)
  | string (text : String)
  | error (error : Error)
  /-- What `error_message` returns. -/
  | message (error : Error)

inductive Returned where
  | object (content : Native)
  | string (text : String)
  | null
  /-- The error flag is set. -/
  | failed (error : Error)

def releaseString (text : String) : Option Returned :=
  (CString.new (utf8Bytes text)).map fun _ => .string text

/-- What a function leaves of its argument, and what it returns. There is no result where it
panics, which ends the process, or where its argument is of another type. -/
def Function.run : Function → Native → Option (Native × Returned)
  | .queryAnswerPromiseResolve, .promise result =>
    match result with
    | .ok content => some (.promise result, .object (.answer content))
    | .error err => some (.promise result, .failed err)
  | .queryAnswerIntoRows, .answer (.rows stream) =>
    some (.answer (.rows stream), .object (.rowIterator stream))
  | .queryAnswerIntoDocuments, .answer (.documents stream) =>
    some (.answer (.documents stream), .object (.stringIterator stream))
  | .conceptRowIteratorNext, .rowIterator stream =>
    match stream with
    | [] => some (.rowIterator [], .null)
    | .ok row :: rest => some (.rowIterator rest, .object (.row row))
    | .error err :: rest => some (.rowIterator rest, .failed err)
  | .stringIteratorNext, .stringIterator stream =>
    match stream with
    | [] => some (.stringIterator [], .null)
    | .ok text :: rest => (releaseString text).map fun returned => (.stringIterator rest, returned)
    | .error err :: rest => some (.stringIterator rest, .failed err)
  | .conceptRowGet columnName, .row row =>
    match row.get columnName with
    | some concept => some (.row row, .object (.concept concept))
    | none => some (.row row, .null)
  | .conceptGetString, .concept concept =>
    concept.tryGetString.bind fun text =>
      (releaseString text).map fun returned => (.concept concept, returned)
  | .conceptTryGetValue, .concept concept =>
    match concept.tryGetValue with
    | some value => some (.concept concept, .object (.concept (.value value)))
    | none => some (.concept concept, .null)
  | _, _ => none

def Function.takesOwnership : Function → Bool
  | .queryAnswerPromiseResolve | .queryAnswerIntoRows | .queryAnswerIntoDocuments => true
  | _ => false

abbrev Ledger := List (NativeCell Native)

/-- What the wrapper makes of a result. For an error it calls `error_message(get_last_error())`
itself, so that no declaration applies to the two objects. -/
def received (fn : Function) : Returned → Ledger
  | .object content => [.wrapped content fn.isNewobject]
  | .string text => [.copied (.string text) fn.isNewobject]
  | .null => []
  | .failed err => [.copied (.error err) false, .copied (.message err) false]

inductive Label where
  /-- `transaction_query`, and what the promise will resolve to. -/
  | query (result : Result AnswerContent)
  | call (fn : Function) (object : Nat)
  | finalize (object : Nat)

def passed (fn : Function) (cell : NativeCell Native) (content : Native) :
    NativeCell Native :=
  cell.pass fn.disownsArgument fn.takesOwnership content

def call (ledger : Ledger) (fn : Function) (object : Nat) : Option Ledger :=
  (ledger[object]?.filter (·.isAlive)).bind fun cell =>
    (fn.run cell.content).map fun (content, returned) =>
      ledger.set object (passed fn cell content) ++ received fn returned

def step (ledger : Ledger) : Label → Option Ledger
  | .query result => some (ledger ++ received .transactionQuery (.object (.promise result)))
  | .call fn object => call ledger fn object
  | .finalize object =>
    (ledger[object]?.filter (·.isAlive)).map fun cell => ledger.set object cell.finalize

def system : TransitionSystem Ledger Label where
  step := step

/-- Every Python proxy has been finalized. -/
def Finalized (ledger : Ledger) : Prop := ∀ cell ∈ ledger, cell.isAlive = false

/-- The functions that return an object and are not declared `%newobject`. -/
def Function.leaks : Function → Bool
  | .queryAnswerIntoRows | .queryAnswerIntoDocuments | .conceptGetString => true
  | _ => false

def fails (ledger : Ledger) (fn : Function) (object : Nat) : Prop :=
  ∃ cell content err, ledger[object]? = some cell ∧
    fn.run cell.content = some (content, .failed err)

/-- No answer is turned into a stream, no string is read, no call fails, and no promise is
resolved twice. -/
def Clean (ledger : Ledger) : Label → Prop
  | .call fn object => fn.leaks = false ∧ ¬ fails ledger fn object ∧
      (fn = .queryAnswerPromiseResolve → ∀ cell, ledger[object]? = some cell →
        cell.taken = 0)
  | .query _ | .finalize _ => True

end Python.Ownership

end TypeDBDriver
