import Mathlib.Data.List.Find
import Mathlib.Data.List.Perm.Subperm
import TypeDBDriver.Connection.TransactionLifecycle

/-! The shutdown senders that a connection keeps for its transactions. `open_transaction` adds
one; a transaction ends in objects and threads that do not know the map. -/

namespace TypeDBDriver

open Library

/-- A `ServerConnection` and everything that the server has opened on it. -/
structure ShutdownSenders.State where
  /-- Each transaction has the id of the request that opened it. -/
  transactions : List (RequestID × Lifecycle.State) := []
  /-- `transaction_shutdown_senders`, where a sender is named by its transaction. -/
  transactionShutdownSenders : HashMap RequestID Nat := ∅
  runtimeOpen : Bool := true

namespace ShutdownSenders

def concernsOne : Lifecycle.Label → Bool
  | .transaction _ | .create | .startWorkers | .drop | .finishDrop | .stopRuntime => true
  | _ => false

inductive Label where
  /-- The server has answered the request of `open_transaction`. -/
  | answer (requestId : RequestID)
  /-- `open_transaction` inserts the sender and returns. -/
  | register (index : Nat)
  | on (index : Nat) (label : Lifecycle.Label)
  | forceClose
  | closeRuntime

def answer (state : State) (requestId : RequestID) : State :=
  { state with
    transactions := state.transactions ++ [(requestId,
      { runtimeOpen := state.runtimeOpen, shutdownSent := !state.runtimeOpen })] }

def onTransmitter (change : Transmitter.State → Transmitter.State)
    (transactions : List (RequestID × Lifecycle.State)) (index : Nat) :
    List (RequestID × Lifecycle.State) :=
  transactions.modify index fun (requestId, lifecycle) =>
    (requestId, { lifecycle with transmitter := change lifecycle.transmitter })

/-- `insert` drops the sender that it replaces. -/
def dropReplaced (state : State) (requestId : RequestID) :
    List (RequestID × Lifecycle.State) :=
  match state.transactionShutdownSenders.lookup requestId with
  | none => state.transactions
  | some replaced =>
    onTransmitter ({ · with shutdownSender := false }) state.transactions replaced

def register (state : State) (index : Nat) : Option State :=
  match state.transactions[index]? with
  | none => none
  | some (requestId, lifecycle) =>
    (Lifecycle.register lifecycle).map fun registered =>
      { state with
        transactions := (dropReplaced state requestId).set index (requestId, registered)
        transactionShutdownSenders :=
          state.transactionShutdownSenders.insert requestId index }

def onTransaction (env : Environment) (state : State) (index : Nat)
    (label : Lifecycle.Label) : Option State :=
  match state.transactions[index]? with
  | none => none
  | some (requestId, lifecycle) =>
    (Lifecycle.step env lifecycle label).map fun next =>
      { state with transactions := state.transactions.set index (requestId, next) }

/-- `ServerConnection::force_close`. What it sends to a transaction that has ended is lost. -/
def forceClose (state : State) : State :=
  { state with
    transactions := (HashMap.values state.transactionShutdownSenders).foldl
      (onTransmitter fun transmitter =>
        (Transmitter.connectionForceClose transmitter).getD transmitter) state.transactions
    transactionShutdownSenders := ∅ }

def closeRuntime (state : State) : State :=
  { state with
    runtimeOpen := false
    transactions := state.transactions.map fun (requestId, lifecycle) =>
      (requestId, { lifecycle with runtimeOpen := false, shutdownSent := true }) }

def step (env : Environment) (state : State) : Label → Option State
  | .answer requestId => some (answer state requestId)
  | .register index => register state index
  | .on index label => if concernsOne label then onTransaction env state index label else none
  | .forceClose => some (forceClose state)
  | .closeRuntime => some (closeRuntime state)

def system (env : Environment) : TransitionSystem State Label where
  step := step env

def isRunning (state : State) (index : Nat) : Bool :=
  state.transactions[index]?.any fun (_, lifecycle) =>
    !(lifecycle.transmitter.dispatch.isOver && lifecycle.transmitter.listen.isOver)

def stillRunning (state : State) : List Nat :=
  (List.range state.transactions.length).filter (isRunning state)

def requestIds (state : State) : List RequestID := state.transactions.map (·.1)

def hasRequestId (state : State) (requestId : RequestID) (index : Nat) : Bool :=
  (requestIds state)[index]? == some requestId

def noteRegistered (registered : List Nat) : Label → List Nat
  | .register index => index :: registered
  | .forceClose => []
  | _ => registered

def registered (labels : List Label) : List Nat := labels.foldl noteRegistered []

variable {env : Environment} {state next final : State} {label : Label}

theorem requestIds_onTransmitter (change : Transmitter.State → Transmitter.State)
    (transactions : List (RequestID × Lifecycle.State)) (index : Nat) :
    (onTransmitter change transactions index).map (·.1) = transactions.map (·.1) := by
  unfold onTransmitter
  apply List.ext_getElem?
  intro other
  rw [List.getElem?_map, List.getElem?_map, List.getElem?_modify]
  cases transactions[other]? with
  | none => rfl
  | some entry => by_cases same : index = other <;> simp [same]

variable {index : Nat} {requestId : RequestID}

theorem requestIds_set {transactions : List (RequestID × Lifecycle.State)}
    (found : (transactions.map (·.1))[index]? = some requestId) (lifecycle : Lifecycle.State) :
    (transactions.set index (requestId, lifecycle)).map (·.1) = transactions.map (·.1) := by
  obtain ⟨listed, same⟩ := List.getElem?_eq_some_iff.mp found
  rw [List.map_set, ← same]
  exact List.set_getElem_self listed

theorem requestIds_dropReplaced (state : State) (requestId : RequestID) :
    (dropReplaced state requestId).map (·.1) = requestIds state := by
  unfold dropReplaced
  split
  · rfl
  · exact requestIds_onTransmitter _ _ _

theorem requestIds_foldl (change : Transmitter.State → Transmitter.State) (drained : List Nat)
    (transactions : List (RequestID × Lifecycle.State)) :
    (drained.foldl (onTransmitter change) transactions).map (·.1) = transactions.map (·.1) := by
  induction drained generalizing transactions with
  | nil => rfl
  | cons index rest ih => rw [List.foldl_cons, ih, requestIds_onTransmitter]

inductive Effect (state : State) : Label → State → Prop where
  | answered {requestId : RequestID} {next : State}
      (ids : requestIds next = requestIds state ++ [requestId])
      (kept : next.transactionShutdownSenders = state.transactionShutdownSenders) :
      Effect state (.answer requestId) next
  | registered {index : Nat} {requestId : RequestID} {next : State}
      (ids : requestIds next = requestIds state)
      (found : (requestIds state)[index]? = some requestId)
      (inserted : next.transactionShutdownSenders =
        state.transactionShutdownSenders.insert requestId index) :
      Effect state (.register index) next
  | moved {index : Nat} {label : Lifecycle.Label} {next : State}
      (ids : requestIds next = requestIds state)
      (kept : next.transactionShutdownSenders = state.transactionShutdownSenders) :
      Effect state (.on index label) next
  | drained {next : State} (ids : requestIds next = requestIds state)
      (emptied : next.transactionShutdownSenders = ∅) : Effect state .forceClose next
  | runtimeClosed {next : State} (ids : requestIds next = requestIds state)
      (kept : next.transactionShutdownSenders = state.transactionShutdownSenders) :
      Effect state .closeRuntime next

theorem requestId_of_transaction {lifecycle : Lifecycle.State}
    (found : state.transactions[index]? = some (requestId, lifecycle)) :
    (requestIds state)[index]? = some requestId := by
  rw [requestIds, List.getElem?_map, found]
  rfl

theorem register_effect (took : register state index = some next) :
    Effect state (.register index) next := by
  unfold register at took
  split at took
  · cases took
  · next requestId lifecycle found =>
      obtain ⟨registered, -, rfl⟩ := Option.map_eq_some_iff.mp took
      have named := requestId_of_transaction found
      refine .registered ?_ named rfl
      have ids := requestIds_dropReplaced state requestId
      rw [← ids] at named
      exact (requestIds_set named registered).trans ids

theorem onTransaction_effect {label : Lifecycle.Label}
    (took : onTransaction env state index label = some next) :
    Effect state (.on index label) next := by
  unfold onTransaction at took
  split at took
  · cases took
  · next requestId lifecycle found =>
      obtain ⟨after, -, rfl⟩ := Option.map_eq_some_iff.mp took
      exact .moved (requestIds_set (requestId_of_transaction found) after) rfl

theorem step_effect (took : (system env).step state label = some next) :
    Effect state label next := by
  change step env state label = some next at took
  cases label with
  | answer requestId =>
    cases took
    exact .answered List.map_append rfl
  | register index => exact register_effect took
  | on index label =>
    rw [step, Option.ite_none_right_eq_some] at took
    exact onTransaction_effect took.2
  | forceClose =>
    cases took
    exact .drained (requestIds_foldl _ _ _) rfl
  | closeRuntime =>
    cases took
    exact .runtimeClosed List.map_map rfl

/-- The entries of the map are the transactions registered since the last `force_close`, where
a later one with the same id takes the place of an earlier one. -/
structure Recorded (state : State) (registered : List Nat) : Prop where
  known : ∀ index ∈ registered, index < (requestIds state).length
  recorded : ∀ requestId, state.transactionShutdownSenders.lookup requestId =
    registered.find? (hasRequestId state requestId)

theorem hasRequestId_append (ids : requestIds next = requestIds state ++ [requestId])
    (known : index < (requestIds state).length) (other : RequestID) :
    hasRequestId state other index = hasRequestId next other index := by
  unfold hasRequestId
  rw [ids, List.getElem?_append_left known]

theorem hasRequestId_congr (ids : requestIds next = requestIds state) :
    hasRequestId next = hasRequestId state := by
  funext requestId index
  rw [hasRequestId, hasRequestId, ids]

theorem Recorded.congr {registered : List Nat} (recorded : Recorded state registered)
    (ids : requestIds next = requestIds state)
    (kept : next.transactionShutdownSenders = state.transactionShutdownSenders) :
    Recorded next registered := by
  refine ⟨fun index listed => ids ▸ recorded.known index listed, fun requestId => ?_⟩
  rw [kept, hasRequestId_congr ids]
  exact recorded.recorded requestId

theorem Recorded.registered {registered : List Nat} (recorded : Recorded state registered)
    (ids : requestIds next = requestIds state) (found : (requestIds state)[index]? = some requestId)
    (inserted : next.transactionShutdownSenders =
      state.transactionShutdownSenders.insert requestId index) :
    Recorded next (index :: registered) := by
  obtain ⟨within, -⟩ := List.getElem?_eq_some_iff.mp found
  refine ⟨fun other listed => ?_, fun other => ?_⟩
  · rw [ids]
    rcases List.mem_cons.mp listed with same | earlier
    · rw [same]
      exact within
    · exact recorded.known other earlier
  · rw [inserted, hasRequestId_congr ids]
    by_cases same : other = requestId
    · have named : hasRequestId state other index = true := by simp [hasRequestId, found, same]
      rw [List.find?_cons_of_pos named, same]
      exact AList.lookup_insert _
    · have unnamed : ¬ hasRequestId state other index = true := by
        simp [hasRequestId, found, Ne.symm same]
      rw [List.find?_cons_of_neg unnamed, AList.lookup_insert_ne same]
      exact recorded.recorded other

theorem Recorded.step {registered : List Nat} (recorded : Recorded state registered)
    (took : (system env).step state label = some next) :
    Recorded next (noteRegistered registered label) := by
  cases step_effect took with
  | answered ids kept =>
    refine ⟨fun index listed => ?_, fun requestId => ?_⟩
    · rw [ids, List.length_append]
      exact Nat.lt_add_right _ (recorded.known index listed)
    · rw [kept, recorded.recorded requestId]
      exact List.find?_congr fun index listed =>
        hasRequestId_append ids (recorded.known index listed) requestId
  | registered ids found inserted => exact recorded.registered ids found inserted
  | moved ids kept => exact recorded.congr ids kept
  | drained ids emptied =>
    refine ⟨fun index none => absurd none List.not_mem_nil, fun requestId => ?_⟩
    rw [emptied]
    exact AList.lookup_empty requestId
  | runtimeClosed ids kept => exact recorded.congr ids kept

theorem recorded_initial : Recorded {} [] where
  known _ none := absurd none List.not_mem_nil
  recorded := AList.lookup_empty

theorem run_recorded {labels : List Label} (ran : (system env).run {} labels = some final) :
    Recorded final (registered labels) :=
  TransitionSystem.run_simulation Recorded.step recorded_initial ran

variable {registered : List Nat}

theorem Recorded.found (recorded : Recorded state registered)
    (found : state.transactionShutdownSenders.lookup requestId = some index) :
    index ∈ registered ∧ (requestIds state)[index]? = some requestId := by
  rw [recorded.recorded] at found
  exact ⟨List.mem_of_find?_eq_some found, by simpa [hasRequestId] using List.find?_some found⟩

/-- Where no id is used twice, nothing takes the place of an entry. -/
theorem Recorded.lookup (recorded : Recorded state registered) (distinct : (requestIds state).Nodup)
    (listed : index ∈ registered) :
    ∃ requestId, state.transactionShutdownSenders.lookup requestId = some index := by
  have within := recorded.known index listed
  have named : (requestIds state)[index]? = some (requestIds state)[index] :=
    List.getElem?_eq_getElem within
  refine ⟨(requestIds state)[index], ?_⟩
  have present : (registered.find? (hasRequestId state (requestIds state)[index])).isSome := by
    rw [List.find?_isSome]
    exact ⟨index, listed, by simp [hasRequestId, named]⟩
  obtain ⟨other, found⟩ := Option.isSome_iff_exists.mp present
  rw [← recorded.recorded] at found
  have same : other = index := by
    obtain ⟨-, otherNamed⟩ := recorded.found found
    obtain ⟨otherWithin, equal⟩ := List.getElem?_eq_some_iff.mp otherNamed
    exact (List.Nodup.getElem_inj_iff distinct).mp equal
  rw [found, same]

/-- Every entry belongs to a transaction that runs. -/
def KeepsRunning (state : State) : Prop :=
  ∀ requestId index, state.transactionShutdownSenders.lookup requestId = some index →
    isRunning state index = true

theorem Recorded.size_le (recorded : Recorded state registered) (running : KeepsRunning state) :
    state.transactionShutdownSenders.entries.length ≤ (stillRunning state).length := by
  have distinct : (HashMap.values state.transactionShutdownSenders).Nodup := by
    refine HashMap.values_nodup fun first second => ?_
    exact Option.some.inj ((recorded.found first).2.symm.trans (recorded.found second).2)
  have contained : HashMap.values state.transactionShutdownSenders ⊆ stillRunning state := by
    intro index listed
    obtain ⟨entry, entryListed, rfl⟩ := List.mem_map.mp listed
    have found := HashMap.lookup_of_mem entryListed
    have within := recorded.known _ (recorded.found found).1
    rw [requestIds, List.length_map] at within
    exact List.mem_filter.mpr ⟨List.mem_range.mpr within, running _ _ found⟩
  have bound := (List.Nodup.subperm distinct contained).length_le
  rwa [HashMap.values, List.length_map] at bound

/-- Nothing but `force_close` takes an entry out of the map, and the map is no larger than the
number of transactions that run only as long as those registered since then do. Ids are generated
to be distinct; where one is used again, the later transaction takes the place of the earlier. -/
theorem keeps_running_iff {labels : List Label} (ran : (system env).run {} labels = some final) :
    ((requestIds final).Nodup → (KeepsRunning final ↔
      ∀ index ∈ ShutdownSenders.registered labels, isRunning final index = true)) ∧
    ((∀ index ∈ ShutdownSenders.registered labels, isRunning final index = true) →
      KeepsRunning final) ∧
    (KeepsRunning final →
      final.transactionShutdownSenders.entries.length ≤ (stillRunning final).length) := by
  have recorded := run_recorded ran
  have kept : (∀ index ∈ ShutdownSenders.registered labels, isRunning final index = true) →
      KeepsRunning final :=
    fun running _ index found => running index (recorded.found found).1
  refine ⟨fun distinct => ⟨fun running index listed => ?_, kept⟩, kept, recorded.size_le⟩
  obtain ⟨requestId, found⟩ := recorded.lookup distinct listed
  exact running requestId index found

def openRun : List Label :=
  [.answer ⟨[1]⟩, .on 0 .create, .on 0 .startWorkers, .register 0]

theorem keeps_running_iff_open : ∃ state, (system .basic).run {} openRun = some state ∧
    state.transactionShutdownSenders.lookup ⟨[1]⟩ = some 0 ∧ KeepsRunning state := by
  have ran : (system .basic).run {} openRun = some _ := rfl
  refine ⟨_, ran, rfl, (keeps_running_iff ran).2.1 fun index listed => ?_⟩
  rw [List.mem_singleton.mp listed]
  rfl

def finishedRun : List Label :=
  let committed : List Transmitter.Label := Transmitter.commitRun ++ [.endStream] ++
    List.replicate 6 (.listen 0) ++ [.dispatch ⟨[]⟩]
  openRun ++ committed.map (fun label => .on 0 (.transaction label)) ++
    [.on 0 .drop, .on 0 .finishDrop]

theorem finished_transaction_kept :
    ∃ state, (system .basic).run {} finishedRun = some state ∧
      requestIds state = [⟨[1]⟩] ∧ stillRunning state = [] ∧
      state.transactionShutdownSenders.lookup ⟨[1]⟩ = some 0 :=
  ⟨_, rfl, rfl, rfl, rfl⟩

end ShutdownSenders

end TypeDBDriver
