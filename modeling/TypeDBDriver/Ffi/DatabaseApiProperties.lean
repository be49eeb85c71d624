import TypeDBDriver.Database.CacheCoherence
import TypeDBDriver.Ffi.DatabaseApi

/-! Who owns the databases that cross the C API. Each strong reference belongs to the cache,
to a handle, or to an iterator that has yet to hand it out. Every exported function keeps
the count equal to the number of owners, except the two that return a schema: they take a
reference over from a handle that the foreign side goes on using. -/

namespace TypeDBDriver.NativeState

open Library DatabaseManager

variable {σ : Type} {state next : NativeState σ}

def owned (state : NativeState σ) : List Arc := state.handles ++ state.iterators.flatten

def Owned (state : NativeState σ) : Prop := state.manager.Sound state.owned

/-- The call leaves the handle it is given with the foreign side and does not take its
reference, or takes both. -/
def respectsHandles : DatabaseCall → Bool
  | .databaseSchema _ => false
  | .databaseTypeSchema _ => false
  | _ => true

private theorem flatten_perm_set {α : Type} {lists : List (List α)} {position : Nat} {head : α}
    {rest : List α} (found : lists[position]? = some (head :: rest)) :
    lists.flatten.Perm (head :: (lists.set position rest).flatten) := by
  induction lists generalizing position with
  | nil => cases found
  | cons first others ih =>
    cases position with
    | zero =>
      cases found
      exact .refl _
    | succ position =>
      exact ((ih found).append_left first).trans List.perm_middle

private theorem flatten_perm_eraseIdx {α : Type} {lists : List (List α)} {position : Nat}
    {taken : List α} (found : lists[position]? = some taken) :
    lists.flatten.Perm (taken ++ (lists.eraseIdx position).flatten) := by
  induction lists generalizing position with
  | nil => cases found
  | cons first others ih =>
    cases position with
    | zero =>
      cases found
      exact .refl _
    | succ position =>
      exact ((ih found).append_left first).trans (List.perm_append_comm_assoc first taken _)

namespace Owned

section

variable (owned : Owned state)

include owned

theorem okRecord {α : Type} (result : Result α) : Owned (state.okRecord result).2 := by
  cases result <;> exact owned

theorem databasesAll (display : Error → String) : Owned (state.databasesAll display) := by
  have listed := Sound.all owned display
  unfold NativeState.databasesAll
  dsimp only
  cases answered : (state.manager.all display).1 with
  | error err =>
    rw [answered] at listed
    exact listed
  | ok databases =>
    rw [answered] at listed
    exact listed.perm (List.perm_append_comm_assoc databases state.handles _)

theorem databaseIteratorNext (iterator : Nat) : Owned (state.databaseIteratorNext iterator) := by
  unfold NativeState.databaseIteratorNext
  split
  next database rest found =>
    have split := (flatten_perm_set found).append_left state.handles
    exact owned.perm (split.trans List.perm_middle)
  next => exact owned

theorem databaseIteratorDrop (iterator : Nat) : Owned (state.databaseIteratorDrop iterator) := by
  unfold NativeState.databaseIteratorDrop
  split
  next databases found =>
    have split := (flatten_perm_eraseIdx found).append_left state.handles
    exact (owned.perm (split.trans (List.perm_append_comm_assoc _ databases _))).dropAll
  next => exact owned

theorem databasesCreate (display : Error → String) (name : String) :
    Owned (state.databasesCreate display name) := by
  have created : Owned { state with manager := (state.manager.create display name).2 } :=
    Sound.create owned display name
  exact created.okRecord _

theorem databasesContains (display : Error → String) (name : String) :
    Owned (state.databasesContains display name).2 := by
  have asked : Owned { state with manager := (state.manager.contains display name).2 } :=
    Sound.contains owned display name
  exact asked.okRecord _

theorem databasesGet (display : Error → String) {name : String}
    (got : state.databasesGet display name = some next) : Owned next := by
  have fetched := Sound.get owned display name
  unfold NativeState.databasesGet at got
  dsimp only at got
  split at got
  next answered =>
    cases got
    rw [answered] at fetched
    exact fetched
  next answered =>
    cases got
    rw [answered] at fetched
    exact fetched
  next => cases got

end

variable {handle : Nat} {database : Arc}

section

variable (owned : Owned state) (holds : state.handles[handle]? = some database)

include owned holds

theorem take : state.manager.Sound (database :: (state.forget handle).owned) := by
  obtain ⟨inside, rfl⟩ := List.getElem?_eq_some_iff.mp holds
  exact owned.perm ((List.getElem_cons_eraseIdx_perm inside).symm.append_right _)

theorem databaseClose : Owned ((state.databaseClose database).forget handle) :=
  (owned.take holds).dropArc

theorem databaseGetName {name : Option String}
    (named : state.databaseGetName database = some (name, next)) : Owned next := by
  have listed : database ∈ HashMap.values state.manager.databasesCache ++ state.owned :=
    List.mem_append_right _ (List.mem_append_left _ (List.mem_of_getElem? holds))
  obtain ⟨borrowed, stored⟩ := owned.balanced.value listed
  unfold NativeState.databaseGetName at named
  rw [owned.balanced.borrow listed, stored] at named
  obtain ⟨text, _, same⟩ := Option.map_eq_some_iff.mp named
  cases same
  exact owned

theorem databaseDelete : Owned ((state.databaseDelete database).forget handle) := by
  have deleted : Owned
      ({ state with manager := (state.manager.deleteDatabase database).2 }.forget handle) :=
    (owned.take holds).deleteDatabase
  unfold NativeState.databaseDelete
  dsimp only
  split
  · exact deleted
  next result _ => cases result <;> exact deleted

end

theorem step (display : Error → String) {call : DatabaseCall} (owned : Owned state)
    (respects : respectsHandles call = true)
    (took : (system σ display).step state call = some next) : Owned next := by
  cases call with
  | databasesAll =>
    cases took
    exact owned.databasesAll display
  | databaseIteratorNext iterator =>
    cases took
    exact owned.databaseIteratorNext iterator
  | databaseIteratorDrop iterator =>
    cases took
    exact owned.databaseIteratorDrop iterator
  | databasesCreate name =>
    cases took
    exact owned.databasesCreate display name
  | databasesContains name =>
    cases took
    exact owned.databasesContains display name
  | databasesGet name => exact owned.databasesGet display took
  | databaseClose handle =>
    obtain ⟨database, holds, rfl⟩ := Option.map_eq_some_iff.mp took
    exact owned.databaseClose holds
  | databaseGetName handle =>
    obtain ⟨database, holds, answered⟩ := Option.bind_eq_some_iff.mp took
    obtain ⟨⟨name, after⟩, named, rfl⟩ := Option.map_eq_some_iff.mp answered
    exact owned.databaseGetName holds named
  | databaseDelete handle =>
    obtain ⟨database, holds, rfl⟩ := Option.map_eq_some_iff.mp took
    exact owned.databaseDelete holds
  | databaseSchema handle => cases respects
  | databaseTypeSchema handle => cases respects

end Owned

/-- As long as no schema is asked for, every database has one strong reference for each
handle, each iterator element not handed out and each cache entry, and no call reaches a
database that was freed. -/
theorem strong_count_eq_owners (display : Error → String)
    {serverConnections : HashMap Address (ServerConnection σ)} {databaseInfo : List DatabaseInfo}
    {server : σ} {manager : DatabaseManager σ} {calls : List DatabaseCall} {final : NativeState σ}
    (created : DatabaseManager.new serverConnections databaseInfo server = .ok manager)
    (meets : (system σ display).Meets (fun _ call => respectsHandles call = true) { manager } calls)
    (ran : (system σ display).run { manager } calls = some final) :
    (∀ database, final.manager.heap.strong database =
      final.handles.count database + final.iterators.flatten.count database +
        (HashMap.values final.manager.databasesCache).count database) ∧
    final.manager.heap.faulted = false := by
  have opened : Owned ({ manager } : NativeState σ) := Sound.new created
  have owned : Owned final := TransitionSystem.run_invariant
    (fun owned respects took => Owned.step display owned respects took) opened meets ran
  refine ⟨fun database => ?_, owned.balanced.sound⟩
  rw [owned.balanced.counted, NativeState.owned, List.count_append, List.count_append, Nat.add_comm]

def closedHandleCalls : List DatabaseCall :=
  [.databasesGet "orders", .databaseGetName 0, .databaseClose 0]

theorem strong_count_eq_owners_closed :
    ∃ manager final,
      DatabaseManager.new SingleServer.basic.connections (["orders"].map SingleServer.basic.info)
        ["orders"] = .ok manager ∧
      (system _ fun _ => "").run { manager } closedHandleCalls = some final ∧
      final.manager.heap.strong 0 =
        final.handles.count 0 + final.iterators.flatten.count 0 +
          (HashMap.values final.manager.databasesCache).count 0 := by
  refine ⟨_, _, rfl, rfl, ?_⟩
  have counted := strong_count_eq_owners (fun _ => "")
    (show DatabaseManager.new SingleServer.basic.connections
      (["orders"].map SingleServer.basic.info) ["orders"] = .ok _ from rfl)
    (show (system _ _).Meets _ _ closedHandleCalls from by decide)
    (show (system _ _).run _ closedHandleCalls = some _ from rfl)
  exact counted.1 0

/-- Reading the schema through a handle leaves the database with one reference fewer than
owners. When the handle is closed the cache is left with a freed database, and the next
`databases_get` hands it out. -/
theorem databaseSchema_frees_cached :
    ∃ manager middle final,
      DatabaseManager.new SingleServer.basic.connections (["orders"].map SingleServer.basic.info)
        ["orders"] = .ok manager ∧
      (system _ fun _ => "").run { manager } [.databasesGet "orders", .databaseSchema 0] =
        some middle ∧
      middle.manager.heap.strong 0 = 1 ∧ middle.handles = [0] ∧
      HashMap.values middle.manager.databasesCache = [0] ∧
      (system _ fun _ => "").run middle [.databaseClose 0, .databasesGet "orders"] = some final ∧
      final.manager.heap.faulted = true :=
  ⟨_, _, _, rfl, rfl, rfl, rfl, rfl, rfl, rfl⟩

end TypeDBDriver.NativeState
