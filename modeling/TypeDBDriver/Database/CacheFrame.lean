import TypeDBDriver.Database.DatabaseManagerProperties

/-! What an operation of the manager that fails leaves in the cache, and what `all` puts there
when it succeeds. -/

namespace TypeDBDriver.DatabaseManager

open Library

variable {σ ρ : Type} {manager next : DatabaseManager σ} {held : List Arc}

/-- The cache is the given map afterwards, and nothing is written to a database that was there. -/
structure CacheBecomes (manager next : DatabaseManager σ) (databasesCache : HashMap String Arc) :
    Prop where
  entries : next.databasesCache = databasesCache
  databases {arc : Arc} {database : Database σ} : manager.heap.value? arc = some database →
    next.heap.value? arc = some database

variable {databasesCache : HashMap String Arc}

theorem CacheBecomes.server {server : σ}
    (becomes : CacheBecomes { manager with server } next databasesCache) :
    CacheBecomes manager next databasesCache :=
  ⟨becomes.entries, becomes.databases⟩

variable {heap : ArcHeap (Database σ)}

theorem value?_newDatabases {serverConnections : HashMap Address (ServerConnection σ)} {arc : Arc}
    {database : Database σ} (stored : heap.value? arc = some database) (list : List DatabaseInfo)
    (databases : List Arc) :
    (newDatabases serverConnections list databases heap).2.value? arc = some database := by
  induction list generalizing databases heap with
  | nil => exact stored
  | cons info rest ih =>
    unfold newDatabases
    cases Database.new info serverConnections with
    | error err => exact (ArcHeap.value?_dropAll heap databases arc).trans stored
    | ok added => exact ih (ArcHeap.value?_new_of_some stored) _

variable {list : List DatabaseInfo} {err : Error}

/-- A replica at an unknown address fails the conversion before the cache is locked. -/
theorem cacheBecomes_replaceAll (failed : manager.replaceAll list = (.error err, next)) :
    CacheBecomes manager next manager.databasesCache := by
  have kept : ∀ {arc : Arc} {database : Database σ}, manager.heap.value? arc = some database →
      (newDatabases manager.serverConnections list [] manager.heap).2.value? arc = some database :=
    fun stored => value?_newDatabases stored list []
  unfold replaceAll at failed
  split at failed
  · next made =>
      cases failed
      rw [made] at kept
      exact ⟨rfl, kept⟩
  · cases failed

variable {display : Error → String}

variable {connections : List (Σ _ : Address, ServerConnection σ)} {errorBuffer : List String}

theorem cacheBecomes_allFrom
    (failed : allFrom display connections errorBuffer manager = (.error err, next)) :
    CacheBecomes manager next manager.databasesCache := by
  induction connections generalizing manager errorBuffer with
  | nil =>
    cases failed
    exact ⟨rfl, id⟩
  | cons connection rest ih =>
    unfold allFrom at failed
    split at failed
    · exact (cacheBecomes_replaceAll failed).server
    · exact (ih failed).server

/-- The reference that a map made of the list has for a name: the last one of that name. -/
def keyedByName (heap : ArcHeap (Database σ)) (databases : List Arc) (name : String) : Option Arc :=
  databases.reverse.find? fun arc => nameOf heap arc = some name

variable {arcs : List Arc}

theorem lookup_cacheShareAll (sound : Sound manager held) (owned : arcs ⊆ held) (name : String) :
    (arcs.foldl cacheShare manager).databasesCache.lookup name =
      (keyedByName manager.heap arcs name).or (manager.databasesCache.lookup name) := by
  induction arcs generalizing manager with
  | nil => rfl
  | cons arc rest ih =>
    obtain ⟨first, others⟩ := List.cons_subset.mp owned
    obtain ⟨database, stored⟩ := sound.balanced.value (List.mem_append_right _ first)
    have named : nameOf manager.heap arc = some database.name := by simp [nameOf, stored]
    have unchanged : nameOf (manager.cacheShare arc).heap = nameOf manager.heap := by
      funext other
      simp [nameOf]
    have inserted : (manager.cacheShare arc).databasesCache.lookup name =
        ([arc].find? fun other => nameOf manager.heap other = some name).or
          (manager.databasesCache.lookup name) := by
      rw [cacheShare_eq sound first named]
      by_cases same : name = database.name
      · subst same
        simp [cacheArc, ArcHeap.insertArc, named]
      · simp [cacheArc, ArcHeap.insertArc, AList.lookup_insert_ne same, named, Ne.symm same]
    rw [List.foldl_cons, ih (sound.cacheShare first) others, inserted, keyedByName, keyedByName,
      unchanged, List.reverse_cons, List.find?_append, Option.or_assoc]

theorem sound_cacheClear {databases : List Arc}
    (balanced : Balanced manager.heap (HashMap.values manager.databasesCache ++ held))
    (allocated : newDatabases manager.serverConnections list [] manager.heap =
      (.ok databases, heap)) : Sound (cacheClear { manager with heap }) (databases ++ held) := by
  have uncached : Sound { manager with databasesCache := ∅ }
      ([] ++ (HashMap.values manager.databasesCache ++ held)) :=
    ⟨balanced, fun none => by cases none⟩
  have made := uncached.newDatabases manager.serverConnections list
  dsimp only at made
  rw [allocated] at made
  exact (made.perm (List.perm_append_comm_assoc _ _ _)).dropAll

theorem lookup_replaceAll (replaced : manager.replaceAll list = (.ok arcs, next))
    (balanced : Balanced manager.heap (HashMap.values manager.databasesCache ++ held))
    (name : String) : next.databasesCache.lookup name = keyedByName next.heap arcs name := by
  unfold replaceAll at replaced
  split at replaced
  · cases replaced
  next databases heap allocated =>
    cases replaced
    have cleared := sound_cacheClear balanced allocated
    have unchanged : nameOf (arcs.foldl cacheShare (cacheClear { manager with heap })).heap =
        nameOf (cacheClear { manager with heap }).heap := by
      funext arc
      rw [nameOf, value?_cacheShareAll, nameOf]
    rw [lookup_cacheShareAll cleared (List.subset_append_left _ _), keyedByName, keyedByName,
      unchanged]
    exact Option.or_none

theorem lookup_allFrom (listed : allFrom display connections errorBuffer manager = (.ok arcs, next))
    (balanced : Balanced manager.heap (HashMap.values manager.databasesCache ++ held))
    (name : String) : next.databasesCache.lookup name = keyedByName next.heap arcs name := by
  induction connections generalizing manager errorBuffer with
  | nil => cases listed
  | cons connection rest ih =>
    unfold allFrom at listed
    split at listed
    · exact lookup_replaceAll listed balanced name
    · exact ih listed balanced

/-- The cache after a `get` that has failed: the name is removed if the servers do not have it. -/
def cacheAfterFailedGet (display : Error → String) (name : String) (manager : DatabaseManager σ) :
    HashMap String Arc :=
  if (manager.contains display name).1 = .ok false then manager.databasesCache.erase name
  else manager.databasesCache

theorem runFailsafe_frame {task : ServerConnection σ → σ → Result ρ × σ} {res : Result ρ}
    (ran : manager.runFailsafe display task = (res, next)) :
    ∃ server, next = { manager with server } := by
  cases ran
  exact ⟨_, rfl⟩

variable {name : String}

theorem tryGetCached_eq_none (missed : manager.tryGetCached name = (none, next)) :
    next = manager := by
  unfold tryGetCached at missed
  split at missed
  · cases missed
  · exact (congrArg Prod.snd missed).symm

theorem unwrap_ne_error (cached : Option Arc) (err : Error) :
    Outcome.unwrap cached ≠ .error err := by
  cases cached <;> simp [Outcome.unwrap]

theorem cacheBecomes_get (failed : manager.get display name = (.error err, next)) :
    CacheBecomes manager next (cacheAfterFailedGet display name manager) := by
  unfold cacheAfterFailedGet
  unfold get at failed
  split at failed
  · next contained =>
      obtain ⟨server, rfl⟩ := runFailsafe_frame contained
      cases failed
      rw [contained, if_neg (by simp)]
      exact ⟨rfl, id⟩
  · next contained =>
      obtain ⟨server, rfl⟩ := runFailsafe_frame contained
      cases failed
      rw [contained, if_pos rfl]
      exact ⟨rfl, fun stored => by simpa [cacheRemove] using stored⟩
  · next contained =>
      obtain ⟨server, rfl⟩ := runFailsafe_frame contained
      rw [contained, if_neg (by simp)]
      split at failed
      · cases failed
      · next missed =>
          cases tryGetCached_eq_none missed
          split at failed
          · cases failed
            exact ⟨rfl, id⟩
          · exact absurd (congrArg Prod.fst failed) (unwrap_ne_error _ err)

theorem cacheBecomes_create (failed : manager.create display name = (.error err, next)) :
    CacheBecomes manager next manager.databasesCache := by
  unfold create at failed
  split at failed
  · next asked =>
      obtain ⟨server, rfl⟩ := runFailsafe_frame asked
      cases failed
      exact ⟨rfl, id⟩
  · next asked =>
      obtain ⟨server, rfl⟩ := runFailsafe_frame asked
      split at failed
      · cases failed
        exact ⟨rfl, id⟩
      · cases failed

theorem erase_of_lookup_eq_none (absent : databasesCache.lookup name = none) :
    databasesCache.erase name = databasesCache :=
  AList.ext (List.kerase_of_notMem_keys (List.dlookup_eq_none.mp absent))

/-- Here the name that `get` removes is not in the cache. -/
theorem cacheBecomes_getCachedOrFetch
    (failed : manager.getCachedOrFetch display name = (.error err, next)) :
    CacheBecomes manager next manager.databasesCache := by
  cases cached : manager.databasesCache.lookup name with
  | some arc =>
    rw [getCachedOrFetch_of_cached cached] at failed
    cases failed
  | none =>
    rw [getCachedOrFetch_of_absent cached] at failed
    have becomes := cacheBecomes_get failed
    rwa [cacheAfterFailedGet, erase_of_lookup_eq_none cached, ite_self] at becomes

/-- An operation that fails leaves the cache as it is, whatever the servers answer; only `get`
removes the name it is asked for when the servers say that there is no such database. After a
successful `all` the cache is the returned list by name. -/
theorem failed_operations_leave_cache (display : Error → String) (manager : DatabaseManager σ) :
    (∀ err next, manager.all display = (.error err, next) →
      CacheBecomes manager next manager.databasesCache) ∧
    (∀ name err next, manager.get display name = (.error err, next) →
      CacheBecomes manager next (cacheAfterFailedGet display name manager)) ∧
    (∀ name err next, manager.create display name = (.error err, next) →
      CacheBecomes manager next manager.databasesCache) ∧
    (∀ name err next, manager.getCachedOrFetch display name = (.error err, next) →
      CacheBecomes manager next manager.databasesCache) ∧
    ∀ held arcs next, Balanced manager.heap (HashMap.values manager.databasesCache ++ held) →
      manager.all display = (.ok arcs, next) →
      ∀ name, next.databasesCache.lookup name = keyedByName next.heap arcs name :=
  ⟨fun _ _ failed => cacheBecomes_allFrom failed, fun _ _ _ failed => cacheBecomes_get failed,
    fun _ _ _ failed => cacheBecomes_create failed,
    fun _ _ _ failed => cacheBecomes_getCachedOrFetch failed,
    fun _ _ _ balanced listed => lookup_allFrom listed balanced⟩

/-- The only server refuses the connection, and a database is in the cache. -/
theorem failed_operations_leave_cache_refused : let connection : ServerConnection Unit :=
      ⟨fun _ server => (.error (.other "refused"), server), fun _ => ""⟩
    let manager : DatabaseManager Unit :=
      cacheInsert ⟨"movies", [], ∅⟩
        { serverConnections := AList.insert ⟨⟨"localhost", none⟩⟩ connection ∅, server := () }
    ∃ err next, manager.all (fun _ => "") = (.error err, next) ∧
      manager.databasesCache.lookup "movies" = some 0 ∧
      next.databasesCache = manager.databasesCache :=
  ⟨_, _, rfl, rfl, ((failed_operations_leave_cache (fun _ => "") _).1 _ _ rfl).entries⟩

end TypeDBDriver.DatabaseManager
