import TypeDBDriver.Database.DatabaseManager

/-! What every operation of the database manager keeps, whatever the servers answer: each
database has as many owners as its count says, and the cache files it under its name. -/

namespace TypeDBDriver.DatabaseManager

open Library

variable {σ ρ : Type} {manager : DatabaseManager σ} {held : List Arc}

variable {heap : ArcHeap (Database σ)} {arc : Arc} {name : String}

theorem nameOf_new (named : nameOf heap arc = some name) (database : Database σ) :
    nameOf (heap.new database).2 arc = some name := by
  obtain ⟨known, stored, rfl⟩ := Option.map_eq_some_iff.mp named
  simp [nameOf, ArcHeap.value?_new_of_some stored]

/-- `held` lists the references outside the cache. -/
structure Sound (manager : DatabaseManager σ) (held : List Arc) : Prop where
  balanced : Balanced manager.heap (HashMap.values manager.databasesCache ++ held)
  keyed : ∀ {name : String} {arc : Arc}, manager.databasesCache.lookup name = some arc →
    nameOf manager.heap arc = some name

@[simp] theorem granted_unwrap (cached : Option Arc) :
    granted (Outcome.unwrap cached) = cached.toList := by
  cases cached <;> rfl

variable {next : DatabaseManager σ}

theorem cacheInfo_eq_ok {info : DatabaseInfo} (cached : manager.cacheInfo info = .ok next) :
    ∃ database, Database.new info manager.serverConnections = .ok database ∧
      next = manager.cacheInsert database := by
  unfold cacheInfo at cached
  split at cached
  next database created =>
    cases cached
    exact ⟨database, created, rfl⟩
  next => cases cached

theorem cacheInfos_cons {info : DatabaseInfo} {rest : List DatabaseInfo}
    (cached : (info :: rest).foldlM cacheInfo manager = .ok next) :
    ∃ database, Database.new info manager.serverConnections = .ok database ∧
      rest.foldlM cacheInfo (manager.cacheInsert database) = .ok next := by
  rw [List.foldlM_cons] at cached
  cases first : manager.cacheInfo info with
  | error err =>
    rw [first] at cached
    cases cached
  | ok middle =>
    obtain ⟨database, created, rfl⟩ := cacheInfo_eq_ok first
    rw [first] at cached
    exact ⟨database, created, cached⟩

theorem cacheInfos_invariant (property : DatabaseManager σ → Prop) {infos : List DatabaseInfo}
    (preserved : ∀ info ∈ infos, ∀ (manager : DatabaseManager σ) (database : Database σ),
      property manager → Database.new info manager.serverConnections = .ok database →
        property (manager.cacheInsert database)) (holds : property manager)
    (cached : infos.foldlM cacheInfo manager = .ok next) : property next := by
  induction infos generalizing manager with
  | nil =>
    cases cached
    exact holds
  | cons info rest ih =>
    obtain ⟨database, created, cached⟩ := cacheInfos_cons cached
    exact ih (fun later listed => preserved later (List.mem_cons_of_mem _ listed))
      (preserved info List.mem_cons_self manager database holds created) cached

namespace Sound

theorem perm {others : List Arc} (sound : Sound manager held) (same : held.Perm others) :
    Sound manager others :=
  ⟨sound.balanced.perm (same.append_left _), sound.keyed⟩

theorem withServer (sound : Sound manager held) (server : σ) : Sound { manager with server } held :=
  ⟨sound.balanced, sound.keyed⟩

theorem runFailsafe (sound : Sound manager held) (display : Error → String)
    (task : ServerConnection σ → σ → Result ρ × σ) :
    Sound (manager.runFailsafe display task).2 held :=
  sound.withServer _

theorem tryGetCached (sound : Sound manager held) (name : String) :
    Sound (manager.tryGetCached name).2 ((manager.tryGetCached name).1.toList ++ held) := by
  unfold DatabaseManager.tryGetCached
  cases found : manager.databasesCache.lookup name with
  | none => exact sound
  | some arc =>
    have cached : arc ∈ HashMap.values manager.databasesCache ++ held :=
      List.mem_append_left _ (HashMap.mem_values found)
    refine ⟨(sound.balanced.clone cached).perm List.perm_middle.symm, fun listed => ?_⟩
    simpa [nameOf] using sound.keyed listed

variable {arc : Arc}

theorem dropArc (sound : Sound manager (arc :: held)) : Sound (manager.dropArc arc) held := by
  refine ⟨(sound.balanced.perm List.perm_middle).drop, fun listed => ?_⟩
  simpa [nameOf, DatabaseManager.dropArc] using sound.keyed listed

theorem dropAll {arcs : List Arc} (sound : Sound manager (arcs ++ held)) :
    Sound { manager with heap := manager.heap.dropAll arcs } held := by
  have gathered := sound.balanced.perm (List.perm_append_comm_assoc _ arcs held)
  refine ⟨gathered.dropAll, fun listed => ?_⟩
  simpa [nameOf] using sound.keyed listed

theorem cacheArc {database : Database σ} (sound : Sound manager (arc :: held))
    (stored : manager.heap.value? arc = some database) :
    Sound (manager.cacheArc database.name arc) held := by
  constructor
  · exact (sound.balanced.perm List.perm_middle).insertArc database.name
  · intro name other listed
    simp only [nameOf, DatabaseManager.cacheArc, ArcHeap.value?_insertArc]
    by_cases same : name = database.name
    · subst same
      have inserted : other = arc := by
        simpa [DatabaseManager.cacheArc, ArcHeap.insertArc, eq_comm] using listed
      simp [inserted, stored]
    · exact sound.keyed (by
        simpa [DatabaseManager.cacheArc, ArcHeap.insertArc, AList.lookup_insert_ne same]
          using listed)

section

variable (sound : Sound manager held)

include sound

theorem allocate (database : Database σ) :
    Sound { manager with heap := (manager.heap.new database).2 }
      ((manager.heap.new database).1 :: held) := by
  refine ⟨(sound.balanced.new database).perm List.perm_middle.symm, fun listed => ?_⟩
  exact nameOf_new (sound.keyed listed) database

theorem cacheInsert (database : Database σ) : Sound (manager.cacheInsert database) held :=
  (sound.allocate database).cacheArc (ArcHeap.value?_new manager.heap database)

theorem cacheRemove (name : String) : Sound (manager.cacheRemove name) held := by
  constructor
  · exact sound.balanced.removeArc name
  · intro other arc listed
    simp only [nameOf, DatabaseManager.cacheRemove, ArcHeap.value?_removeArc]
    by_cases same : other = name
    · subst same
      simp [DatabaseManager.cacheRemove, ArcHeap.removeArc] at listed
    · exact sound.keyed (by
        simpa [DatabaseManager.cacheRemove, ArcHeap.removeArc, AList.lookup_erase_ne same]
          using listed)

theorem cacheClear : Sound manager.cacheClear held :=
  ⟨sound.balanced.dropAll, by rintro _ _ ⟨⟩⟩

theorem cacheShare (owned : arc ∈ held) : Sound (manager.cacheShare arc) held := by
  have listed : arc ∈ HashMap.values manager.databasesCache ++ held :=
    List.mem_append_right _ owned
  obtain ⟨database, stored⟩ := sound.balanced.value listed
  unfold DatabaseManager.cacheShare
  rw [sound.balanced.borrow listed, stored]
  have cloned : Sound { manager with heap := manager.heap.clone arc } (arc :: held) := by
    refine ⟨(sound.balanced.clone listed).perm List.perm_middle.symm, fun found => ?_⟩
    simpa [nameOf] using sound.keyed found
  exact cloned.cacheArc (by simpa using stored)

theorem cacheShareAll {arcs : List Arc} (owned : arcs ⊆ held) :
    Sound (arcs.foldl DatabaseManager.cacheShare manager) held := by
  induction arcs generalizing manager with
  | nil => exact sound
  | cons arc rest ih =>
    obtain ⟨first, others⟩ := List.cons_subset.mp owned
    exact ih (sound.cacheShare first) others

end

theorem new {serverConnections : HashMap Address (ServerConnection σ)}
    {databaseInfo : List DatabaseInfo} {server : σ}
    (created : DatabaseManager.new serverConnections databaseInfo server = .ok manager) :
    Sound manager [] := by
  have empty : Sound ({ serverConnections, server } : DatabaseManager σ) [] :=
    ⟨.empty, by rintro _ _ ⟨⟩⟩
  exact cacheInfos_invariant (Sound · [])
    (fun _ _ _ database sound _ => sound.cacheInsert database) empty created

theorem newDatabases {databases : List Arc} (sound : Sound manager (databases ++ held))
    (serverConnections : HashMap Address (ServerConnection σ)) (list : List DatabaseInfo) :
    Sound
      { manager with
        heap := (DatabaseManager.newDatabases serverConnections list databases manager.heap).2 }
      (grantedAll (DatabaseManager.newDatabases serverConnections list databases manager.heap).1 ++
        held) := by
  induction list generalizing manager databases with
  | nil => exact sound
  | cons info rest ih =>
    unfold DatabaseManager.newDatabases
    cases created : Database.new info serverConnections with
    | error err => exact sound.dropAll
    | ok database =>
      have appended : Sound { manager with heap := (manager.heap.new database).2 }
          (databases ++ [(manager.heap.new database).1] ++ held) :=
        (sound.allocate database).perm (by simpa using List.perm_middle.symm)
      exact ih appended

section

variable (sound : Sound manager held)

include sound

theorem replaceAll (list : List DatabaseInfo) :
    Sound (manager.replaceAll list).2 (grantedAll (manager.replaceAll list).1 ++ held) := by
  have unallocated : Sound manager ([] ++ held) := sound
  have made := unallocated.newDatabases manager.serverConnections list
  unfold DatabaseManager.replaceAll
  split
  next failed => simpa only [failed] using made
  next databases heap allocated =>
    rw [allocated] at made
    exact made.cacheClear.cacheShareAll (List.subset_append_left _ _)

theorem allFrom (display : Error → String) (connections : List (Σ _ : Address, ServerConnection σ))
    (errorBuffer : List String) :
    Sound (DatabaseManager.allFrom display connections errorBuffer manager).2
      (grantedAll (DatabaseManager.allFrom display connections errorBuffer manager).1 ++ held) := by
  induction connections generalizing manager errorBuffer with
  | nil => exact sound
  | cons connection rest ih =>
    unfold DatabaseManager.allFrom
    split
    · exact (sound.withServer _).replaceAll _
    · exact ih (sound.withServer _) _

theorem all (display : Error → String) :
    Sound (manager.all display).2 (grantedAll (manager.all display).1 ++ held) :=
  sound.allFrom display manager.serverConnections.entries []

theorem contains (display : Error → String) (name : String) :
    Sound (manager.contains display name).2 held :=
  sound.runFailsafe display _

theorem get (display : Error → String) (name : String) :
    Sound (manager.get display name).2 (granted (manager.get display name).1 ++ held) := by
  have asked := sound.contains display name
  unfold DatabaseManager.get
  split
  next found =>
    rw [found] at asked
    exact asked
  next found =>
    rw [found] at asked
    exact asked.cacheRemove name
  next middle found =>
    rw [found] at asked
    have cached := asked.tryGetCached name
    split
    next hit =>
      rw [hit] at cached
      exact cached
    next missed =>
      rw [missed] at cached
      split
      · exact cached.withServer _
      next database server fetched =>
        have inserted := (cached.withServer server).cacheInsert database
        dsimp only
        rw [granted_unwrap]
        exact inserted.tryGetCached name

theorem create (display : Error → String) (name : String) :
    Sound (manager.create display name).2 held := by
  have asked := sound.runFailsafe display fun connection => connection.createDatabase name
  unfold DatabaseManager.create
  split
  next answered => simpa only [answered] using asked
  next answered =>
    rw [answered] at asked
    split
    · exact asked
    next cached =>
      obtain ⟨database, _, rfl⟩ := cacheInfo_eq_ok cached
      exact asked.cacheInsert database

theorem getCachedOrFetch (display : Error → String) (name : String) :
    Sound (manager.getCachedOrFetch display name).2
      (granted (manager.getCachedOrFetch display name).1 ++ held) := by
  have cached := sound.tryGetCached name
  unfold DatabaseManager.getCachedOrFetch
  split
  next hit =>
    rw [hit] at cached
    exact cached
  next missed =>
    rw [missed] at cached
    exact cached.get display name

theorem onDatabase {op : Database σ → σ → Result ρ × Database σ × σ}
    (keeps : ∀ database server, (op database server).2.1.name = database.name)
    (owned : arc ∈ held) : Sound (manager.onDatabase op arc).2 held := by
  have listed : arc ∈ HashMap.values manager.databasesCache ++ held :=
    List.mem_append_right _ owned
  obtain ⟨database, stored⟩ := sound.balanced.value listed
  unfold DatabaseManager.onDatabase
  rw [sound.balanced.borrow listed, stored]
  refine ⟨sound.balanced.set listed _, fun {name other} found => ?_⟩
  have named := sound.keyed found
  by_cases same : arc = other
  · subst same
    rw [nameOf, stored] at named
    rw [nameOf, ArcHeap.value?_set (sound.balanced.live listed)]
    exact (congrArg some (keeps _ _)).trans named
  · rw [nameOf, ArcHeap.value?_set_of_ne same]
    exact named

end

theorem deleteDatabase (sound : Sound manager (arc :: held)) :
    Sound (manager.deleteDatabase arc).2 held :=
  (sound.onDatabase Database.delete_name List.mem_cons_self).dropArc

end Sound

def isCached (manager : DatabaseManager σ) (name : String) : Bool :=
  (manager.databasesCache.lookup name).isSome

theorem isCached_cacheArc (manager : DatabaseManager σ) (key : String) (arc : Arc) (name : String) :
    (manager.cacheArc key arc).isCached name ↔ name = key ∨ manager.isCached name := by
  unfold isCached cacheArc ArcHeap.insertArc
  by_cases same : name = key
  · subst same
    simp
  · simp [same, AList.lookup_insert_ne same]

theorem isCached_cacheInsert (manager : DatabaseManager σ) (database : Database σ) (name : String) :
    (manager.cacheInsert database).isCached name ↔
      name = database.name ∨ manager.isCached name :=
  isCached_cacheArc _ database.name _ name

theorem isCached_cacheInfos {infos : List DatabaseInfo}
    (cached : infos.foldlM cacheInfo manager = .ok next) (name : String) :
    next.isCached name ↔ manager.isCached name ∨ name ∈ infos.map (·.name) := by
  induction infos generalizing manager with
  | nil =>
    cases cached
    simp
  | cons info rest ih =>
    obtain ⟨database, created, cached⟩ := cacheInfos_cons cached
    rw [ih cached, isCached_cacheInsert, Database.new_name created, List.map_cons, List.mem_cons]
    tauto

theorem isCached_cacheRemove (manager : DatabaseManager σ) (key name : String) :
    (manager.cacheRemove key).isCached name ↔ name ≠ key ∧ manager.isCached name := by
  unfold isCached cacheRemove ArcHeap.removeArc
  by_cases same : name = key
  · subst same
    simp
  · simp [same, AList.lookup_erase_ne same]

theorem tryGetCached_isSome (manager : DatabaseManager σ) (name : String) :
    (manager.tryGetCached name).1.isSome = manager.isCached name := by
  unfold tryGetCached isCached
  cases manager.databasesCache.lookup name <;> rfl

theorem getCachedOrFetch_of_cached (cached : manager.databasesCache.lookup name = some arc)
    (display : Error → String) :
    manager.getCachedOrFetch display name =
      (.ok arc, { manager with heap := manager.heap.clone arc }) := by
  rw [getCachedOrFetch, tryGetCached, cached]

theorem getCachedOrFetch_of_absent (absent : manager.databasesCache.lookup name = none)
    (display : Error → String) :
    manager.getCachedOrFetch display name = manager.get display name := by
  rw [getCachedOrFetch, tryGetCached, absent]

theorem cacheShare_eq (sound : Sound manager held) (owned : arc ∈ held) {key : String}
    (named : nameOf manager.heap arc = some key) :
    manager.cacheShare arc = { manager with heap := manager.heap.clone arc }.cacheArc key arc := by
  obtain ⟨database, stored, rfl⟩ := Option.map_eq_some_iff.mp named
  unfold cacheShare
  rw [sound.balanced.borrow (List.mem_append_right _ owned), stored]

@[simp] theorem value?_cacheArc (manager : DatabaseManager σ) (key : String) (arc other : Arc) :
    (manager.cacheArc key arc).heap.value? other = manager.heap.value? other :=
  ArcHeap.value?_insertArc manager.heap manager.databasesCache key arc other

@[simp] theorem value?_cacheShare (manager : DatabaseManager σ) (arc other : Arc) :
    (manager.cacheShare arc).heap.value? other = manager.heap.value? other := by
  have read := ArcHeap.value?_borrow manager.heap arc other
  unfold cacheShare
  split
  next borrowed => simpa [borrowed] using read
  next borrowed => simpa only [borrowed] using read

theorem value?_cacheShareAll (manager : DatabaseManager σ) (arcs : List Arc) (other : Arc) :
    (arcs.foldl cacheShare manager).heap.value? other = manager.heap.value? other := by
  induction arcs generalizing manager with
  | nil => rfl
  | cons arc rest ih =>
    exact (ih (manager.cacheShare arc)).trans (value?_cacheShare manager arc other)

variable {arcs : List Arc}

theorem isCached_cacheShareAll (sound : Sound manager held) (owned : arcs ⊆ held) (name : String) :
    (arcs.foldl cacheShare manager).isCached name ↔
      manager.isCached name ∨ some name ∈ arcs.map (nameOf manager.heap) := by
  induction arcs generalizing manager with
  | nil => simp
  | cons arc rest ih =>
    obtain ⟨first, others⟩ := List.cons_subset.mp owned
    obtain ⟨database, stored⟩ := sound.balanced.value (List.mem_append_right _ first)
    have named : nameOf manager.heap arc = some database.name := by simp [nameOf, stored]
    have shared := ih (sound.cacheShare first) others
    have unchanged : nameOf (manager.cacheShare arc).heap = nameOf manager.heap := by
      funext other
      simp [nameOf]
    have inserted : (manager.cacheShare arc).isCached name ↔
        name = database.name ∨ manager.isCached name := by
      rw [cacheShare_eq sound first named, isCached_cacheArc]
      rfl
    rw [List.foldl_cons, shared, inserted, unchanged, List.map_cons, List.mem_cons, named,
      Option.some.injEq]
    tauto

variable {serverConnections : HashMap Address (ServerConnection σ)} {list : List DatabaseInfo}

theorem newDatabases_names {databases : List Arc} {after : ArcHeap (Database σ)}
    (known : ∀ arc ∈ databases, ∃ name, nameOf heap arc = some name)
    (made : newDatabases serverConnections list databases heap = (.ok arcs, after)) :
    arcs.map (nameOf after) =
      databases.map (nameOf heap) ++ list.map fun info => some info.name := by
  induction list generalizing databases heap with
  | nil =>
    cases made
    simp
  | cons info rest ih =>
    unfold newDatabases at made
    cases created : Database.new info serverConnections with
    | error err =>
      rw [created] at made
      cases made
    | ok database =>
      rw [created] at made
      have fresh : nameOf (heap.new database).2 (heap.new database).1 = some info.name := by
        rw [nameOf, ArcHeap.value?_new, Option.map_some, Database.new_name created]
      have kept : databases.map (nameOf (heap.new database).2) = databases.map (nameOf heap) := by
        refine List.map_congr_left fun arc listed => ?_
        obtain ⟨name, named⟩ := known arc listed
        rw [named, nameOf_new named database]
      have named : ∀ arc ∈ databases ++ [(heap.new database).1],
          ∃ name, nameOf (heap.new database).2 arc = some name := by
        intro arc listed
        rcases List.mem_append.mp listed with earlier | added
        · obtain ⟨name, named⟩ := known arc earlier
          exact ⟨name, nameOf_new named database⟩
        · cases List.mem_singleton.mp added
          exact ⟨info.name, fresh⟩
      rw [ih named made, List.map_append, List.map_singleton, fresh, kept]
      simp

variable {property : Database σ → Prop}

theorem stores_newDatabases (databases : List Arc) (stores : heap.Stores property)
    (holds : ∀ info ∈ list, ∀ database, Database.new info serverConnections = .ok database →
      property database) :
    (newDatabases serverConnections list databases heap).2.Stores property := by
  induction list generalizing databases heap with
  | nil => exact stores
  | cons info rest ih =>
    unfold newDatabases
    cases created : Database.new info serverConnections with
    | error err => exact stores.congr fun arc => ArcHeap.value?_dropAll heap databases arc
    | ok database =>
      exact ih _ (stores.new (holds info List.mem_cons_self database created))
        fun later listed => holds later (List.mem_cons_of_mem _ listed)

theorem stores_replaceAll (list : List DatabaseInfo) (stores : manager.heap.Stores property)
    (holds : ∀ info ∈ list, ∀ database, Database.new info manager.serverConnections = .ok database →
      property database) : (manager.replaceAll list).2.heap.Stores property := by
  have made := stores_newDatabases [] stores holds
  unfold replaceAll
  split
  next failed => simpa only [failed] using made
  next databases heap allocated =>
    rw [allocated] at made
    refine made.congr fun arc => ?_
    rw [value?_cacheShareAll]
    exact ArcHeap.value?_dropAll heap _ arc

theorem stores_cacheInsert {database : Database σ} (stores : manager.heap.Stores property)
    (holds : property database) : (manager.cacheInsert database).heap.Stores property :=
  (stores.new holds).congr fun arc => value?_cacheArc _ database.name _ arc

theorem cacheShareAll_frame (manager : DatabaseManager σ) (arcs : List Arc) :
    ∃ heap databasesCache,
      arcs.foldl cacheShare manager = { manager with heap, databasesCache } := by
  induction arcs generalizing manager with
  | nil => exact ⟨_, _, rfl⟩
  | cons arc rest ih =>
    have shared : ∃ heap databasesCache,
        manager.cacheShare arc = { manager with heap, databasesCache } := by
      unfold cacheShare
      split <;> exact ⟨_, _, rfl⟩
    obtain ⟨heap, databasesCache, shared⟩ := shared
    rw [List.foldl_cons, shared]
    exact ih _

theorem replaceAll_frame (manager : DatabaseManager σ) (list : List DatabaseInfo) :
    ∃ heap databasesCache,
      (manager.replaceAll list).2 = { manager with heap, databasesCache } := by
  unfold replaceAll
  split
  · exact ⟨_, _, rfl⟩
  · exact cacheShareAll_frame _ _

theorem newDatabases_ok (databases : List Arc) (heap : ArcHeap (Database σ))
    (convertible : ∀ info ∈ list, ∃ database, Database.new info serverConnections = .ok database) :
    ∃ arcs after, newDatabases serverConnections list databases heap = (.ok arcs, after) := by
  induction list generalizing databases heap with
  | nil => exact ⟨databases, heap, rfl⟩
  | cons info rest ih =>
    obtain ⟨database, created⟩ := convertible info List.mem_cons_self
    unfold newDatabases
    rw [created]
    exact ih _ _ fun later listed => convertible later (List.mem_cons_of_mem _ listed)

theorem replaceAll_ok (convertible : ∀ info ∈ list,
      ∃ database, Database.new info manager.serverConnections = .ok database) :
    ∃ arcs next, manager.replaceAll list = (.ok arcs, next) := by
  obtain ⟨arcs, heap, made⟩ := newDatabases_ok [] manager.heap convertible
  unfold replaceAll
  rw [made]
  exact ⟨arcs, _, rfl⟩

theorem isCached_replaceAll (sound : Sound manager held)
    (replaced : manager.replaceAll list = (.ok arcs, next)) (name : String) :
    next.isCached name ↔ name ∈ list.map (·.name) := by
  have unallocated : Sound manager ([] ++ held) := sound
  have made := unallocated.newDatabases manager.serverConnections list
  unfold replaceAll at replaced
  split at replaced
  · cases replaced
  next databases heap allocated =>
    cases replaced
    rw [allocated] at made
    have cleared := made.cacheClear
    dsimp only [grantedAll] at cleared
    have names := newDatabases_names (by simp) allocated
    have unchanged : nameOf (cacheClear { manager with heap }).heap = nameOf heap := by
      funext arc
      simp [cacheClear, nameOf]
    rw [isCached_cacheShareAll cleared (List.subset_append_left _ _), unchanged, names]
    simp [isCached, cacheClear]

end TypeDBDriver.DatabaseManager
