import TypeDBDriver.Database.CacheCoherence
import TypeDBDriver.Database.ConcurrentManager

/-! What concurrent calls of the database manager keep, and when the second lookup of `get`
finds what the thread has inserted. -/

namespace TypeDBDriver

open Library DatabaseManager

namespace ThreadPhase

variable {σ : Type} {display : Error → String} {manager next : DatabaseManager σ}
  {phase later : ThreadPhase σ} {others : List Arc} {name : String}

def held : ThreadPhase σ → List Arc
  | .got _ outcome => granted outcome
  | .replacing databases => databases
  | .listed result => grantedAll result
  | _ => []

/-- What a thread relies on, and what its caller may rely on. -/
def Fits (manager : DatabaseManager σ) : ThreadPhase σ → Prop
  | .inserting name database => database.name = name
  | .rereading name => manager.isCached name = true
  | .got name outcome =>
    outcome ≠ .panicked ∧ ∀ arc, outcome = .ok arc → nameOf manager.heap arc = some name
  | _ => True

structure Idle (phase : ThreadPhase σ) : Prop where
  holds : phase.held = []
  fits : ∀ manager, phase.Fits manager

theorem idle_error (name : String) (err : Error) : Idle (.got name (.error err) : ThreadPhase σ) :=
  ⟨rfl, fun _ => ⟨nofun, nofun⟩⟩

inductive Access (manager : DatabaseManager σ) :
    ThreadPhase σ → ThreadPhase σ → DatabaseManager σ → Prop where
  | requested {phase later : ThreadPhase σ} {server : σ} (before : phase.held = [])
      (after : Idle later) : Access manager phase later { manager with server }
  | hit {phase : ThreadPhase σ} {name : String} {arc : Arc} {next : DatabaseManager σ}
      (before : phase.held = []) (read : manager.tryGetCached name = (some arc, next)) :
      Access manager phase (.got name (.ok arc)) next
  | missed {phase later : ThreadPhase σ} (before : phase.held = []) (after : Idle later) :
      Access manager phase later manager
  | removed {name : String} {err : Error} :
      Access manager (.removing name) (.got name (.error err)) (manager.cacheRemove name)
  | inserted {name : String} {database : Database σ} :
      Access manager (.inserting name database) (.rereading name) (manager.cacheInsert database)
  | reread {name : String} {cached : Option Arc} {next : DatabaseManager σ}
      (read : manager.tryGetCached name = (cached, next)) :
      Access manager (.rereading name) (.got name (Outcome.unwrap cached)) next
  | allocated {phase later : ThreadPhase σ} {list : List DatabaseInfo} {result : Result (List Arc)}
      {heap : ArcHeap (Database σ)} {server : σ} (before : phase.held = [])
      (made : newDatabases manager.serverConnections list [] manager.heap = (result, heap))
      (holds : later.held = grantedAll result) (fits : ∀ manager, later.Fits manager) :
      Access manager phase later { manager with heap, server }
  | replaced {databases : List Arc} :
      Access manager (.replacing databases) (.listed (.ok databases))
        (databases.foldl cacheShare manager.cacheClear)
  | cached {database : Database σ} :
      Access manager (.caching database) (.created (.ok ())) (manager.cacheInsert database)

theorem tryGetCached_none (missed : (manager.tryGetCached name) = (none, next)) :
    next = manager := by
  unfold tryGetCached at missed
  split at missed
  · cases missed
  · cases missed
    rfl

theorem advance_access (advanced : phase.advance display manager = some (later, next)) :
    Access manager phase later next := by
  cases phase with
  | peeking name | lookingUp name =>
    simp only [advance] at advanced
    split at advanced
    next read =>
      cases advanced
      exact .hit rfl read
    next read =>
      cases advanced
      cases tryGetCached_none read
      exact .missed rfl ⟨rfl, fun _ => trivial⟩
  | containing name rest errorBuffer =>
    simp only [advance] at advanced
    split at advanced
    · cases advanced
      exact .requested rfl ⟨rfl, fun _ => trivial⟩
    · cases advanced
      exact .requested rfl ⟨rfl, fun _ => trivial⟩
    · cases advanced
      exact .requested rfl (idle_error name _)
    · cases advanced
      exact .requested rfl ⟨rfl, fun _ => trivial⟩
  | removing name =>
    cases advanced
    exact .removed
  | fetching name rest =>
    cases rest with
    | nil =>
      cases advanced
      exact .missed rfl (idle_error name _)
    | cons connection rest =>
      simp only [advance] at advanced
      split at advanced
      · split at advanced
        · cases advanced
          exact .requested rfl ⟨rfl, fun _ => rfl⟩
        · cases advanced
          exact .requested rfl (idle_error name _)
      · split at advanced
        · cases advanced
          exact .requested rfl ⟨rfl, fun _ => trivial⟩
        · cases advanced
          exact .requested rfl (idle_error name _)
  | inserting name database =>
    cases advanced
    exact .inserted
  | rereading name =>
    cases advanced
    exact .reread rfl
  | listing rest errorBuffer =>
    cases rest with
    | nil =>
      cases advanced
      exact .missed rfl ⟨rfl, fun _ => trivial⟩
    | cons connection rest =>
      simp only [advance] at advanced
      split at advanced
      · split at advanced
        next made =>
          cases advanced
          exact .allocated rfl made rfl fun _ => trivial
        next made =>
          cases advanced
          exact .allocated rfl made rfl fun _ => trivial
      · cases advanced
        exact .requested rfl ⟨rfl, fun _ => trivial⟩
  | replacing databases =>
    cases advanced
    exact .replaced
  | creating name rest errorBuffer =>
    simp only [advance] at advanced
    split at advanced
    · split at advanced <;> cases advanced <;> exact .requested rfl ⟨rfl, fun _ => trivial⟩
    · cases advanced
      exact .requested rfl ⟨rfl, fun _ => trivial⟩
    · cases advanced
      exact .requested rfl ⟨rfl, fun _ => trivial⟩
  | caching database =>
    cases advanced
    exact .cached
  | got | listed | created => cases advanced

theorem Access.sound (access : Access manager phase later next)
    (sound : Sound manager (phase.held ++ others)) : Sound next (later.held ++ others) := by
  cases access with
  | requested before after =>
    rw [before] at sound
    rw [after.holds]
    exact sound.withServer _
  | @hit _ name arc _ before read =>
    rw [before] at sound
    have cached := sound.tryGetCached name
    rw [read] at cached
    exact cached
  | missed before after =>
    rw [before] at sound
    rw [after.holds]
    exact sound
  | removed => exact Sound.cacheRemove sound _
  | inserted | cached => exact Sound.cacheInsert sound _
  | @reread name _ _ read =>
    have cached := Sound.tryGetCached sound name
    rw [read] at cached
    simpa [ThreadPhase.held] using cached
  | @allocated _ _ list _ _ server before made holds =>
    rw [before] at sound
    have allocated := sound.newDatabases manager.serverConnections list
    rw [made] at allocated
    rw [holds]
    exact allocated.withServer server
  | replaced => exact sound.cacheClear.cacheShareAll (List.subset_append_left _ _)

theorem nameOf_tryGetCached (manager : DatabaseManager σ) (name : String) (arc : Arc) :
    nameOf (manager.tryGetCached name).2.heap arc = nameOf manager.heap arc := by
  unfold tryGetCached nameOf
  split <;> simp

variable {arc : Arc}

theorem nameOf_newDatabases (serverConnections : HashMap Address (ServerConnection σ))
    (list : List DatabaseInfo) (databases : List Arc) {heap : ArcHeap (Database σ)}
    (named : nameOf heap arc = some name) :
    nameOf (newDatabases serverConnections list databases heap).2 arc = some name := by
  induction list generalizing databases heap with
  | nil => exact named
  | cons info rest ih =>
    unfold newDatabases
    cases Database.new info serverConnections with
    | error err =>
      simp only [nameOf, ArcHeap.value?_dropAll]
      exact named
    | ok database => exact ih _ (nameOf_new named database)

theorem Access.nameOf_kept (access : Access manager phase later next)
    (named : nameOf manager.heap arc = some name) : nameOf next.heap arc = some name := by
  cases access with
  | requested | missed => exact named
  | @hit _ key _ _ _ read | @reread key _ _ read =>
    have unchanged := nameOf_tryGetCached manager key arc
    rw [read] at unchanged
    exact unchanged.trans named
  | removed =>
    simp only [nameOf, cacheRemove, ArcHeap.value?_removeArc]
    exact named
  | @inserted _ database | @cached database =>
    have inserted := nameOf_new named database
    simp only [nameOf, cacheInsert, value?_cacheArc] at inserted ⊢
    exact inserted
  | @allocated _ _ list _ _ _ before made =>
    have kept := nameOf_newDatabases manager.serverConnections list [] named
    rw [made] at kept
    exact kept
  | replaced =>
    simp only [nameOf, value?_cacheShareAll, cacheClear, ArcHeap.value?_dropAll]
    exact named

theorem nameOf_of_tryGetCached (sound : Sound manager others)
    (read : manager.tryGetCached name = (some arc, next)) : nameOf next.heap arc = some name := by
  have unchanged := nameOf_tryGetCached manager name arc
  rw [read] at unchanged
  refine unchanged.trans (sound.keyed ?_)
  unfold tryGetCached at read
  split at read
  next found =>
    cases read
    exact found
  next => cases read

theorem Access.fits (access : Access manager phase later next) (sound : Sound manager others)
    (fits : phase.Fits manager) : later.Fits next := by
  cases access with
  | requested before after | missed before after => exact after.fits _
  | hit before read =>
    refine ⟨nofun, ?_⟩
    intro arc same
    cases same
    exact nameOf_of_tryGetCached sound read
  | removed => exact ⟨nofun, nofun⟩
  | inserted => exact (isCached_cacheInsert _ _ _).mpr (.inl fits.symm)
  | @reread name cached after read =>
    have found := tryGetCached_isSome manager name
    rw [read, show manager.isCached name = true from fits] at found
    obtain ⟨arc, rfl⟩ := Option.isSome_iff_exists.mp found
    refine ⟨nofun, ?_⟩
    intro other same
    cases same
    exact nameOf_of_tryGetCached sound read
  | allocated before made holds fits => exact fits _
  | replaced | cached => trivial

def retains (manager : DatabaseManager σ) (name : String) : ThreadPhase σ → Bool
  | .removing other => name != other
  | .replacing databases => (databases.map (nameOf manager.heap)).contains (some name)
  | _ => true

theorem isCached_tryGetCached (manager : DatabaseManager σ) (key name : String) :
    (manager.tryGetCached key).2.isCached name = manager.isCached name := by
  unfold tryGetCached isCached
  split <;> rfl

theorem Access.isCached_kept (access : Access manager phase later next)
    (sound : Sound manager (phase.held ++ others)) (retained : phase.retains manager name = true)
    (cached : manager.isCached name = true) : next.isCached name = true := by
  cases access with
  | requested | missed | allocated => exact cached
  | @hit _ key _ _ _ read | @reread key _ _ read =>
    have unchanged := isCached_tryGetCached manager key name
    rw [read] at unchanged
    exact unchanged.trans cached
  | removed => exact (isCached_cacheRemove _ _ _).mpr ⟨bne_iff_ne.mp retained, cached⟩
  | inserted | cached => exact (isCached_cacheInsert _ _ _).mpr (.inr cached)
  | @replaced databases =>
    have sound : Sound manager (databases ++ others) := sound
    rw [isCached_cacheShareAll sound.cacheClear (List.subset_append_left _ _)]
    have unchanged : nameOf manager.cacheClear.heap = nameOf manager.heap := by
      funext arc
      simp [cacheClear, nameOf]
    rw [unchanged]
    exact .inr (List.contains_iff_mem.mp retained)

theorem Fits.kept {other : ThreadPhase σ} (fits : other.Fits manager)
    (named : ∀ {arc name}, nameOf manager.heap arc = some name → nameOf next.heap arc = some name)
    (cached : ∀ name, other = .rereading name → next.isCached name = true) : other.Fits next := by
  cases other with
  | rereading name => exact cached name rfl
  | got name outcome => exact ⟨fits.1, fun arc same => named (fits.2 arc same)⟩
  | inserting name database => exact fits
  | _ => trivial

end ThreadPhase

namespace ConcurrentManager

variable {σ : Type} {display : Error → String} {state next : ConcurrentState σ}

structure Consistent (state : ConcurrentState σ) : Prop where
  sound : Sound state.manager (state.threads.flatMap ThreadPhase.held)
  fits : ∀ phase ∈ state.threads, phase.Fits state.manager

variable {threads : List (ThreadPhase σ)} {thread : Nat} {phase : ThreadPhase σ}

theorem held_split (running : threads[thread]? = some phase) :
    (threads.flatMap ThreadPhase.held).Perm
      (phase.held ++ (threads.eraseIdx thread).flatMap ThreadPhase.held) := by
  obtain ⟨inside, rfl⟩ := List.getElem?_eq_some_iff.mp running
  exact (List.getElem_cons_eraseIdx_perm inside).symm.flatMap_right _

theorem held_set (inside : thread < threads.length) (later : ThreadPhase σ) :
    ((threads.set thread later).flatMap ThreadPhase.held).Perm
      (later.held ++ (threads.eraseIdx thread).flatMap ThreadPhase.held) :=
  (List.set_perm_cons_eraseIdx inside later).flatMap_right _

/-- While a thread is between its insertion and its second lookup, no other thread takes the
name out of the cache. -/
def keepsEntries (state : ConcurrentState σ) : Label σ → Bool
  | .advance thread =>
    (state.threads[thread]?).all fun phase => state.threads.all fun
      | .rereading name => phase.retains state.manager name
      | _ => true
  | _ => true

theorem Consistent.advance (consistent : Consistent state) {later : ThreadPhase σ}
    {manager : DatabaseManager σ} (kept : keepsEntries state (.advance thread) = true)
    (running : state.threads[thread]? = some phase)
    (access : ThreadPhase.Access state.manager phase later manager) :
    Consistent { manager, threads := state.threads.set thread later } := by
  have inside : thread < state.threads.length := (List.getElem?_eq_some_iff.mp running).1
  have split := consistent.sound.perm (held_split running)
  have retained : ∀ name, .rereading name ∈ state.threads →
      phase.retains state.manager name = true := by
    intro name member
    rw [keepsEntries, running] at kept
    exact List.all_eq_true.mp kept _ member
  constructor
  · exact (access.sound split).perm (held_set inside later).symm
  · intro other member
    rcases List.mem_or_eq_of_mem_set member with member | rfl
    · refine (consistent.fits other member).kept access.nameOf_kept ?_
      intro name same
      subst same
      have cached : state.manager.isCached name = true := consistent.fits _ member
      exact access.isCached_kept split (retained name member) cached
    · exact access.fits split (consistent.fits phase (List.mem_of_getElem? running))

theorem Consistent.step (consistent : Consistent state) {label : Label σ}
    (kept : keepsEntries state label = true)
    (took : (system display).step state label = some next) : Consistent next := by
  cases label with
  | call call =>
    cases took
    constructor
    · have idle : (ThreadPhase.start state.manager call).held = [] := by cases call <;> rfl
      simpa [idle] using consistent.sound
    · intro phase member
      rcases List.mem_append.mp member with member | member
      · exact consistent.fits phase member
      · rw [List.mem_singleton.mp member]
        cases call <;> trivial
  | advance thread =>
    simp only [system, ConcurrentManager.step] at took
    split at took
    next => cases took
    next phase running =>
      obtain ⟨⟨later, manager⟩, advanced, rfl⟩ := Option.map_eq_some_iff.mp took
      exact consistent.advance kept running (ThreadPhase.advance_access advanced)
  | interfere server =>
    cases took
    refine ⟨consistent.sound.withServer server, ?_⟩
    intro phase member
    refine (consistent.fits phase member).kept id ?_
    intro name same
    subst same
    exact consistent.fits _ member

/-- In runs where no thread takes a name out of the cache between the insertion and the second
lookup of another, `get` does not panic, and a database that it returns has the name that was
asked for. -/
theorem concurrent_get_succeeds (display : Error → String)
    {serverConnections : HashMap Address (ServerConnection σ)} {databaseInfo : List DatabaseInfo}
    {server : σ} {manager : DatabaseManager σ}
    (opened : DatabaseManager.new serverConnections databaseInfo server = .ok manager)
    {labels : List (Label σ)}
    (meets : (system display).Meets (fun state label => keepsEntries state label = true)
      { manager } labels)
    (ran : (system display).run { manager } labels = some state) {name : String}
    {outcome : Outcome Error Arc} (returned : .got name outcome ∈ state.threads) :
    (∃ arc, outcome = .ok arc ∧ nameOf state.manager.heap arc = some name) ∨
      ∃ err, outcome = .error err := by
  have initially : Consistent ({ manager } : ConcurrentState σ) := ⟨.new opened, nofun⟩
  have consistent := TransitionSystem.run_invariant
    (fun consistent kept took => Consistent.step consistent kept took) initially meets ran
  obtain ⟨unpanicked, named⟩ := consistent.fits _ returned
  cases outcome with
  | ok arc => exact .inl ⟨arc, rfl, named arc rfl⟩
  | error err => exact .inr ⟨err, rfl⟩
  | panicked => exact absurd rfl unpanicked

def emptyManager : DatabaseManager (List String) where
  serverConnections := SingleServer.basic.connections
  server := []

/-- `all` has got the empty list of databases when another client creates `orders`; then `get`
asks for it and inserts it. -/
def overlappingRun : List (Label (List String)) :=
  [.call .all, .call (.get "orders"), .advance 0, .interfere ["orders"]] ++
    List.replicate 4 (.advance 1)

theorem concurrent_get_succeeds_reread :
    ∃ state,
      (system fun _ => "").run { manager := emptyManager }
        (overlappingRun ++ [.advance 1, .advance 0]) = some state ∧
      .got "orders" (.ok 0) ∈ state.threads ∧ nameOf state.manager.heap 0 = some "orders" := by
  have opened : DatabaseManager.new SingleServer.basic.connections [] [] = .ok emptyManager := rfl
  have ran : (system fun _ => "").run { manager := emptyManager }
      (overlappingRun ++ [.advance 1, .advance 0]) = some _ := rfl
  have meets : (system fun _ => "").Meets (fun state label => keepsEntries state label = true)
      { manager := emptyManager } (overlappingRun ++ [.advance 1, .advance 0]) := by decide
  have returned : (.got "orders" (.ok 0) : ThreadPhase (List String)) ∈
      [.listed (.ok []), .got "orders" (.ok 0)] := List.mem_cons_of_mem _ List.mem_cons_self
  rcases concurrent_get_succeeds _ opened meets ran returned with ⟨arc, same, named⟩ | ⟨err, same⟩
  · cases same
    exact ⟨_, ran, returned, named⟩
  · cases same

/-- `all` replaces the cache by its older list before `get` looks again. -/
theorem concurrent_get_panics :
    DatabaseManager.new SingleServer.basic.connections [] [] = .ok emptyManager ∧
      ∃ state,
        (system fun _ => "").run { manager := emptyManager }
          (overlappingRun ++ [.advance 0, .advance 1]) = some state ∧
        .got "orders" .panicked ∈ state.threads :=
  ⟨rfl, _, rfl, List.mem_cons_of_mem _ List.mem_cons_self⟩

end ConcurrentManager

end TypeDBDriver
