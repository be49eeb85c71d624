import TypeDBDriver.Nodejs.Session

/-! What is left of the Node.js driver when it has been closed, in whole runs. -/

namespace TypeDBDriver.Nodejs.Connection

open Library TypeDBSessionImpl

namespace DriverState

def twoServers : TypeDBDriverImpl where
  initAddresses := .list ["a:1", "b:1"]
  isCloud := true
  isOpen := true
  serverDrivers := ⟨[⟨"a:1", .new "a:1" { address := "a:1" }⟩,
    ⟨"b:1", .new "b:1" { address := "b:1" }⟩], by simp⟩

def All (property : TypeDBSessionImpl → Prop) (state : DriverState) : Prop :=
  ∀ session ∈ state.made, property session

/-- Every stub and every transmitter is closed, and no session is open or has a timer. -/
structure Closed (state : DriverState) : Prop where
  servers {name : String} {server : ServerDriver} :
    state.driver.serverDrivers.lookup name = some server →
      server.stub.isClosed = true ∧ server.transmitter.isOpen = false
  sessions : state.All fun session => session.isOpen = false ∧ session.timers = []

variable {state next final : DriverState} {label : Label}

theorem step_cases (took : system.step state label = some next) :
    (∃ attempted, label = .session attempted ∧
      (next = state ∨ next = { state with
        made := state.made ++ [attempt state.servers .session attempted {}] })) ∨
    (label = .close ∧ next = { state with driver := state.driver.close }) ∨
    ∃ index action session view, label = .on index action ∧ state.made[index]? = some session ∧
      View.step state.servers index ⟨session, state.sessions⟩ action = some view ∧
      next =
        { state with sessions := view.sessions, made := state.made.set index view.session } := by
  change state.step label = some next at took
  cases label with
  | session attempted =>
    refine .inl ⟨attempted, rfl, ?_⟩
    simp only [step] at took
    split at took
    · cases took
      exact .inr rfl
    · cases took
      exact .inl rfl
  | close =>
    cases took
    exact .inr (.inl ⟨rfl, rfl⟩)
  | on index action =>
    simp only [step] at took
    split at took
    · rename_i session found
      obtain ⟨view, taken, rfl⟩ := Option.map_eq_some_iff.mp took
      exact .inr (.inr ⟨index, action, session, view, rfl, found, taken, rfl⟩)
    · cases took

theorem serverDrivers_close (driver : TypeDBDriverImpl) :
    driver.close.serverDrivers = driver.serverDrivers := by
  unfold TypeDBDriverImpl.close
  split <;> rfl

theorem serverDrivers_step (took : system.step state label = some next) :
    next.driver.serverDrivers = state.driver.serverDrivers := by
  rcases step_cases took with ⟨attempted, rfl, rfl | rfl⟩ | ⟨rfl, rfl⟩ |
    ⟨index, action, former, view, rfl, found, taken, rfl⟩
  · rfl
  · rfl
  · exact serverDrivers_close state.driver
  · rfl

theorem serverDrivers_run {driver : TypeDBDriverImpl} {labels : List Label}
    (ran : system.run { driver } labels = some final) :
    final.driver.serverDrivers = driver.serverDrivers := by
  have preserved : ∀ {state next label},
      state.driver.serverDrivers = driver.serverDrivers →
      system.step state label = some next → next.driver.serverDrivers = driver.serverDrivers :=
    fun same took => (serverDrivers_step took).trans same
  exact TransitionSystem.run_preserves preserved rfl ran

end DriverState

namespace TypeDBSessionImpl

structure Idle (session : TypeDBSessionImpl) : Prop where
  isOpen : session.isOpen = false
  timers : session.timers = []
  tasks : session.tasks = []
  made : session.made = []

end TypeDBSessionImpl

theorem View.idle_step {self : Nat} {view next : View} {action : Action}
    (idle : view.session.Idle) (took : step [] self view action = some next) :
    next.session.Idle := by
  cases action with
  | close =>
    cases took
    unfold close
    rw [if_neg (by rw [idle.isOpen]; decide)]
    exact idle
  | transaction =>
    simp only [step, idle.isOpen] at took
    cases took
    exact idle
  | onClose | onReopen =>
    cases took
    exact ⟨idle.isOpen, idle.timers, idle.tasks, idle.made⟩
  | fire timer => simp [step, idle.timers] at took
  | transactionClose transaction => simp [step, hasOpened, idle.made] at took
  | transactionOnClose transaction => simp [step, hasOpened, idle.made] at took
  | streamClose transaction => simp [step, idle.made] at took
  | settle index settlement attempted => simp [step, idle.tasks] at took

namespace DriverState

variable {state next final : DriverState} {label : Label}

theorem idle_run {driver : TypeDBDriverImpl} (none : driver.serverDrivers = ∅)
    {labels : List Label} (ran : system.run { driver } labels = some final) : final.All Idle := by
  have preserved : ∀ {state next label},
      state.driver.serverDrivers = ∅ ∧ state.All Idle →
      system.step state label = some next →
      next.driver.serverDrivers = ∅ ∧ next.All Idle := by
    intro state next label given took
    obtain ⟨none, all⟩ := given
    have servers : state.servers = [] := by
      rw [servers, none]
      rfl
    refine ⟨(serverDrivers_step took).trans none, ?_⟩
    intro session listed
    rcases step_cases took with ⟨attempted, rfl, rfl | rfl⟩ | ⟨rfl, rfl⟩ |
      ⟨index, action, former, view, rfl, found, taken, rfl⟩
    · exact all session listed
    · rcases List.mem_append.mp listed with earlier | last
      · exact all session earlier
      · rw [List.mem_singleton.mp last, servers]
        cases attempted <;> exact ⟨rfl, rfl, rfl, rfl⟩
    · exact all session listed
    · rw [servers] at taken
      rcases List.mem_or_eq_of_mem_set listed with earlier | rfl
      · exact all session earlier
      · exact View.idle_step (all former (List.mem_of_getElem? found)) taken
  have start : DriverState.All Idle { driver } := by
    intro session listed
    cases listed
  exact (TransitionSystem.run_preserves preserved ⟨none, start⟩ ran).2

/-- To close the driver releases everything exactly if it has no server drivers. -/
theorem close_releases_iff {driver : TypeDBDriverImpl}
    (fresh : ∀ name server, driver.serverDrivers.lookup name = some server →
      server.stub.isClosed = false) {before after : List Label}
    (ran : system.run { driver } (before ++ .close :: after) = some final) :
    final.Closed ↔ driver.serverDrivers = ∅ := by
  have same := serverDrivers_run ran
  constructor
  · intro closed
    apply AList.ext
    cases entries : driver.serverDrivers.entries with
    | nil => rfl
    | cons entry rest =>
      obtain ⟨name, server⟩ := entry
      have found : driver.serverDrivers.lookup name = some server :=
        AList.mem_lookup_iff.mpr (by simp [entries])
      have isClosed := (closed.servers (same ▸ found)).1
      rw [fresh name server found] at isClosed
      cases isClosed
  · intro none
    constructor
    · intro name server found
      rw [same, none] at found
      cases found
    · intro session listed
      have idle := idle_run none ran session listed
      exact ⟨idle.isOpen, idle.timers⟩

theorem close_releases_iff_none :
    ∃ final, system.run
        { driver := { initAddresses := .list [], isCloud := true, isOpen := true } }
        ([.session (some "a:1")] ++ .close :: []) = some final ∧ final.Closed := by
  have ran : system.run { driver := { initAddresses := .list [], isCloud := true, isOpen := true } }
      ([.session (some "a:1")] ++ .close :: []) = some _ := rfl
  refine ⟨_, ran, (close_releases_iff ?_ ran).mpr rfl⟩
  intro name server found
  cases found

/-- A session is opened and the driver is closed. -/
theorem close_releases_nothing : (system.run { driver := twoServers } [.session (some "a:1"),
        .on 0 (.settle 0 (.opened "0x01") none), .close]).map (fun final =>
        (final.driver.isOpen,
          final.driver.serverDrivers.entries.map fun entry =>
            (entry.2.stub.isClosed, entry.2.transmitter.isOpen),
          final.made.map fun session => (session.isOpen, session.timers))) =
      some (false, [(false, true), (false, true)], [(true, [0])]) :=
  rfl

end DriverState

end TypeDBDriver.Nodejs.Connection
