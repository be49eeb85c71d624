import TypeDBDriver.Ffi.RowApi

/-! Which sequences of calls of the row functions read memory that was freed. The counts of the
shared headers agree with the rows and iterators that hold them, so whether a read is safe can
be told from the handles that were dropped. -/

namespace TypeDBDriver.RowApi

open Library State

variable {state next : State}

theorem live_eq_some {α : Type} {freed : α → Bool} {handles : List α} {handle : Nat} {found : α}
    (given : live freed handles handle = some found) :
    handles[handle]? = some found ∧ freed found = false := by
  obtain ⟨present, kept⟩ := Option.filter_eq_some_iff.mp given
  exact ⟨present, by simpa using kept⟩

def heldByIterator (iterator : RowIterator) : List Arc :=
  if iterator.freed || iterator.exhausted then [] else [iterator.header]

def heldByRow (row : RowBox) : List Arc :=
  if row.freed then [] else [row.header]

theorem owners_eq (state : State) :
    owners state = state.rowIterators.flatMap heldByIterator ++ state.rows.flatMap heldByRow := rfl

private theorem perm_flatMap_set {α : Type} (held : α → List Arc) {items : List α}
    {position : Nat} {old : α} (new : α) (found : items[position]? = some old) :
    (held new ++ items.flatMap held).Perm (held old ++ (items.set position new).flatMap held) := by
  induction items generalizing position with
  | nil => cases found
  | cons first others ih =>
    cases position with
    | zero =>
      cases found
      simp only [List.flatMap_cons, List.set_cons_zero]
      exact List.perm_append_comm_assoc _ _ _
    | succ position =>
      simp only [List.flatMap_cons, List.set_cons_succ]
      have moved := (ih found).append_left (held first)
      exact (List.perm_append_comm_assoc _ _ _).trans
        (moved.trans (List.perm_append_comm_assoc _ _ _))

theorem perm_of_released {α : Type} {held : α → List Arc} {items : List α} {position : Nat}
    {old : α} (new : α) {header : Arc} (found : items[position]? = some old)
    (before : held old = [header]) (after : held new = []) :
    (items.flatMap held).Perm (header :: (items.set position new).flatMap held) := by
  have split := perm_flatMap_set held new found
  rw [before, after] at split
  exact split

structure Alive (state : State) : Prop where
  balanced : Balanced state.headers (owners state)
  readable : state.readFreedRow = false

theorem alive_initial : Alive {} := ⟨Balanced.empty, rfl⟩

theorem Alive.useAfterFree (alive : Alive state) : state.useAfterFree = false := by
  simp [State.useAfterFree, alive.balanced.sound, alive.readable]

variable {iterator : Nat}

theorem mem_owners_of_iterator {found : RowIterator}
    (present : state.rowIterators[iterator]? = some found)
    (holds : heldByIterator found = [found.header]) : found.header ∈ owners state := by
  rw [owners_eq]
  refine List.mem_append_left _ (List.mem_flatMap.mpr ⟨found, List.mem_of_getElem? present, ?_⟩)
  rw [holds]
  exact List.mem_singleton.mpr rfl

variable {row : Nat}

theorem mem_owners_of_row {found : RowBox} (present : state.rows[row]? = some found)
    (kept : found.freed = false) : found.header ∈ owners state := by
  refine List.mem_append_right _ (List.mem_flatMap.mpr ⟨found, List.mem_of_getElem? present, ?_⟩)
  simp [kept]

section

variable (alive : Alive state)

include alive

theorem Alive.queryAnswerIntoRows (header : ConceptRowHeader) :
    Alive (queryAnswerIntoRows state header) := by
  refine ⟨(alive.balanced.new header).perm ?_, alive.readable⟩
  rw [owners_eq, owners_eq]
  simp only [State.queryAnswerIntoRows, List.flatMap_append, List.append_assoc]
  exact List.perm_middle.symm

theorem Alive.iteratorReleased {found : RowIterator}
    (present : state.rowIterators[iterator]? = some found)
    (holds : heldByIterator found = [found.header]) (released : RowIterator)
    (nothing : heldByIterator released = []) :
    Alive { state with
      headers := state.headers.drop found.header
      rowIterators := state.rowIterators.set iterator released } := by
  refine ⟨Balanced.drop (alive.balanced.perm ?_), alive.readable⟩
  exact (perm_of_released released present holds nothing).append_right _

theorem Alive.conceptRowIteratorNext {answer : RowAnswer}
    (took : conceptRowIteratorNext state iterator answer = some next) : Alive next := by
  obtain ⟨found, given, took⟩ := Option.bind_eq_some_iff.mp took
  obtain ⟨present, kept⟩ := live_eq_some given
  cases exhausted : found.exhausted with
  | true =>
    rw [exhausted] at took
    cases answer with
    | row | error => cases took
    | exhausted =>
      cases took
      exact alive
  | false =>
    have holds : heldByIterator found = [found.header] := by
      simp [heldByIterator, kept, exhausted]
    rw [exhausted] at took
    cases answer with
    | error =>
      cases took
      exact alive
    | exhausted =>
      cases took
      exact alive.iteratorReleased present holds _ (by simp [heldByIterator])
    | row row =>
      cases took
      have cloned := alive.balanced.clone (mem_owners_of_iterator present holds)
      refine ⟨cloned.perm ?_, alive.readable⟩
      rw [owners_eq, owners_eq]
      simp only [List.flatMap_append, ← List.append_assoc]
      exact (List.perm_append_singleton _ _).symm

theorem Alive.conceptRowIteratorDrop (took : conceptRowIteratorDrop state iterator = some next) :
    Alive next := by
  obtain ⟨⟨header, exhausted, freed⟩, given, took⟩ := Option.bind_eq_some_iff.mp took
  obtain ⟨present, kept⟩ := live_eq_some given
  cases kept
  cases took
  cases exhausted with
  | true =>
    have same := perm_flatMap_set heldByIterator ⟨header, true, true⟩ present
    exact ⟨alive.balanced.perm (same.append_right _), alive.readable⟩
  | false => exact alive.iteratorReleased present rfl _ rfl

theorem Alive.conceptRowGetColumnNames (took : conceptRowGetColumnNames state row = some next) :
    Alive next := by
  obtain ⟨found, given, took⟩ := Option.bind_eq_some_iff.mp took
  obtain ⟨present, kept⟩ := live_eq_some given
  rw [alive.balanced.borrow (mem_owners_of_row present kept)] at took
  cases took
  exact ⟨alive.balanced, alive.readable⟩

theorem Alive.conceptRowDrop (took : conceptRowDrop state row = some next) : Alive next := by
  obtain ⟨found, given, took⟩ := Option.bind_eq_some_iff.mp took
  obtain ⟨present, kept⟩ := live_eq_some given
  cases took
  have holds : heldByRow found = [found.header] := by simp [heldByRow, kept]
  have released := perm_of_released { found with freed := true } present holds rfl
  refine ⟨Balanced.drop (alive.balanced.perm ?_), alive.readable⟩
  exact (released.append_left _).trans List.perm_middle

end

theorem Alive.stringIteratorNext (alive : Alive state) {name : Option String}
    (took : stringIteratorNext state iterator = some (name, next)) :
    (outlived state (.stringIteratorNext iterator) = true → Alive next) ∧
      (outlived state (.stringIteratorNext iterator) = false → next.useAfterFree = true) := by
  obtain ⟨found, given, took⟩ := Option.bind_eq_some_iff.mp took
  obtain ⟨present, -⟩ := live_eq_some given
  simp only [outlived, present, Option.all_some]
  by_cases left : found.position < found.length
  · have going : decide (found.length ≤ found.position) = false := by
      simpa using left
    simp only [left, if_true] at took
    rw [going, Bool.false_or]
    constructor
    · intro owned
      rw [alive.balanced.borrow (List.contains_iff_mem.mp owned)] at took
      cases took
      exact ⟨alive.balanced, alive.readable⟩
    · intro orphaned
      have absent : found.header ∉ owners state := by
        intro member
        rw [List.contains_iff_mem.mpr member] at orphaned
        cases orphaned
      have gone : ¬ 0 < state.headers.strong found.header := by
        rw [alive.balanced.counted, List.count_eq_zero.mpr absent]
        exact Nat.lt_irrefl 0
      simp only [ArcHeap.borrow, gone, if_false] at took
      cases took
      rfl
  · have done : decide (found.length ≤ found.position) = true := by
      simpa using left
    simp only [left, if_false] at took
    cases took
    rw [done, Bool.true_or]
    exact ⟨fun _ => alive, fun none => by cases none⟩

theorem Alive.conceptIteratorNext (alive : Alive state) {concept : Option Concept}
    (took : conceptIteratorNext state iterator = some (concept, next)) :
    (outlived state (.conceptIteratorNext iterator) = true → Alive next) ∧
      (outlived state (.conceptIteratorNext iterator) = false → next.useAfterFree = true) := by
  obtain ⟨found, given, took⟩ := Option.bind_eq_some_iff.mp took
  obtain ⟨present, -⟩ := live_eq_some given
  obtain ⟨row, source, took⟩ := Option.bind_eq_some_iff.mp took
  simp only [outlived, present, source, Option.all_some]
  by_cases left : found.position < found.length
  · have going : decide (found.length ≤ found.position) = false := by
      simpa using left
    simp only [left, if_true] at took
    rw [going, Bool.false_or]
    cases freed : row.freed with
    | false =>
      rw [freed] at took
      cases took
      exact ⟨fun _ => ⟨alive.balanced, alive.readable⟩, fun none => by cases none⟩
    | true =>
      rw [freed] at took
      cases took
      refine ⟨?_, fun _ => by simp [State.useAfterFree]⟩
      intro none
      cases none
  · have done : decide (found.length ≤ found.position) = true := by
      simpa using left
    simp only [left, if_false] at took
    cases took
    rw [done, Bool.true_or]
    exact ⟨fun _ => alive, fun none => by cases none⟩

theorem step_sound {call : RowCall} (took : step state call = some next) :
    state.useAfterFree = false := by
  cases faulted : state.useAfterFree with
  | false => rfl
  | true => simp [step, faulted] at took

theorem Alive.step (alive : Alive state) {call : RowCall}
    (took : RowApi.step state call = some next) :
    (outlived state call = true → Alive next) ∧
      (outlived state call = false → next.useAfterFree = true) := by
  simp only [RowApi.step, alive.useAfterFree, Bool.false_eq_true, if_false] at took
  have harmless : Alive next → (outlived state call = true → Alive next) ∧
      (true = false → next.useAfterFree = true) :=
    fun kept => ⟨fun _ => kept, fun none => by cases none⟩
  cases call with
  | queryAnswerIntoRows header =>
    cases took
    exact harmless (alive.queryAnswerIntoRows header)
  | conceptRowIteratorNext iterator answer =>
    exact harmless (alive.conceptRowIteratorNext took)
  | conceptRowIteratorDrop iterator => exact harmless (alive.conceptRowIteratorDrop took)
  | conceptRowGetColumnNames row => exact harmless (alive.conceptRowGetColumnNames took)
  | conceptRowDrop row => exact harmless (alive.conceptRowDrop took)
  | conceptRowGetConcepts row | stringIteratorDrop iterator | conceptIteratorDrop iterator =>
    obtain ⟨found, -, took⟩ := Option.bind_eq_some_iff.mp took
    cases took
    exact harmless ⟨alive.balanced, alive.readable⟩
  | stringIteratorNext iterator =>
    obtain ⟨⟨name, after⟩, advanced, rfl⟩ := Option.map_eq_some_iff.mp took
    exact alive.stringIteratorNext advanced
  | conceptIteratorNext iterator =>
    obtain ⟨⟨concept, after⟩, advanced, rfl⟩ := Option.map_eq_some_iff.mp took
    exact alive.conceptIteratorNext advanced

/-- A sequence of calls reads no freed memory exactly if each iterator over names that has some
left is advanced while a row of the answer or the iterator over its rows holds the header, and
each iterator over concepts that has entries left before its row is dropped. -/
theorem no_use_after_free_iff {calls : List RowCall} {state : State}
    (ran : system.run {} calls = some state) :
    system.Meets (fun state call => outlived state call = true) {} calls ↔
      state.useAfterFree = false := by
  have preserved : ∀ {state next call},
      (state.useAfterFree = false → Alive state) → system.step state call = some next →
      next.useAfterFree = false → Alive next := by
    intro state next call held took sound
    have moved := (held (step_sound took)).step took
    cases kept : outlived state call with
    | true => exact moved.1 kept
    | false =>
      rw [moved.2 kept] at sound
      cases sound
  have lasting : ∀ {state next call},
      (state.useAfterFree = false → Alive state) → state.useAfterFree = true →
      system.step state call = some next → next.useAfterFree = true := by
    intro state next call _ faulted took
    rw [step_sound took] at faulted
    cases faulted
  have decided : ∀ {state next call},
      (state.useAfterFree = false → Alive state) → ¬ state.useAfterFree = true →
      system.step state call = some next →
      (outlived state call = true ↔ ¬ next.useAfterFree = true) := by
    intro state next call held _ took
    have moved := (held (step_sound took)).step took
    constructor
    · intro kept
      rw [(moved.1 kept).useAfterFree]
      exact Bool.false_ne_true
    · intro sound
      by_contra dropped
      exact sound (moved.2 (eq_false_of_ne_true dropped))
  rw [TransitionSystem.run_meets_iff preserved lasting decided (fun _ => alive_initial)
    Bool.false_ne_true ran, Bool.not_eq_true]

/-- A row with one column, whose iterators are exhausted before the row is dropped. -/
theorem no_use_after_free_iff_exhausted :
    ∃ state, system.run {} [.queryAnswerIntoRows ⟨["x"], .readQuery⟩,
        .conceptRowIteratorNext 0 (.row [none]), .conceptRowGetColumnNames 0,
        .conceptRowGetConcepts 0, .stringIteratorNext 0, .conceptIteratorNext 0,
        .conceptRowDrop 0, .stringIteratorNext 0, .conceptIteratorNext 0] = some state ∧
      state.useAfterFree = false := by
  have ran : system.run {} [.queryAnswerIntoRows ⟨["x"], .readQuery⟩,
      .conceptRowIteratorNext 0 (.row [none]), .conceptRowGetColumnNames 0,
      .conceptRowGetConcepts 0, .stringIteratorNext 0, .conceptIteratorNext 0,
      .conceptRowDrop 0, .stringIteratorNext 0, .conceptIteratorNext 0] = some _ := rfl
  exact ⟨_, ran, (no_use_after_free_iff ran).mp (by decide)⟩

/-- The row is dropped before the iterator over its concepts is advanced, or the last row of an
exhausted answer before the iterator over the names. -/
theorem iterator_reads_dropped_row :
    (system.run {} [.queryAnswerIntoRows ⟨["x"], .readQuery⟩,
        .conceptRowIteratorNext 0 (.row [none]), .conceptRowGetConcepts 0, .conceptRowDrop 0,
        .conceptIteratorNext 0]).map useAfterFree = some true ∧
      (system.run {} [.queryAnswerIntoRows ⟨["x"], .readQuery⟩,
        .conceptRowIteratorNext 0 (.row [none]), .conceptRowIteratorNext 0 .exhausted,
        .conceptRowGetColumnNames 0, .conceptRowDrop 0,
        .stringIteratorNext 0]).map useAfterFree = some true := by
  decide

end TypeDBDriver.RowApi
