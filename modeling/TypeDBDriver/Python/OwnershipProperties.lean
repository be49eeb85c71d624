import TypeDBDriver.Python.Ownership

/-! How often each native object is freed, over all sequences of calls from Python. -/

namespace TypeDBDriver.Python.Ownership

open Library
open NativeCell (copied wrapped)

variable {ledger next final : Ledger} {label : Label} {cell : NativeCell Native}
  {fn : Function} {content after : Native} {returned : Returned}

theorem Function.disownsArgument_eq (fn : Function) : fn.disownsArgument = fn.takesOwnership := by
  cases fn <;> rfl

theorem Function.isNewobject_eq (fn : Function) : fn.isNewobject = !fn.leaks := by
  cases fn <;> rfl

def Native.isTaken : Native → Bool
  | .promise _ | .answer _ => true
  | _ => false

structure RunEffect (fn : Function) (content after : Native) (returned : Returned) :
    Prop where
  kind : after.isTaken = content.isTaken
  takes : fn.takesOwnership = true → content.isTaken = true
  handsOver : ∀ new, returned = .object new → new.isTaken = true → fn.leaks = false
  leaks : fn.leaks = true →
    (∃ new, returned = .object new) ∨ ∃ text, returned = .string text

theorem releaseString_eq_some {text : String} (released : releaseString text = some returned) :
    returned = .string text := by
  obtain ⟨_, -, rfl⟩ := Option.map_eq_some_iff.mp released
  rfl

theorem RunEffect.declared (kind : after.isTaken = content.isTaken)
    (borrows : fn.takesOwnership = false) (declared : fn.leaks = false) :
    RunEffect fn content after returned where
  kind
  takes taken := by
    rw [borrows] at taken
    cases taken
  handsOver _ _ _ := declared
  leaks leaking := by
    rw [declared] at leaking
    cases leaking

theorem Function.run_effect (ran : fn.run content = some (after, returned)) :
    RunEffect fn content after returned := by
  unfold Function.run at ran
  split at ran
  · split at ran <;> cases ran <;>
      exact ⟨rfl, fun _ => rfl, fun _ _ _ => rfl, fun leaking => by cases leaking⟩
  · cases ran
    refine ⟨rfl, fun _ => rfl, fun new same taken => ?_, fun _ => .inl ⟨_, rfl⟩⟩
    cases same
    cases taken
  · cases ran
    refine ⟨rfl, fun _ => rfl, fun new same taken => ?_, fun _ => .inl ⟨_, rfl⟩⟩
    cases same
    cases taken
  · split at ran <;> cases ran <;> exact .declared rfl rfl rfl
  · split at ran
    · cases ran
      exact .declared rfl rfl rfl
    · obtain ⟨_, -, same⟩ := Option.map_eq_some_iff.mp ran
      cases same
      exact .declared rfl rfl rfl
    · cases ran
      exact .declared rfl rfl rfl
  · split at ran <;> cases ran <;> exact .declared rfl rfl rfl
  · obtain ⟨text, -, ran⟩ := Option.bind_eq_some_iff.mp ran
    obtain ⟨_, released, same⟩ := Option.map_eq_some_iff.mp ran
    cases same
    cases releaseString_eq_some released
    exact ⟨rfl, fun taken => (by cases taken), fun new same => (by cases same),
      fun _ => .inr ⟨text, rfl⟩⟩
  · split at ran <;> cases ran <;> exact .declared rfl rfl rfl
  · cases ran

/-- Only what was handed over is taken, and its proxy gives up ownership when it is. -/
structure Kept (cell : NativeCell Native) : Prop where
  disowned : cell.disowned = decide (0 < cell.taken)
  declared : cell.content.isTaken = true → cell.declared = true
  untaken : cell.content.isTaken = false → cell.taken = 0

theorem kept_received (effect : RunEffect fn content after returned) :
    ∀ cell ∈ received fn returned, Kept cell := by
  intro cell listed
  cases returned with
  | object new =>
    cases List.mem_singleton.mp listed
    refine ⟨rfl, fun taken => ?_, fun _ => rfl⟩
    have declared := effect.handsOver new rfl taken
    exact (Function.isNewobject_eq fn).trans (by rw [declared]; rfl)
  | string text =>
    cases List.mem_singleton.mp listed
    exact ⟨rfl, fun taken => (by cases taken), fun _ => rfl⟩
  | null => cases listed
  | failed err =>
    rcases List.mem_cons.mp listed with rfl | last
    · exact ⟨rfl, fun taken => (by cases taken), fun _ => rfl⟩
    · cases List.mem_singleton.mp last
      exact ⟨rfl, fun taken => (by cases taken), fun _ => rfl⟩

theorem Kept.passed (kept : Kept cell) (alive : cell.isAlive = true)
    (effect : RunEffect fn cell.content after returned) :
    Kept (passed fn cell after) where
  disowned := by
    change (cell.disowned || (cell.isAlive && fn.disownsArgument)) = _
    rw [alive, Bool.true_and, kept.disowned, Function.disownsArgument_eq]
    cases taken : fn.takesOwnership <;> simp [Ownership.passed, NativeCell.pass, taken]
  declared taken := kept.declared (effect.kind ▸ taken)
  untaken untaken := by
    have same : cell.content.isTaken = false := effect.kind ▸ untaken
    have borrows : fn.takesOwnership = false := by
      rw [← Bool.not_eq_true]
      intro takes
      rw [effect.takes takes] at same
      cases same
    simp [Ownership.passed, NativeCell.pass, borrows, kept.untaken same]

theorem Kept.finalize (kept : Kept cell) : Kept cell.finalize :=
  ⟨kept.disowned, kept.declared, kept.untaken⟩

inductive Effect (ledger : Ledger) : Label → Ledger → Prop where
  | queried {result : Result AnswerContent} :
      Effect ledger (.query result) (ledger ++ [.wrapped (.promise result) true])
  | called {fn : Function} {object : Nat} {cell : NativeCell Native} {after : Native}
      {returned : Returned} (found : ledger[object]? = some cell) (alive : cell.isAlive = true)
      (ran : fn.run cell.content = some (after, returned)) :
      Effect ledger (.call fn object)
        (ledger.set object (passed fn cell after) ++ received fn returned)
  | finalized {object : Nat} {cell : NativeCell Native} (found : ledger[object]? = some cell) :
      Effect ledger (.finalize object) (ledger.set object cell.finalize)

theorem step_effect (took : system.step ledger label = some next) : Effect ledger label next := by
  change step ledger label = some next at took
  cases label with
  | query result =>
    cases took
    exact .queried
  | call fn object =>
    obtain ⟨cell, present, took⟩ := Option.bind_eq_some_iff.mp took
    obtain ⟨found, alive⟩ := Option.filter_eq_some_iff.mp present
    obtain ⟨⟨after, returned⟩, ran, rfl⟩ := Option.map_eq_some_iff.mp took
    exact .called found alive ran
  | finalize object =>
    obtain ⟨cell, present, rfl⟩ := Option.map_eq_some_iff.mp took
    exact .finalized (Option.filter_eq_some_iff.mp present).1

theorem kept_step (kept : ∀ cell ∈ ledger, Kept cell)
    (took : system.step ledger label = some next) : ∀ cell ∈ next, Kept cell := by
  intro cell listed
  cases step_effect took with
  | queried =>
    rcases List.mem_append.mp listed with before | new
    · exact kept cell before
    · cases List.mem_singleton.mp new
      exact ⟨rfl, fun _ => rfl, fun _ => rfl⟩
  | called found alive ran =>
    have effect := Function.run_effect ran
    rcases List.mem_append.mp listed with changed | new
    · rcases List.mem_or_eq_of_mem_set changed with before | same
      · exact kept cell before
      · rw [same]
        exact (kept _ (List.mem_of_getElem? found)).passed alive effect
    · exact kept_received effect cell new
  | finalized found =>
    rcases List.mem_or_eq_of_mem_set listed with before | same
    · exact kept cell before
    · rw [same]
      exact (kept _ (List.mem_of_getElem? found)).finalize

/-- Handed over, and taken at most once. -/
def Sound (cell : NativeCell Native) : Prop := cell.declared = true ∧ cell.taken ≤ 1

theorem sound_received_iff (effect : RunEffect fn content after returned) :
    (∀ cell ∈ received fn returned, Sound cell) ↔
      fn.leaks = false ∧ ∀ err, returned ≠ .failed err := by
  have declared := Function.isNewobject_eq fn
  cases returned with
  | object new => simp [received, Sound, wrapped, declared]
  | string text => simp [received, Sound, copied, declared]
  | null =>
    have quiet : fn.leaks = false := by
      rw [← Bool.not_eq_true]
      intro leaking
      rcases effect.leaks leaking with ⟨_, same⟩ | ⟨_, same⟩ <;> cases same
    simp [received, quiet]
  | failed err => simp [received, Sound, copied]

theorem sound_passed_iff (sound : Sound cell) :
    Sound (passed fn cell after) ↔ (fn.takesOwnership = true → cell.taken = 0) := by
  obtain ⟨declared, atMost⟩ := sound
  cases taken : fn.takesOwnership with
  | false => simpa [Sound, passed, NativeCell.pass, taken] using ⟨declared, atMost⟩
  | true => simp [Sound, passed, NativeCell.pass, taken, declared]

theorem takesOwnership_iff (quiet : fn.leaks = false) :
    fn.takesOwnership = true ↔ fn = .queryAnswerPromiseResolve := by
  cases fn <;> first | (cases quiet; done) | simp [Function.takesOwnership]

theorem sound_set_iff (sound : ∀ cell ∈ ledger, Sound cell) {object : Nat}
    (found : ledger[object]? = some cell) (changed : NativeCell Native) :
    (∀ other ∈ ledger.set object changed, Sound other) ↔ Sound changed := by
  obtain ⟨within, -⟩ := List.getElem?_eq_some_iff.mp found
  refine ⟨fun all => all changed (List.mem_set within changed), fun holds other listed => ?_⟩
  rcases List.mem_or_eq_of_mem_set listed with before | same
  · exact sound other before
  · rw [same]
    exact holds

theorem clean_call_iff (sound : ∀ cell ∈ ledger, Sound cell) {object : Nat}
    (found : ledger[object]? = some cell) (ran : fn.run cell.content = some (after, returned)) :
    Clean ledger (.call fn object) ↔
      ∀ other ∈ ledger.set object (passed fn cell after) ++ received fn returned,
        Sound other := by
  have failing : fails ledger fn object ↔ ∃ err, returned = .failed err := by
    simp [fails, found, ran]
  simp only [List.mem_append, or_imp, forall_and, sound_set_iff sound found,
    sound_passed_iff (sound cell (List.mem_of_getElem? found)),
    sound_received_iff (Function.run_effect ran), Clean, failing, not_exists]
  constructor
  · rintro ⟨quiet, succeeds, once⟩
    exact ⟨fun takes => once ((takesOwnership_iff quiet).mp takes) cell found, quiet, succeeds⟩
  · rintro ⟨once, quiet, succeeds⟩
    refine ⟨quiet, succeeds, fun resolves other otherFound => ?_⟩
    cases found.symm.trans otherFound
    exact once ((takesOwnership_iff quiet).mpr resolves)

theorem clean_iff (sound : ∀ cell ∈ ledger, Sound cell)
    (took : system.step ledger label = some next) :
    Clean ledger label ↔ ∀ cell ∈ next, Sound cell := by
  cases step_effect took with
  | queried =>
    refine iff_of_true trivial fun cell listed => ?_
    rcases List.mem_append.mp listed with before | new
    · exact sound cell before
    · cases List.mem_singleton.mp new
      exact ⟨rfl, Nat.zero_le 1⟩
  | called found alive ran => exact clean_call_iff sound found ran
  | @finalized object cell found =>
    have kept : Sound cell.finalize := sound cell (List.mem_of_getElem? found)
    exact iff_of_true trivial ((sound_set_iff sound found _).mpr kept)

theorem unsound_step (unsound : ∃ cell ∈ ledger, ¬ Sound cell)
    (took : system.step ledger label = some next) : ∃ cell ∈ next, ¬ Sound cell := by
  obtain ⟨cell, listed, unsound⟩ := unsound
  have changing : ∀ {object : Nat} {changed : NativeCell Native} {before : NativeCell Native},
      ledger[object]? = some before → (Sound changed → Sound before) →
      ∃ other ∈ ledger.set object changed, ¬ Sound other := by
    intro object changed before found kept
    obtain ⟨index, within, same⟩ := List.getElem_of_mem listed
    by_cases here : object = index
    · subst here
      obtain ⟨_, equal⟩ := List.getElem?_eq_some_iff.mp found
      refine ⟨changed, List.mem_set within changed, fun holds => unsound ?_⟩
      rw [← same, equal]
      exact kept holds
    · refine ⟨cell, ?_, unsound⟩
      have kept : (ledger.set object changed)[index]? = some cell := by
        rw [List.getElem?_set_ne here, List.getElem?_eq_getElem within, same]
      exact List.mem_of_getElem? kept
  cases step_effect took with
  | queried => exact ⟨cell, List.mem_append_left _ listed, unsound⟩
  | @called fn object before after returned found alive ran =>
    have earlier : Sound (passed fn before after) → Sound before :=
      fun holds => ⟨holds.1, Nat.le_trans (Nat.le_add_right _ _) holds.2⟩
    obtain ⟨other, present, fails⟩ := changing found earlier
    exact ⟨other, List.mem_append_left _ present, fails⟩
  | finalized found => exact changing found id

theorem run_kept {labels : List Label} (ran : system.run [] labels = some final) :
    ∀ cell ∈ final, Kept cell :=
  TransitionSystem.run_preserves kept_step (fun _ none => absurd none List.not_mem_nil) ran

theorem Kept.freed (kept : Kept cell) (finalized : cell.isAlive = false) :
    cell.freed = if cell.declared then max 1 cell.taken else 0 := by
  rw [NativeCell.freed_of_not_isAlive finalized, kept.disowned]
  cases declared : cell.declared with
  | true =>
    cases taken : cell.taken with
    | zero => rfl
    | succ count => simp
  | false =>
    have untaken : cell.taken = 0 := by
      apply kept.untaken
      rw [← Bool.not_eq_true]
      intro taken
      rw [kept.declared taken] at declared
      cases declared
    simp [untaken]

theorem Kept.freed_once_iff (kept : Kept cell) (finalized : cell.isAlive = false) :
    cell.freed = 1 ↔ Sound cell := by
  rw [kept.freed finalized, Sound]
  cases cell.declared with
  | true => simp
  | false => simp

/-- After all proxies have been finalized, what a `%newobject` function returned has been freed
once, or as often as it was passed to a function that takes it; anything else has not been freed.
So every object has been freed exactly once exactly if no call has leaked and no promise was
resolved twice. -/
theorem freed_exactly_once_iff {labels : List Label} (ran : system.run [] labels = some final)
    (finalized : Finalized final) :
    (∀ cell ∈ final, cell.freed = if cell.declared then max 1 cell.taken else 0) ∧
    ((∀ cell ∈ final, cell.freed = 1) ↔ system.Meets Clean [] labels) := by
  have kept := run_kept ran
  refine ⟨fun cell listed => (kept cell listed).freed (finalized cell listed), ?_⟩
  have rule := @TransitionSystem.run_meets_iff _ _ system Clean [] final labels (fun _ => True)
    (fun ledger => ∃ cell ∈ ledger, ¬ Sound cell) (fun _ _ => trivial)
    (fun _ => unsound_step)
    (fun _ sound took => by
      simp only [not_exists, not_and, Classical.not_not] at sound ⊢
      exact clean_iff sound took)
    trivial (by simp) ran
  rw [rule]
  simp only [not_exists, not_and, Classical.not_not]
  refine forall₂_congr fun cell listed => ?_
  exact (kept cell listed).freed_once_iff (finalized cell listed)

def resolvedRun : List Label :=
  [.query (.ok .ok), .call .queryAnswerPromiseResolve 0, .finalize 0, .finalize 1]

/-- A promise that is resolved, and its answer. -/
theorem freed_exactly_once_iff_resolved : ∃ final, system.run [] resolvedRun = some final ∧
    final.map (·.freed) = [1, 1] ∧ system.Meets Clean [] resolvedRun := by
  have ran : system.run [] resolvedRun = some _ := rfl
  refine ⟨_, ran, rfl, (freed_exactly_once_iff ran ?_).2.mp ?_⟩
  · intro cell listed
    rcases List.mem_cons.mp listed with rfl | last
    · rfl
    · rw [List.mem_singleton.mp last]
      rfl
  · intro cell listed
    rcases List.mem_cons.mp listed with rfl | last
    · rfl
    · rw [List.mem_singleton.mp last]
      rfl

/-- The rows of an answer are never freed, and a promise that is resolved twice is freed twice. -/
theorem not_freed_exactly_once :
    (∃ final, system.run [] [.query (.ok (.rows [])), .call .queryAnswerPromiseResolve 0,
        .call .queryAnswerIntoRows 1, .finalize 0, .finalize 1, .finalize 2] = some final ∧
      final.map (·.freed) = [1, 1, 0] ∧ final.all (!·.isAlive) = true) ∧
    ∃ final, system.run [] [.query (.ok .ok), .call .queryAnswerPromiseResolve 0,
        .call .queryAnswerPromiseResolve 0, .finalize 0, .finalize 1, .finalize 2] = some final ∧
      final.map (·.freed) = [2, 1, 1] ∧ final.all (!·.isAlive) = true :=
  ⟨⟨_, rfl, rfl, rfl⟩, ⟨_, rfl, rfl, rfl⟩⟩

end TypeDBDriver.Python.Ownership
