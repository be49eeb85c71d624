import TypeDBDriver.Nodejs.TransactionClosing

/-! How often the callbacks of a transaction are called, and which error it reports after it was
closed. -/

namespace TypeDBDriver.Nodejs.Closing

open Library

namespace TypeDBTransactionImpl

variable {transaction : TypeDBTransactionImpl}

/-- How far the only call of `close` has come. -/
inductive Progress (transaction : TypeDBTransactionImpl) : Prop where
  | waiting {caller : Caller} {index : Nat} (pending : transaction.pending = [⟨index, caller⟩])
      (called : transaction.called = List.range (index + 1)) (rejected : transaction.rejected = [])
  | finished {count : Nat} (pending : transaction.pending = [])
      (called : transaction.called = List.range count) (all : transaction.early ≤ count)
      (rejected : transaction.rejected = [])
  | failed {index : Nat} (pending : transaction.pending = [])
      (called : transaction.called = List.range (index + 1))
      (rejected : transaction.rejected = [index])

structure Untouched (transaction : TypeDBTransactionImpl) : Prop where
  isOpen : transaction.isOpen = true
  pending : transaction.pending = []
  called : transaction.called = []
  rejected : transaction.rejected = []

/-- What holds of a transaction at any time. The first callback is called by every close, and by
nothing else. -/
structure Consistent (transaction : TypeDBTransactionImpl) : Prop where
  untouched : transaction.closes = [] → transaction.Untouched
  early : transaction.early ≤ transaction.onClose
  closed : ∀ last, transaction.closes.getLast? = some last →
    transaction.isOpen = false ∧ transaction.error = last
  first : 0 < transaction.early → transaction.called.count 0 = transaction.closes.length
  single : ∀ error, transaction.closes = [error] → transaction.Progress

theorem Consistent.initial : Consistent {} where
  untouched := fun _ => ⟨rfl, rfl, rfl, rfl⟩
  early := Nat.le_refl 0
  closed := fun _ found => by cases found
  first := fun pos => by cases pos
  single := fun _ found => by cases found

theorem Consistent.register (consistent : Consistent transaction) :
    Consistent transaction.register := by
  obtain ⟨untouched, early, closed, first, single⟩ := consistent
  by_cases fresh : transaction.closes = []
  · have same : transaction.register =
        { transaction with
          onClose := transaction.onClose + 1, early := transaction.early + 1 } := by
      rw [TypeDBTransactionImpl.register, if_pos fresh]
    rw [same]
    refine ⟨fun _ => ?_, Nat.succ_le_succ early, closed, fun _ => ?_, ?_⟩
    · obtain ⟨isOpen, pending, called, rejected⟩ := untouched fresh
      exact ⟨isOpen, pending, called, rejected⟩
    · change transaction.called.count 0 = transaction.closes.length
      rw [(untouched fresh).called, fresh]
      rfl
    · intro error found
      rw [fresh] at found
      cases found
  · have same : transaction.register = { transaction with onClose := transaction.onClose + 1 } := by
      rw [TypeDBTransactionImpl.register, if_neg fresh]
    rw [same]
    refine ⟨fun none => absurd none fresh, Nat.le_succ_of_le early, closed, first, ?_⟩
    intro error found
    cases single error found with
    | waiting pending called rejected => exact .waiting pending called rejected
    | finished pending called all rejected => exact .finished pending called all rejected
    | failed pending called rejected => exact .failed pending called rejected

theorem callOnClose_cases (transaction : TypeDBTransactionImpl) (caller : Caller) (index : Nat) :
    (index < transaction.onClose ∧ transaction.callOnClose caller index =
        { transaction with
          pending := transaction.pending ++ [⟨index, caller⟩]
          called := transaction.called ++ [index] }) ∨
      (transaction.onClose ≤ index ∧ transaction.callOnClose caller index = transaction) := by
  rcases Nat.lt_or_ge index transaction.onClose with more | done
  · exact .inl ⟨more, if_pos more⟩
  · exact .inr ⟨done, if_neg (Nat.not_lt_of_ge done)⟩

theorem Consistent.closeStream (consistent : Consistent transaction) (error : Option CloseError)
    (caller : Caller) : Consistent (transaction.closeStream error caller) := by
  obtain ⟨untouched, early, closed, first, single⟩ := consistent
  have last : (transaction.closes ++ [error]).getLast? = some error := List.getLast?_concat
  have once : ∀ {other : Option CloseError}, transaction.closes ++ [error] = [other] →
      transaction.closes = [] := by
    intro other same
    exact (List.append_eq_singleton_iff.mp same).elim (·.1) fun found => absurd found.2 (by simp)
  rcases callOnClose_cases { transaction with
      isOpen := false
      error
      closes := transaction.closes ++ [error] } caller 0 with ⟨more, same⟩ | ⟨none, same⟩
  · rw [TypeDBTransactionImpl.closeStream, same]
    refine ⟨fun none => absurd none (by simp), early, ?_, fun pos => ?_, ?_⟩
    · intro latest found
      exact ⟨rfl, Option.some.inj (last.symm.trans found)⟩
    · simp [first pos]
    · intro other found
      obtain ⟨-, pending, called, rejected⟩ := untouched (once found)
      exact .waiting (congrArg (· ++ _) pending) (congrArg (· ++ _) called) rejected
  · rw [TypeDBTransactionImpl.closeStream, same]
    have noCallbacks : transaction.early = 0 := Nat.le_zero.mp (Nat.le_trans early none)
    refine ⟨fun none => absurd none (by simp), early, ?_, fun pos => ?_, ?_⟩
    · intro latest found
      exact ⟨rfl, Option.some.inj (last.symm.trans found)⟩
    · exact absurd pos (by simp [noCallbacks])
    · intro other found
      obtain ⟨-, pending, called, rejected⟩ := untouched (once found)
      exact .finished pending (called.trans List.range_zero.symm) (Nat.le_of_eq noCallbacks)
        rejected

variable {place : Nat} {waiting : Pending}

theorem Progress.waits (progress : Progress transaction)
    (found : transaction.pending[place]? = some waiting) :
    transaction.pending.eraseIdx place = [] ∧
      transaction.called = List.range (waiting.index + 1) ∧ transaction.rejected = [] := by
  cases progress with
  | waiting pending called rejected =>
    rw [pending] at found ⊢
    cases place with
    | zero =>
      cases found
      exact ⟨rfl, called, rejected⟩
    | succ place => simp at found
  | finished pending called all rejected => simp [pending] at found
  | failed pending called rejected => simp [pending] at found

theorem Consistent.touched (consistent : Consistent transaction)
    (found : transaction.pending[place]? = some waiting) : transaction.closes ≠ [] := by
  intro fresh
  rw [(consistent.untouched fresh).pending] at found
  cases found

theorem Consistent.resume (consistent : Consistent transaction) (place : Nat) :
    Consistent (transaction.resume place) := by
  unfold TypeDBTransactionImpl.resume
  split
  case h_2 => exact consistent
  case h_1 waiting found =>
    have touched := consistent.touched found
    obtain ⟨-, early, closed, first, single⟩ := consistent
    rcases callOnClose_cases
        { transaction with pending := transaction.pending.eraseIdx place } waiting.caller
        (waiting.index + 1) with ⟨more, same⟩ | ⟨done, same⟩
    · rw [same]
      refine ⟨fun fresh => absurd fresh touched, early, closed, fun pos => ?_, ?_⟩
      · simp [first pos]
      · intro error once
        obtain ⟨rest, called, rejected⟩ := (single error once).waits found
        refine .waiting (congrArg (· ++ _) rest) ?_ rejected
        rw [List.range_succ]
        exact congrArg (· ++ _) called
    · rw [same]
      refine ⟨fun fresh => absurd fresh touched, early, closed, first, ?_⟩
      intro error once
      obtain ⟨rest, called, rejected⟩ := (single error once).waits found
      exact .finished rest called (Nat.le_trans early done) rejected

theorem Consistent.reject (consistent : Consistent transaction) (place : Nat) :
    Consistent (transaction.reject place) := by
  unfold TypeDBTransactionImpl.reject
  split
  case h_2 => exact consistent
  case h_1 waiting found =>
    have touched := consistent.touched found
    obtain ⟨-, early, closed, first, single⟩ := consistent
    refine ⟨fun fresh => absurd fresh touched, early, closed, first, ?_⟩
    intro error once
    obtain ⟨rest, called, rejected⟩ := (single error once).waits found
    exact .failed rest called (congrArg (· ++ _) rejected)

theorem Progress.called_once_iff (progress : Progress transaction)
    (settled : transaction.pending = []) :
    (∀ callback < transaction.early, transaction.called.count callback = 1) ↔
      ∀ index ∈ transaction.rejected, transaction.early ≤ index + 1 := by
  have count_range : ∀ {count callback : Nat}, (List.range count).count callback = 1 ↔
      callback < count := by
    intro count callback
    rw [List.nodup_range.count]
    simp
  cases progress with
  | waiting pending called rejected => simp [pending] at settled
  | finished pending called all rejected =>
    rw [rejected, called]
    refine iff_of_true ?_ (by simp)
    intro callback registered
    exact count_range.mpr (Nat.lt_of_lt_of_le registered all)
  | @failed index pending called rejected =>
    rw [rejected, called]
    simp only [count_range, List.mem_singleton, forall_eq]
    constructor
    · intro calls
      by_contra beyond
      exact Nat.lt_irrefl _ (calls (index + 1) (Nat.lt_of_not_ge beyond))
    · intro enough callback registered
      exact Nat.lt_of_lt_of_le registered enough

theorem Consistent.checkOpen_of_closed (consistent : Consistent transaction)
    {last : Option CloseError} (closed : transaction.closes.getLast? = some last) :
    transaction.getError = last ∧ transaction.checkOpen = .error (.ofClose last) := by
  obtain ⟨isOpen, error⟩ := consistent.closed last closed
  refine ⟨error, ?_⟩
  rw [checkOpen, throwTransactionClosed, getError, isOpen, error]
  cases last <;> rfl

variable {first : Option CloseError} {later : List (Option CloseError)}

theorem Consistent.reported_iff (consistent : Consistent transaction)
    (closes : transaction.closes = first :: later) :
    (transaction.getError = first ∧ transaction.checkOpen = .error (.ofClose first)) ↔
      (first :: later).getLast? = some first := by
  obtain ⟨last, found⟩ : ∃ last, transaction.closes.getLast? = some last := by
    rw [closes]
    exact ⟨_, List.getLast?_cons⟩
  obtain ⟨error, refused⟩ := consistent.checkOpen_of_closed found
  rw [← closes, found, Option.some.injEq, error, and_iff_left_iff_imp]
  intro same
  rw [refused, same]

theorem Consistent.called_once_iff (consistent : Consistent transaction)
    (closes : transaction.closes = first :: later) (settled : transaction.pending = []) :
    (∀ callback < transaction.early, transaction.called.count callback = 1) ↔
      transaction.early = 0 ∨
        later = [] ∧ ∀ index ∈ transaction.rejected, transaction.early ≤ index + 1 := by
  rcases Nat.eq_zero_or_pos transaction.early with none | some
  · refine iff_of_true ?_ (.inl none)
    intro callback registered
    rw [none] at registered
    cases registered
  · rw [or_iff_right (Nat.ne_of_gt some)]
    cases later with
    | nil =>
      rw [(consistent.single first closes).called_once_iff settled]
      exact (and_iff_right rfl).symm
    | cons second rest =>
      -- every close has called the first callback
      refine iff_of_false ?_ fun once => by cases once.1
      intro calls
      have twice := consistent.first some
      rw [calls 0 some, closes] at twice
      simp at twice

end TypeDBTransactionImpl

namespace TypeDBSessionImpl

variable {session next : TypeDBSessionImpl}

def AllConsistent (session : TypeDBSessionImpl) : Prop :=
  ∀ impl ∈ session.made, impl.Consistent

theorem AllConsistent.update (consistent : AllConsistent session) (transaction : Nat)
    {change : TypeDBTransactionImpl → TypeDBTransactionImpl}
    (kept : ∀ {impl : TypeDBTransactionImpl}, impl.Consistent → (change impl).Consistent) :
    AllConsistent (session.update transaction change) := by
  intro impl member
  obtain ⟨place, found⟩ := List.mem_iff_getElem?.mp member
  change (session.made.modify transaction change)[place]? = some impl at found
  rw [List.getElem?_modify] at found
  obtain ⟨before, known, same⟩ := Option.map_eq_some_iff.mp found
  have sound := consistent before (List.mem_of_getElem? known)
  split at same
  · exact same ▸ kept sound
  · exact same ▸ sound

theorem AllConsistent.closeTransactions {transactions : List Nat}
    (consistent : AllConsistent session) :
    AllConsistent (closeTransactions transactions session) := by
  induction transactions generalizing session with
  | nil => exact consistent
  | cons transaction rest ih =>
    have closing := consistent.update transaction (fun sound => sound.closeStream none .session)
    unfold TypeDBSessionImpl.closeTransactions
    dsimp only
    split
    · exact closing
    · exact ih closing

theorem AllConsistent.afterClose (consistent : AllConsistent session) (transaction : Nat)
    (caller : Caller) : AllConsistent (session.afterClose transaction caller) := by
  cases caller with
  | stream => exact consistent
  | transaction => exact consistent
  | session => exact AllConsistent.closeTransactions consistent

theorem AllConsistent.closeStream (consistent : AllConsistent session) (transaction : Nat)
    (error : Option CloseError) (caller : Caller) :
    AllConsistent (session.closeStream transaction error caller) := by
  have closing := consistent.update transaction (fun sound => sound.closeStream error caller)
  unfold TypeDBSessionImpl.closeStream
  dsimp only
  split
  · exact closing
  · exact closing.afterClose transaction caller

theorem AllConsistent.closeResources (consistent : AllConsistent session) :
    AllConsistent session.closeResources :=
  AllConsistent.closeTransactions consistent

theorem AllConsistent.change (consistent : AllConsistent session) (transaction : Nat)
    {opened : TypeDBTransactionImpl → Bool} {commits : TypeDBTransactionImpl → Nat} :
    AllConsistent (session.update transaction fun impl =>
      { impl with opened := opened impl, commits := commits impl }) := by
  refine consistent.update transaction fun {impl} sound => ?_
  refine ⟨fun fresh => ?_, sound.early, sound.closed, sound.first, fun error once => ?_⟩
  · obtain ⟨isOpen, pending, called, rejected⟩ := sound.untouched fresh
    exact ⟨isOpen, pending, called, rejected⟩
  · cases sound.single error once with
    | waiting pending called rejected => exact .waiting pending called rejected
    | finished pending called all rejected => exact .finished pending called all rejected
    | failed pending called rejected => exact .failed pending called rejected

theorem AllConsistent.step {label : Label} (consistent : AllConsistent session)
    (took : session.step label = some next) : AllConsistent next := by
  cases label with
  | «open» =>
    cases took
    intro impl member
    rcases List.mem_append.mp member with old | new
    · exact consistent impl old
    · cases List.mem_singleton.mp new
      exact .initial
  | opened transaction =>
    simp only [TypeDBSessionImpl.step] at took
    split at took
    · cases took
      exact consistent.change transaction
    · cases took
  | onClose transaction =>
    obtain ⟨impl, -, took⟩ := Option.bind_eq_some_iff.mp took
    cases took
    exact consistent.update transaction fun sound => sound.register
  | close transaction =>
    obtain ⟨impl, -, took⟩ := Option.bind_eq_some_iff.mp took
    cases took
    exact consistent.closeStream transaction none .transaction
  | commit transaction =>
    obtain ⟨impl, -, took⟩ := Option.bind_eq_some_iff.mp took
    split at took
    · cases took
      exact consistent.change transaction
    · cases took
      exact consistent.closeStream transaction none .transaction
  | committed transaction =>
    obtain ⟨impl, -, took⟩ := Option.bind_eq_some_iff.mp took
    split at took
    · cases took
      exact (consistent.change transaction).closeStream transaction none .transaction
    · cases took
  | errorEvent transaction error =>
    simp only [TypeDBSessionImpl.step] at took
    split at took
    · cases took
      exact consistent.closeStream transaction (some error) .stream
    · cases took
  | sessionClose =>
    cases took
    split
    · exact consistent.closeResources
    · exact consistent
  | pulse =>
    cases took
    exact consistent.closeResources
  | settle transaction place fulfilled =>
    obtain ⟨impl, -, took⟩ := Option.bind_eq_some_iff.mp took
    obtain ⟨waiting, -, took⟩ := Option.bind_eq_some_iff.mp took
    cases fulfilled with
    | false =>
      cases took
      exact consistent.update transaction fun sound => sound.reject place
    | true =>
      have resumed := consistent.update transaction (fun sound => sound.resume place)
      simp only [if_true] at took
      split at took
      · cases took
        exact resumed
      · cases took
        exact resumed.afterClose transaction waiting.caller

theorem allConsistent_run {labels : List Label} (ran : system.run {} labels = some session) :
    AllConsistent session := by
  refine TransitionSystem.run_preserves (fun consistent took => consistent.step took) ?_ ran
  intro impl member
  cases member

/-- A transaction that was closed reports the error of the first close exactly if the last close
came with the same one. When its callbacks have settled, each one that was registered before the
first close was called exactly once, exactly if there are none, or no other close came and none of
them was skipped because one before it was rejected. -/
theorem transaction_closed_once_iff {labels : List Label}
    (ran : system.run {} labels = some session) {index : Nat}
    {transaction : TypeDBTransactionImpl} (found : session.made[index]? = some transaction)
    {first : Option CloseError} {later : List (Option CloseError)}
    (closes : transaction.closes = first :: later) :
    (transaction.pending = [] →
        ((∀ callback < transaction.early, transaction.called.count callback = 1) ↔
          transaction.early = 0 ∨
            later = [] ∧ ∀ index ∈ transaction.rejected, transaction.early ≤ index + 1)) ∧
      ((transaction.getError = first ∧ transaction.checkOpen = .error (.ofClose first)) ↔
        (first :: later).getLast? = some first) := by
  have consistent := allConsistent_run ran transaction (List.mem_of_getElem? found)
  exact ⟨consistent.called_once_iff closes, consistent.reported_iff closes⟩

/-- An error closes the transaction, and its callbacks are called before anything else happens. -/
theorem transaction_closed_once_iff_error :
    ∃ session transaction, system.run {} [.open, .opened 0, .onClose 0, .onClose 0,
        .errorEvent 0 "UNAVAILABLE", .settle 0 0 true, .settle 0 0 true] = some session ∧
      session.made[0]? = some transaction ∧ transaction.early = 2 ∧
      (∀ callback < transaction.early, transaction.called.count callback = 1) ∧
      transaction.getError = some "UNAVAILABLE" ∧
      transaction.checkOpen = .error (.transactionClosedWithErrors "UNAVAILABLE") := by
  obtain ⟨session, transaction, ran, found, early, closes, settled, rejected⟩ :
      ∃ session transaction, system.run {} [.open, .opened 0, .onClose 0, .onClose 0,
        .errorEvent 0 "UNAVAILABLE", .settle 0 0 true, .settle 0 0 true] = some session ∧
      session.made[0]? = some transaction ∧ transaction.early = 2 ∧
      transaction.closes = [some "UNAVAILABLE"] ∧ transaction.pending = [] ∧
      transaction.rejected = [] := ⟨_, _, rfl, rfl, rfl, rfl, rfl, rfl⟩
  obtain ⟨callbacks, reports⟩ := transaction_closed_once_iff ran found closes
  have kept : ∀ index ∈ transaction.rejected, transaction.early ≤ index + 1 := by
    rw [rejected]
    intro index member
    cases member
  exact ⟨session, transaction, ran, found, early, (callbacks settled).mpr (.inr ⟨rfl, kept⟩),
    reports.mpr rfl⟩

/-- The stream fails while `commit` waits for the server: `commit` closes the transaction again, so
that the callback is called twice and the error is gone. The same happens where the application
closes a transaction that has failed. -/
theorem transaction_closed_twice :
    (∃ session transaction, system.run {} [.open, .opened 0, .onClose 0, .commit 0,
        .errorEvent 0 "UNAVAILABLE", .settle 0 0 true, .committed 0, .settle 0 0 true] =
        some session ∧
      session.made[0]? = some transaction ∧ transaction.early = 1 ∧
      transaction.closes.head? = some (some "UNAVAILABLE") ∧ transaction.called = [0, 0] ∧
      transaction.getError = none ∧ transaction.checkOpen = .error .transactionClosed) ∧
    (∃ session transaction, system.run {} [.open, .opened 0, .onClose 0,
        .errorEvent 0 "UNAVAILABLE", .settle 0 0 true, .close 0, .settle 0 0 true] =
        some session ∧
      session.made[0]? = some transaction ∧ transaction.early = 1 ∧
      transaction.closes.head? = some (some "UNAVAILABLE") ∧ transaction.called = [0, 0] ∧
      transaction.getError = none ∧ transaction.checkOpen = .error .transactionClosed) :=
  ⟨⟨_, _, rfl, rfl, rfl, rfl, rfl, rfl, rfl⟩, ⟨_, _, rfl, rfl, rfl, rfl, rfl, rfl, rfl⟩⟩

end TypeDBSessionImpl

end TypeDBDriver.Nodejs.Closing
