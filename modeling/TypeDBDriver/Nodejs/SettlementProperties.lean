import TypeDBDriver.Nodejs.StreamProperties

/-! What becomes of pending promises when the server ends the stream. An error event closes the
stream, and every close adds its mark to every queue; an end event does nothing. -/

namespace TypeDBDriver.Nodejs.BidirectionalStream

open Library PromiseQueue

variable {Content : Type} {stream after : BidirectionalStream Content}

theorem close_value {α : Type} {queue : ResponseQueue α} {added : List (QueueElement α)}
    {taken : Nat} (represents : queue.Represents added taken) (error : Option CloseError) :
    (queue.close error).value added.length = some (.done error) := by
  rw [ResponseQueue.close, (represents.add (.done error)).value_eq]
  simp

structure Called (isOpen : Bool) (collector : ResponseCollector (TransactionRes Content))
    (single : Single) (added : List (QueueElement (TransactionRes Content))) : Prop where
  first : single.promise = 0
  queue : ∃ queue, collector single.requestId = some queue ∧ queue.Represents added 1
  marked : isOpen = false → added ≠ []

def SinglesCalled (stream : BidirectionalStream Content) : Prop :=
  ∀ single ∈ stream.singles, ∃ added, Called stream.isOpen stream.responseCollector single added

theorem singlesCalled_initial : SinglesCalled ({} : BidirectionalStream Content) := by
  intro single member
  cases member

section

variable (called : SinglesCalled stream)

include called

theorem SinglesCalled.same (isOpen : after.isOpen = stream.isOpen)
    (collector : after.responseCollector = stream.responseCollector)
    (singles : after.singles = stream.singles) : SinglesCalled after := by
  unfold SinglesCalled
  rw [isOpen, collector, singles]
  exact called

theorem SinglesCalled.close (error : Option CloseError) : SinglesCalled (stream.close error) := by
  intro single member
  obtain ⟨added, first, ⟨queue, found, represents⟩, -⟩ := called single member
  have closed : Represents (queue.close error) (added ++ [.done error]) 1 := represents.add _
  refine ⟨_, first, ⟨queue.close error, ?_, closed⟩, by simp⟩
  simp [BidirectionalStream.close, ResponseCollector.close, found]

theorem SinglesCalled.collectRes (res : TransactionRes Content) :
    SinglesCalled (stream.collectRes res) := by
  unfold BidirectionalStream.collectRes
  split
  case h_1 => exact called
  case h_2 queue found =>
    intro single member
    obtain ⟨added, first, ⟨own, known, represents⟩, marked⟩ := called single member
    by_cases same : single.requestId = res.reqId
    · rw [same, found] at known
      cases known
      have answered : Represents (queue.put res) (added ++ [.value res]) 1 := represents.add _
      refine ⟨_, first, ⟨queue.put res, ?_, answered⟩, by simp⟩
      rw [same]
      exact Function.update_self _ _ _
    · exact ⟨added, first, ⟨own, (Function.update_of_ne same _ _).trans known, represents⟩, marked⟩

theorem SinglesCalled.collectResPart (part : TransactionResPart Content) :
    SinglesCalled (stream.collectResPart part) := by
  unfold BidirectionalStream.collectResPart
  split
  · exact called
  · exact called.same rfl rfl rfl

theorem SinglesCalled.onData (message : TransactionServer Content) :
    SinglesCalled (stream.onData message) := by
  unfold BidirectionalStream.onData
  split
  case isTrue => exact called
  case isFalse =>
    cases message with
    | res res => exact called.collectRes res
    | empty => exact called
    | resPart part => exact called.collectResPart part

end

variable {requestId : RequestId}

theorem SinglesCalled.single (called : SinglesCalled stream) (isOpen : stream.isOpen = true)
    (unused : stream.unused requestId = true) (took : stream.single requestId = some after) :
    SinglesCalled after := by
  have fresh : stream.responseCollector requestId = none := by
    simp only [BidirectionalStream.unused, Bool.and_eq_true, Option.isNone_iff_eq_none] at unused
    exact unused.1
  have empty : Represents ({} : ResponseQueue (TransactionRes Content)) [] 0 := Represents.empty
  have taken := empty.take
  unfold BidirectionalStream.single at took
  simp only [taken.1, Option.bind_eq_bind, Option.bind_some] at took
  cases took
  intro single member
  rcases List.mem_append.mp member with earlier | same
  · obtain ⟨added, first, ⟨queue, found, represents⟩, marked⟩ := called single earlier
    have differs : single.requestId ≠ requestId := by
      intro same
      rw [same, fresh] at found
      cases found
    exact ⟨added, first, ⟨queue, (Function.update_of_ne differs _ _).trans found, represents⟩,
      marked⟩
  · cases List.mem_singleton.mp same
    refine ⟨[], rfl, ⟨_, Function.update_self _ _ _, taken.2⟩, ?_⟩
    intro closed
    rw [isOpen] at closed
    cases closed

theorem Elsewhere.singlesCalled (called : SinglesCalled stream)
    (elsewhere : Elsewhere requestId stream after) : SinglesCalled after :=
  called.same elsewhere.isOpen elsewhere.collector elsewhere.singles

theorem SinglesCalled.step (called : SinglesCalled stream) {label : Label Content}
    (took : (system Content).step stream label = some after) : SinglesCalled after := by
  cases label with
  | pull requestId => exact (elsewhere_pull took).1.singlesCalled called
  | resume requestId => exact (elsewhere_resume took).1.singlesCalled called
  | abandon requestId => exact (elsewhere_abandon took).1.singlesCalled called
  | close error =>
    cases took
    exact called.close error
  | errorEvent error =>
    cases took
    exact called.close (some error)
  | endEvent =>
    cases took
    exact called
  | dataEvent message =>
    cases took
    exact called.onData message
  | rpcStream requestId =>
    simp only [system, BidirectionalStream.step] at took
    split at took
    case isTrue =>
      cases took
      exact called
    case isFalse =>
      obtain ⟨-, took⟩ := Option.ite_none_right_eq_some.mp took
      cases took
      exact called.same rfl rfl rfl
  | rpcExecute requestId =>
    simp only [system, BidirectionalStream.step] at took
    split at took
    case isTrue =>
      cases took
      exact called
    case isFalse going =>
      obtain ⟨unused, took⟩ := Option.ite_none_right_eq_some.mp took
      exact called.single (by simpa using going) unused took

variable {labels : List (Label Content)}

theorem singlesCalled_of_run (ran : (system Content).run {} labels = some stream) :
    SinglesCalled stream :=
  TransitionSystem.run_preserves (fun called took => called.step took) singlesCalled_initial
    ran

theorem SinglesCalled.pending (called : SinglesCalled stream) {call : Nat}
    (awaits : stream.Awaits (.single call)) (pending : stream.settlement (.single call) = none) :
    stream.isOpen = true ∧ ∀ error, ∃ thrown,
      (stream.close error).settlement (.single call) = some (.error thrown) := by
  obtain ⟨single, found⟩ : ∃ single, stream.singles[call]? = some single :=
    ⟨_, List.getElem?_eq_getElem awaits⟩
  obtain ⟨added, first, ⟨queue, known, represents⟩, marked⟩ :=
    called single (List.mem_of_getElem? found)
  have nothing : added = [] := by
    cases added with
    | nil => rfl
    | cons elem added =>
      simp [settlement, found, known, first, represents.value_eq] at pending
  subst nothing
  constructor
  · apply eq_true_of_ne_false
    intro closed
    exact marked closed rfl
  · intro error
    have value : (queue.close error).value 0 = some (.done error) := close_value represents error
    have known : (stream.close error).responseCollector single.requestId =
        some (queue.close error) := by
      simp [BidirectionalStream.close, ResponseCollector.close, known]
    have found : (stream.close error).singles[call]? = some single := found
    simp [settlement, found, known, first, value, outcome_done, Except.map]

theorem Follows.pending {consumed rest : List (TransactionResPart Content)}
    (follows : Follows requestId stream consumed rest) {promise : Nat}
    (awaits : stream.Awaits (.part requestId promise))
    (pending : stream.settlement (.part requestId promise) = none) :
    stream.isOpen = true ∧ ∀ error, ∃ thrown,
      (stream.close error).settlement (.part requestId promise) = some (.error thrown) := by
  obtain ⟨queue, iterator, closes, taken, found, known, consumption⟩ := follows
  simp only [Awaits, known, Option.map_some, Option.some.injEq] at awaits
  have standing := consumption.standing
  rw [awaits] at standing
  cases standing with
  | awaiting going =>
    have nothing : rest = [] ∧ closes = [] := by
      simp only [settlement, found, consumption.value_eq, Option.bind_eq_bind,
        Option.bind_some] at pending
      cases rest with
      | cons part rest => simp at pending
      | nil =>
        cases closes with
        | cons error closes => simp at pending
        | nil => exact ⟨rfl, rfl⟩
    obtain ⟨rfl, rfl⟩ := nothing
    refine ⟨consumption.marked.mpr rfl, ?_⟩
    intro error
    have value : (queue.close error).value consumed.length = some (.done error) := by
      simpa using close_value consumption.represents error
    have known : (stream.close error).responsePartCollector requestId =
        some (queue.close error) := by
      simp [BidirectionalStream.close, ResponseCollector.close, found]
    simp [settlement, known, value, outcome_done, Except.map]

theorem pending_of_run (ran : (system Content).run {} labels = some stream) {awaited : Awaited}
    (awaits : stream.Awaits awaited) (pending : stream.settlement awaited = none) :
    stream.isOpen = true ∧ ∀ error, ∃ thrown,
      (stream.close error).settlement awaited = some (.error thrown) := by
  cases awaited with
  | single call => exact (singlesCalled_of_run ran).pending awaits pending
  | part requestId promise =>
    obtain ⟨iterator, created, -⟩ := Option.map_eq_some_iff.mp awaits
    obtain ⟨consumed, rest, -, follows⟩ := follows_of_run ran created
    exact follows.pending awaits pending

/-- The last event of the server settles what is pending exactly if it is an error, or if the
stream was closed before it. -/
theorem last_event_settles_iff {labels : List (Label Content)}
    (ran : (system Content).run {} labels = some stream) {last : LastEvent}
    (took : stream.step last.label = some after) :
    Settles stream after ↔ last.isError = true ∨ stream.isOpen = false := by
  cases last with
  | error reason =>
    cases took
    constructor
    · intro _
      exact .inl rfl
    · intro _
      refine ⟨rfl, ?_⟩
      intro awaited awaits pending
      exact (pending_of_run ran awaits pending).2 (some reason)
  | «end» =>
    cases took
    constructor
    · intro settles
      exact .inr settles.1
    · intro condition
      rcases condition with failed | closed
      · cases failed
      · refine ⟨closed, ?_⟩
        intro awaited awaits pending
        rw [(pending_of_run ran awaits pending).1] at closed
        cases closed

/-- A request and an iterator wait for the server, which ends the stream with an error. -/
theorem last_event_settles_iff_error :
    ∃ stream after, (system String).run {} [.rpcExecute 0, .rpcStream 1, .pull 1] = some stream ∧
      stream.Awaits (.single 0) ∧ stream.settlement (.single 0) = none ∧
      stream.step (LastEvent.error "UNAVAILABLE").label = some after ∧ Settles stream after := by
  have ran : (system String).run {} [.rpcExecute 0, .rpcStream 1, .pull 1] = some _ := rfl
  have settles := @last_event_settles_iff _ _ _ _ ran (.error "UNAVAILABLE") rfl
  exact ⟨_, _, ran, Nat.zero_lt_one, rfl, rfl, settles.mpr (.inl rfl)⟩

/-- The server ends the stream without an error: it stays open, and both promises stay pending. -/
theorem clean_end_leaves_pending :
    ∃ after, (system String).run {} [.rpcExecute 0, .rpcStream 1, .pull 1, .endEvent] =
        some after ∧ after.isOpen = true ∧
      after.Awaits (.single 0) ∧ after.settlement (.single 0) = none ∧
      after.Awaits (.part 1 0) ∧ after.settlement (.part 1 0) = none :=
  ⟨_, rfl, rfl, Nat.zero_lt_one, rfl, rfl, rfl⟩

end TypeDBDriver.Nodejs.BidirectionalStream
