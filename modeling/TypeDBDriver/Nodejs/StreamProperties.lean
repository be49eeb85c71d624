import TypeDBDriver.Nodejs.BidirectionalStream

/-! What the iterator of a request has yielded and dispatched, in terms of the parts that arrived
for it. The queue of the request holds the parts that came before the first close, followed by
the marks of the closes. -/

namespace TypeDBDriver.Nodejs.BidirectionalStream

open Library PromiseQueue
open Function (update_of_ne update_self)
open TransactionResPart (isAnswer isContinue isFinal)
open Option (bind_eq_bind bind_some)

variable {Content : Type} {stream after : BidirectionalStream Content} {requestId : RequestId}

/-- The iterator has consumed the parts `consumed` of the queue, which holds them, the parts
`rest` and the marks `closes`, and of which `taken` promises were taken. -/
structure Consumption (isOpen : Bool) (queue : ResponseQueue (TransactionResPart Content))
    (iterator : ResponsePartIterator Content) (requests : Nat)
    (consumed rest : List (TransactionResPart Content)) (closes : List (Option CloseError))
    (taken : Nat) : Prop where
  represents :
    queue.Represents ((consumed ++ rest).map .value ++ closes.map .done) taken
  marked : isOpen = true ↔ closes = []
  yielded : iterator.yielded = consumed.filter (·.isAnswer)
  requests : requests = consumed.countP (·.isContinue)
  standing : Standing isOpen consumed rest iterator.phase
  idle : iterator.phase = .idle → taken = consumed.length
  awaiting : ∀ promise, iterator.phase = .awaiting promise → taken = consumed.length + 1

section Consumption

variable {isOpen : Bool} {queue : ResponseQueue (TransactionResPart Content)}
  {iterator : ResponsePartIterator Content} {requests : Nat}
  {consumed rest : List (TransactionResPart Content)} {closes : List (Option CloseError)}
  {taken : Nat}

theorem consumption_initial :
    Consumption true ({} : ResponseQueue (TransactionResPart Content)) {} 0 [] [] [] 0 where
  represents := Represents.empty
  marked := ⟨fun _ => rfl, fun _ => rfl⟩
  yielded := rfl
  requests := rfl
  standing := .idle (by simp)
  idle _ := rfl
  awaiting _ phase := by cases phase

variable {phase : IteratorPhase}

theorem Standing.transfer {later : Bool} {remaining : List (TransactionResPart Content)}
    (standing : Standing isOpen consumed rest phase)
    (closes : isOpen = false → rest = [] → later = false ∧ remaining = []) :
    Standing later consumed remaining phase := by
  cases standing with
  | idle going => exact .idle going
  | abandoned going => exact .abandoned going
  | awaiting going => exact .awaiting going
  | ended consumes going done => exact .ended consumes going done
  | unrecognized consumes going signal => exact .unrecognized consumes going signal
  | closed going drained closed =>
    obtain ⟨closed, drained⟩ := closes closed drained
    exact .closed going drained closed

theorem Consumption.arrived
    (consumption : Consumption true queue iterator requests consumed rest closes taken)
    (part : TransactionResPart Content) :
    Consumption true (queue.put part) iterator requests consumed (rest ++ [part]) closes taken := by
  have unmarked : closes = [] := consumption.marked.mp rfl
  have represents := consumption.represents.add (.value part)
  refine { consumption with
    represents := ?_
    standing := consumption.standing.transfer fun closed => by cases closed }
  simpa [ResponseQueue.put, unmarked] using represents

theorem Consumption.close
    (consumption : Consumption isOpen queue iterator requests consumed rest closes taken)
    (error : Option CloseError) :
    Consumption false (queue.close error) iterator requests consumed rest (closes ++ [error])
      taken := by
  have represents := consumption.represents.add (.done error)
  refine { consumption with
    represents := ?_
    marked := by simp
    standing := consumption.standing.transfer fun _ drained => ⟨rfl, drained⟩ }
  simpa [ResponseQueue.close] using represents

theorem Consumption.value_eq
    (consumption : Consumption isOpen queue iterator requests consumed rest closes taken) :
    queue.value consumed.length =
      (rest.map QueueElement.value ++ closes.map QueueElement.done).head? := by
  rw [consumption.represents.value_eq, List.map_append, List.append_assoc,
    List.getElem?_append_right (by simp)]
  simp [List.head?_eq_getElem?]

variable {part : TransactionResPart Content}

theorem going_append (going : ∀ part ∈ consumed, part.isFinal = false)
    (goesOn : part.isFinal = false) : ∀ other ∈ consumed ++ [part], other.isFinal = false := by
  intro other member
  rcases List.mem_append.mp member with earlier | same
  · exact going other earlier
  · rw [List.mem_singleton.mp same]
    exact goesOn

theorem Consumption.consume (consumption :
      Consumption isOpen queue iterator requests consumed (part :: rest) closes taken)
    {received : ResponsePartIterator Content} {requested : Nat}
    (yielded : received.yielded = iterator.yielded ++ [part].filter (·.isAnswer))
    (dispatched : requested = requests + [part].countP (·.isContinue))
    (standing : Standing isOpen (consumed ++ [part]) rest received.phase)
    (idle : received.phase = .idle → taken = consumed.length + 1)
    (awaiting : ∀ promise, received.phase ≠ .awaiting promise) :
    Consumption isOpen queue received requested (consumed ++ [part]) rest closes taken where
  represents := by
    simpa only [List.append_assoc, List.singleton_append] using consumption.represents
  marked := consumption.marked
  yielded := by rw [yielded, consumption.yielded, List.filter_append]
  requests := by rw [dispatched, consumption.requests, List.countP_append]
  standing := standing
  idle phase := by rw [idle phase, List.length_append, List.length_singleton]
  awaiting promise phase := absurd phase (awaiting promise)

theorem Consumption.stop (consumption :
      Consumption isOpen queue iterator requests consumed (part :: rest) closes taken)
    (silent : part.isAnswer = false) (still : part.isContinue = false)
    (standing : Standing isOpen (consumed ++ [part]) rest phase) (stops : phase.isOver = true) :
    Consumption isOpen queue { iterator with phase } requests (consumed ++ [part]) rest closes
      taken := by
  refine consumption.consume ?_ ?_ standing ?_ ?_
  · simp [silent]
  · simp [still]
  · intro idle
    cases idle
    cases stops
  · intro promise awaiting
    cases awaiting
    cases stops

theorem Consumption.next
    (consumption : Consumption isOpen queue iterator requests consumed rest closes taken)
    (going : ∀ part ∈ consumed, part.isFinal = false) (count : taken = consumed.length) :
    Consumption isOpen queue.take.2 { iterator with phase := .awaiting taken } requests consumed
      rest closes (taken + 1) := by
  refine { consumption with
    represents := consumption.represents.take.2
    standing := ?_
    idle := fun phase => by cases phase
    awaiting := fun _ _ => by rw [count] }
  rw [count]
  exact .awaiting going

end Consumption

theorem outcome_done {α : Type} (error : Option CloseError) :
    (QueueElement.done error : QueueElement α).outcome =
      .error (error.elim .transactionClosed .ofError) := by
  cases error <;> rfl

/-- The request is known, and its iterator has consumed `consumed` and has `rest` before it. -/
def Follows (requestId : RequestId) (stream : BidirectionalStream Content)
    (consumed rest : List (TransactionResPart Content)) : Prop :=
  ∃ queue iterator closes taken,
    stream.responsePartCollector requestId = some queue ∧
    stream.iterators requestId = some iterator ∧
    Consumption stream.isOpen queue iterator
      (stream.dispatched.count (.streamReq requestId)) consumed rest closes taken

variable {queue : ResponseQueue (TransactionResPart Content)} {taken : Nat}

theorem next_eq {added : List (QueueElement (TransactionResPart Content))}
    (found : stream.responsePartCollector requestId = some queue)
    (represents : queue.Represents added taken) (iterator : ResponsePartIterator Content) :
    stream.next requestId iterator = some ({ stream with
      responsePartCollector := stream.responsePartCollector.set requestId queue.take.2
      }.setIterator requestId { iterator with phase := .awaiting taken }) := by
  simp only [next, found, represents.take.1, bind_eq_bind, bind_some]

section Steps

variable {queue : ResponseQueue (TransactionResPart Content)}
  {iterator : ResponsePartIterator Content}
  {consumed rest : List (TransactionResPart Content)} {closes : List (Option CloseError)}
  {taken : Nat}

section

variable (found : stream.responsePartCollector requestId = some queue)

include found

theorem follows_setIterator {received : ResponsePartIterator Content}
    (consumption : Consumption stream.isOpen queue received
      (stream.dispatched.count (.streamReq requestId)) consumed rest closes taken) :
    Follows requestId (stream.setIterator requestId received) consumed rest :=
  ⟨queue, received, closes, taken, found, update_self _ _ _, consumption⟩

theorem follows_next (consumption : Consumption stream.isOpen queue iterator
      (stream.dispatched.count (.streamReq requestId)) consumed rest closes taken)
    (going : ∀ part ∈ consumed, part.isFinal = false) (count : taken = consumed.length)
    (took : stream.next requestId iterator = some after) :
    Follows requestId after consumed rest := by
  rw [next_eq found consumption.represents] at took
  cases took
  exact ⟨queue.take.2, _, closes, taken + 1, update_self _ _ _,
    update_self _ _ _, consumption.next going count⟩

theorem follows_receive {part : TransactionResPart Content}
    (consumption : Consumption stream.isOpen queue iterator
      (stream.dispatched.count (.streamReq requestId)) consumed (part :: rest) closes taken)
    (going : ∀ part ∈ consumed, part.isFinal = false) (count : taken = consumed.length + 1)
    (took : stream.receive requestId iterator part = some after) :
    Follows requestId after (consumed ++ [part]) rest := by
  unfold receive at took
  cases signal : part.streamResPart with
  | none =>
    simp only [signal] at took
    cases took
    have goesOn : part.isFinal = false := by simp [isFinal, signal]
    refine follows_setIterator found
      (consumption.consume ?_ ?_ (.idle (going_append going goesOn)) (fun _ => count) ?_)
    · simp [isAnswer, signal]
    · simp [isContinue, signal]
    · intro promise phase
      cases phase
  | some state =>
    have silent : part.isAnswer = false := by simp [isAnswer, signal]
    cases state with
    | done =>
      simp only [signal] at took
      cases took
      have still : part.isContinue = false := by simp [isContinue, signal]
      exact follows_setIterator found
        (consumption.stop silent still (.ended rfl going signal) rfl)
    | unrecognized value =>
      simp only [signal] at took
      cases took
      have still : part.isContinue = false := by simp [isContinue, signal]
      exact follows_setIterator found
        (consumption.stop silent still (.unrecognized rfl going signal) rfl)
    | «continue» =>
      simp only [signal] at took
      have goesOn : part.isFinal = false := by simp [isFinal, signal]
      have idle : Consumption stream.isOpen queue { iterator with phase := .idle }
          (List.count (.streamReq requestId) (stream.dispatched ++ [.streamReq requestId]))
          (consumed ++ [part]) rest closes taken := by
        refine consumption.consume ?_ ?_ (.idle (going_append going goesOn)) (fun _ => count) ?_
        · simp [silent]
        · simp [isContinue, signal]
        · intro promise phase
          cases phase
      have known : BidirectionalStream.responsePartCollector { stream with
          dispatched := stream.dispatched ++ [.streamReq requestId] } requestId =
          some queue := found
      exact follows_next known idle (going_append going goesOn) (by simpa using count) took

end

end Steps

variable {consumed rest : List (TransactionResPart Content)}

theorem Follows.pull (follows : Follows requestId stream consumed rest)
    (took : stream.pull requestId = some after) : Follows requestId after consumed rest := by
  obtain ⟨queue, iterator, closes, taken, found, known, consumption⟩ := follows
  have unchanged : Follows requestId stream consumed rest :=
    ⟨queue, iterator, closes, taken, found, known, consumption⟩
  simp only [BidirectionalStream.pull, known, bind_eq_bind, bind_some] at took
  have standing := consumption.standing
  cases phase : iterator.phase with
  | idle =>
    simp only [phase] at took standing
    cases standing with
    | idle going => exact follows_next found consumption going (consumption.idle phase) took
  | awaiting promise => simp [phase] at took
  | ended | threw | abandoned =>
    simp only [phase] at took
    cases took
    exact unchanged

theorem Follows.abandon (follows : Follows requestId stream consumed rest)
    (took : stream.abandon requestId = some after) : Follows requestId after consumed rest := by
  obtain ⟨queue, iterator, closes, taken, found, known, consumption⟩ := follows
  simp only [BidirectionalStream.abandon, known, bind_eq_bind, bind_some] at took
  have standing := consumption.standing
  cases phase : iterator.phase with
  | idle =>
    simp only [phase] at took standing
    cases took
    cases standing with
    | idle going =>
      have left : Consumption stream.isOpen queue { iterator with phase := .abandoned }
          (stream.dispatched.count (.streamReq requestId)) consumed rest closes taken :=
        { consumption with
          standing := .abandoned going
          idle := fun none => by cases none
          awaiting := fun _ none => by cases none }
      exact follows_setIterator found left
  | awaiting | ended | threw | abandoned => simp [phase] at took

variable {iterator : ResponsePartIterator Content} {closes : List (Option CloseError)}

theorem follows_closed {error : Option CloseError}
    (found : stream.responsePartCollector requestId = some queue)
    (consumption : Consumption stream.isOpen queue iterator
      (stream.dispatched.count (.streamReq requestId)) consumed [] (error :: closes) taken)
    (going : ∀ part ∈ consumed, part.isFinal = false) :
    Follows requestId (stream.setIterator requestId
      { iterator with phase := .threw (error.elim .transactionClosed .ofError) }) consumed [] := by
  have closed : stream.isOpen = false := by
    cases isOpen : stream.isOpen with
    | false => rfl
    | true => cases consumption.marked.mp isOpen
  have thrown : Consumption stream.isOpen queue
      { iterator with phase := .threw (error.elim .transactionClosed .ofError) }
      (stream.dispatched.count (.streamReq requestId)) consumed [] (error :: closes) taken :=
    { consumption with
      standing := .closed going rfl closed
      idle := fun none => by cases none
      awaiting := fun _ none => by cases none }
  exact follows_setIterator found thrown

theorem Follows.resume (follows : Follows requestId stream consumed rest)
    (took : stream.resume requestId = some after) :
    (∃ part others, rest = part :: others ∧ Follows requestId after (consumed ++ [part]) others) ∨
      rest = [] ∧ Follows requestId after consumed [] ∧
        ∃ iterator error, after.iterators requestId = some iterator ∧
          iterator.phase = .threw error := by
  obtain ⟨queue, iterator, closes, taken, found, known, consumption⟩ := follows
  simp only [BidirectionalStream.resume, known, found, bind_eq_bind, bind_some] at took
  have standing := consumption.standing
  cases phase : iterator.phase with
  | awaiting promise =>
    simp only [phase] at took standing
    cases standing with
    | awaiting going =>
      have count := consumption.awaiting _ phase
      rw [consumption.value_eq] at took
      cases rest with
      | cons part others =>
        simp only [List.map_cons, List.cons_append, List.head?_cons, bind_some,
          QueueElement.outcome] at took
        exact .inl ⟨part, others, rfl, follows_receive found consumption going count took⟩
      | nil =>
        cases closes with
        | nil => simp at took
        | cons error closes =>
          simp only [List.map_nil, List.nil_append, List.map_cons, List.head?_cons,
            bind_some, outcome_done] at took
          cases took
          exact .inr ⟨rfl, follows_closed found consumption going, _, _, update_self _ _ _, rfl⟩
  | idle | ended | threw | abandoned => simp [phase] at took

structure Unchanged (requestId : RequestId) (stream after : BidirectionalStream Content) :
    Prop where
  isOpen : after.isOpen = stream.isOpen
  collector : after.responsePartCollector requestId = stream.responsePartCollector requestId
  iterators : after.iterators requestId = stream.iterators requestId
  dispatched : after.dispatched.count (.streamReq requestId) =
    stream.dispatched.count (.streamReq requestId)

theorem unchanged_res (res : TransactionRes Content) :
    Unchanged requestId stream (stream.onData (.res res)) := by
  have collected : Unchanged requestId stream (stream.collectRes res) := by
    unfold collectRes
    split <;> exact ⟨rfl, rfl, rfl, rfl⟩
  cases isOpen : stream.isOpen with
  | false => simpa [onData, isOpen] using ⟨rfl, rfl, rfl, rfl⟩
  | true => simpa [onData, isOpen] using collected

structure Elsewhere (requestId : RequestId) (stream after : BidirectionalStream Content) :
    Prop where
  isOpen : after.isOpen = stream.isOpen
  collector : after.responseCollector = stream.responseCollector
  singles : after.singles = stream.singles
  others : ∀ other, other ≠ requestId → Unchanged other stream after

section Elsewhere

variable {iterator : ResponsePartIterator Content}

theorem elsewhere_self : Elsewhere requestId stream stream :=
  ⟨rfl, rfl, rfl, fun _ _ => ⟨rfl, rfl, rfl, rfl⟩⟩

theorem elsewhere_setIterator :
    Elsewhere requestId stream (stream.setIterator requestId iterator) :=
  ⟨rfl, rfl, rfl, fun _ differs => ⟨rfl, rfl, update_of_ne differs _ _, rfl⟩⟩

theorem elsewhere_next (took : stream.next requestId iterator = some after) :
    Elsewhere requestId stream after := by
  obtain ⟨queue, -, took⟩ := Option.bind_eq_some_iff.mp took
  obtain ⟨promise, -, took⟩ := Option.bind_eq_some_iff.mp took
  cases took
  exact ⟨rfl, rfl, rfl, fun _ differs =>
    ⟨rfl, update_of_ne differs _ _, update_of_ne differs _ _, rfl⟩⟩

inductive Generates (requestId : RequestId) (stream : BidirectionalStream Content) :
    BidirectionalStream Content → Prop where
  | sets (received : ResponsePartIterator Content) (going : received.phase ≠ .abandoned) :
      Generates requestId stream (stream.setIterator requestId received)
  | asks {after : BidirectionalStream Content} (dispatched : List Dispatched)
      (iterator : ResponsePartIterator Content)
      (silent : ∀ other, other ≠ requestId →
        dispatched.count (.streamReq other) = stream.dispatched.count (.streamReq other))
      (took : next { stream with dispatched } requestId iterator = some after) :
      Generates requestId stream after

theorem receive_generates {part : TransactionResPart Content}
    (took : stream.receive requestId iterator part = some after) :
    Generates requestId stream after := by
  unfold receive at took
  split at took
  case h_1 | h_2 | h_4 =>
    cases took
    exact .sets _ (by simp)
  case h_3 =>
    refine .asks _ iterator ?_ took
    intro other differs
    simp [Ne.symm differs]

theorem resume_generates (took : stream.resume requestId = some after) :
    Generates requestId stream after ∧ stream.iterators requestId ≠ none := by
  obtain ⟨iterator, known, took⟩ := Option.bind_eq_some_iff.mp took
  obtain ⟨queue, -, took⟩ := Option.bind_eq_some_iff.mp took
  refine ⟨?_, by simp [known]⟩
  split at took
  case h_2 => cases took
  case h_1 promise phase =>
    obtain ⟨elem, -, took⟩ := Option.bind_eq_some_iff.mp took
    split at took
    case h_1 => exact receive_generates took
    case h_2 =>
      cases took
      exact .sets _ (by simp)

theorem elsewhere_pull (took : stream.pull requestId = some after) :
    Elsewhere requestId stream after ∧ stream.iterators requestId ≠ none := by
  obtain ⟨iterator, known, took⟩ := Option.bind_eq_some_iff.mp took
  refine ⟨?_, by simp [known]⟩
  split at took
  case h_1 => exact elsewhere_next took
  case h_2 => cases took
  case h_3 =>
    cases took
    exact elsewhere_self

theorem Generates.elsewhere (generates : Generates requestId stream after) :
    Elsewhere requestId stream after := by
  cases generates with
  | sets received going => exact elsewhere_setIterator
  | asks dispatched iterator silent took =>
    have moved := elsewhere_next took
    refine ⟨moved.isOpen, moved.collector, moved.singles, ?_⟩
    intro other differs
    have unchanged := moved.others other differs
    exact { unchanged with dispatched := unchanged.dispatched.trans (silent other differs) }

theorem elsewhere_resume (took : stream.resume requestId = some after) :
    Elsewhere requestId stream after ∧ stream.iterators requestId ≠ none :=
  ⟨(resume_generates took).1.elsewhere, (resume_generates took).2⟩

theorem elsewhere_abandon (took : stream.abandon requestId = some after) :
    Elsewhere requestId stream after ∧ stream.iterators requestId ≠ none := by
  obtain ⟨iterator, known, took⟩ := Option.bind_eq_some_iff.mp took
  refine ⟨?_, by simp [known]⟩
  split at took
  case h_1 =>
    cases took
    exact elsewhere_setIterator
  case h_2 => cases took

end Elsewhere

structure Tracks (requestId : RequestId) (stream : BidirectionalStream Content)
    (seen : Arrivals Content) : Prop where
  closed : seen.closed = !stream.isOpen
  absent : seen.requested = false → stream.responsePartCollector requestId = none ∧
    stream.iterators requestId = none ∧
    stream.dispatched.count (.streamReq requestId) = 0 ∧ seen.parts = []
  present : seen.requested = true →
    ∃ consumed rest, seen.parts = consumed ++ rest ∧ Follows requestId stream consumed rest

variable {seen : Arrivals Content}

theorem tracks_initial (requestId : RequestId) :
    Tracks requestId ({} : BidirectionalStream Content) {} where
  closed := rfl
  absent _ := ⟨rfl, rfl, rfl, rfl⟩
  present requested := by cases requested

theorem Tracks.unchanged (tracks : Tracks requestId stream seen)
    (same : Unchanged requestId stream after) : Tracks requestId after seen where
  closed := tracks.closed.trans (congrArg Bool.not same.isOpen.symm)
  absent absent := by
    rw [same.collector, same.iterators, same.dispatched]
    exact tracks.absent absent
  present requested := by
    unfold Follows
    rw [same.collector, same.iterators, same.dispatched, same.isOpen]
    exact tracks.present requested

theorem Tracks.close (tracks : Tracks requestId stream seen) (error : Option CloseError) :
    Tracks requestId (stream.close error) { seen with closed := true } where
  closed := rfl
  absent absent := by
    obtain ⟨collector, rest⟩ := tracks.absent absent
    refine ⟨?_, rest⟩
    simp [BidirectionalStream.close, ResponseCollector.close, collector]
  present requested := by
    obtain ⟨consumed, rest, split, queue, iterator, closes, taken, found, known, consumption⟩ :=
      tracks.present requested
    refine ⟨consumed, rest, split, queue.close error, iterator, closes ++ [error], taken, ?_, known,
      consumption.close error⟩
    simp [BidirectionalStream.close, ResponseCollector.close, found]

variable {other : RequestId}

section

variable (tracks : Tracks requestId stream seen)

include tracks

theorem Tracks.rpcStream (took : stream.step (.rpcStream other) = some after) :
    Tracks requestId after (seen.observe requestId (.rpcStream other)) := by
  cases isOpen : stream.isOpen with
  | false =>
    have closed : seen.closed = true := by rw [tracks.closed, isOpen]; rfl
    simp only [step, isOpen, Bool.not_false, if_true] at took
    cases took
    have unobserved : seen.observe requestId (.rpcStream other) = seen := by
      simp only [Arrivals.observe, closed, Bool.not_true, Bool.false_and, Bool.or_false]
      rw [← closed]
    rw [unobserved]
    exact tracks
  | true =>
    have going : seen.closed = false := by rw [tracks.closed, isOpen]; rfl
    simp only [step, isOpen, Bool.not_true, Bool.false_eq_true, if_false,
      Option.ite_none_right_eq_some, Option.some.injEq] at took
    obtain ⟨unused, rfl⟩ := took
    by_cases same : requestId = other
    · subst same
      cases requested : seen.requested with
      | true =>
        obtain ⟨_, _, _, queue, _, _, _, found, _⟩ := tracks.present requested
        simp [BidirectionalStream.unused, found] at unused
      | false =>
        obtain ⟨-, -, silent, nothing⟩ := tracks.absent requested
        refine ⟨?_, ?_, ?_⟩
        · simp [Arrivals.observe, BidirectionalStream.stream, tracks.closed]
        · intro absent
          simp [Arrivals.observe, going] at absent
        · intro _
          refine ⟨[], [], nothing, {}, {}, [], 0, update_self _ _ _, update_self _ _ _, ?_⟩
          have requests : (stream.stream requestId).dispatched.count (.streamReq requestId) =
              0 := by
            simp [BidirectionalStream.stream, silent]
          rw [requests]
          have still : (stream.stream requestId).isOpen = true := isOpen
          rw [still]
          exact consumption_initial
    · have unobserved : seen.observe requestId (.rpcStream other) = seen := by
        simp [Arrivals.observe, Ne.symm same]
      rw [unobserved]
      refine tracks.unchanged ?_
      exact {
        isOpen := rfl
        collector := update_of_ne same _ _
        iterators := update_of_ne same _ _
        dispatched := by simp [BidirectionalStream.stream] }

theorem Tracks.rpcExecute (took : stream.step (.rpcExecute other) = some after) :
    Tracks requestId after seen := by
  simp only [step] at took
  split at took
  case isTrue =>
    cases took
    exact tracks
  case isFalse =>
    split at took
    case isTrue =>
      unfold single at took
      obtain ⟨promise, -, took⟩ := Option.bind_eq_some_iff.mp took
      cases took
      refine tracks.unchanged ⟨rfl, rfl, rfl, ?_⟩
      simp
    case isFalse => cases took

theorem Tracks.arrived (isOpen : stream.isOpen = true) (requested : seen.requested = true)
    {part : TransactionResPart Content} (same : part.reqId = requestId) :
    Tracks requestId (stream.collectResPart part) { seen with parts := seen.parts ++ [part] } := by
  obtain ⟨consumed, rest, split, queue, iterator, closes, taken, found, known, consumption⟩ :=
    tracks.present requested
  have collected : stream.collectResPart part = { stream with
      responsePartCollector :=
        stream.responsePartCollector.set requestId (queue.put part) } := by
    simp only [collectResPart, same, found]
  rw [collected]
  refine ⟨tracks.closed, ?_, ?_⟩
  · intro absent
    rw [requested] at absent
    cases absent
  · intro _
    rw [isOpen] at consumption
    have arrived := consumption.arrived part
    rw [← isOpen] at arrived
    refine ⟨consumed, rest ++ [part], ?_, queue.put part, iterator, closes, taken,
      update_self _ _ _, known, arrived⟩
    rw [split, List.append_assoc]

theorem Tracks.resPart (part : TransactionResPart Content) :
    Tracks requestId (stream.onData (.resPart part))
      (seen.observe requestId (.dataEvent (.resPart part))) := by
  cases isOpen : stream.isOpen with
  | false =>
    have closed : seen.closed = true := by rw [tracks.closed, isOpen]; rfl
    simpa [onData, isOpen, Arrivals.observe, closed] using tracks
  | true =>
    have going : seen.closed = false := by rw [tracks.closed, isOpen]; rfl
    have opened : stream.onData (.resPart part) = stream.collectResPart part := by
      simp only [onData, isOpen, Bool.not_true, Bool.false_eq_true, if_false]
    rw [opened]
    by_cases same : part.reqId = requestId
    · cases requested : seen.requested with
      | false =>
        have unknown := (tracks.absent requested).1
        have ignored : stream.collectResPart part = stream := by
          simp only [collectResPart, same, unknown]
        rw [ignored]
        simpa [Arrivals.observe, requested] using tracks
      | true =>
        have observed : seen.observe requestId (.dataEvent (.resPart part)) =
            { seen with parts := seen.parts ++ [part] } := by
          simp [Arrivals.observe, requested, going, same]
        rw [observed]
        exact tracks.arrived isOpen requested same
    · have unobserved : seen.observe requestId (.dataEvent (.resPart part)) = seen := by
        simp [Arrivals.observe, same]
      rw [unobserved]
      unfold collectResPart
      split
      · exact tracks
      · exact tracks.unchanged
          ⟨rfl, update_of_ne (Ne.symm same) _ _, rfl, rfl⟩

theorem Tracks.moved (follows : ∀ {consumed rest : List (TransactionResPart Content)},
      Follows other stream consumed rest →
      ∃ consumed' rest', consumed ++ rest = consumed' ++ rest' ∧
        Follows other after consumed' rest')
    (elsewhere : Elsewhere other stream after ∧ stream.iterators other ≠ none) :
    Tracks requestId after seen := by
  by_cases same : requestId = other
  · subst same
    exact {
      closed := tracks.closed.trans (congrArg Bool.not elsewhere.1.isOpen.symm)
      absent := fun absent => absurd (tracks.absent absent).2.1 elsewhere.2
      present := fun requested => by
        obtain ⟨consumed, rest, split, before⟩ := tracks.present requested
        rw [split]
        exact follows before }
  · exact tracks.unchanged (elsewhere.1.others requestId same)

end

variable {label : Label Content}

theorem Tracks.step (tracks : Tracks requestId stream seen)
    (took : (system Content).step stream label = some after) :
    Tracks requestId after (seen.observe requestId label) := by
  cases label with
  | rpcExecute other => exact tracks.rpcExecute took
  | rpcStream other => exact tracks.rpcStream took
  | pull other =>
    exact tracks.moved (fun follows => ⟨_, _, rfl, follows.pull took⟩)
      (elsewhere_pull took)
  | abandon other =>
    exact tracks.moved (fun follows => ⟨_, _, rfl, follows.abandon took⟩)
      (elsewhere_abandon took)
  | resume other =>
    refine tracks.moved ?_ (elsewhere_resume took)
    intro consumed rest follows
    rcases follows.resume took with ⟨part, others, rfl, next⟩ | ⟨rfl, next, -⟩
    · exact ⟨_, others, by simp, next⟩
    · exact ⟨consumed, [], rfl, next⟩
  | close error =>
    cases took
    exact tracks.close error
  | errorEvent error =>
    cases took
    exact tracks.close (some error)
  | endEvent =>
    cases took
    exact tracks
  | dataEvent message =>
    cases took
    cases message with
    | resPart part => exact tracks.resPart part
    | empty =>
      have ignored : stream.onData .empty = stream := by simp [onData]
      rw [ignored]
      exact tracks
    | res res =>
      exact tracks.unchanged (unchanged_res res)

variable {labels : List (Label Content)}

theorem tracks_of_run (ran : (system Content).run {} labels = some stream) (requestId : RequestId) :
    Tracks requestId stream (labels.foldl (Arrivals.observe requestId) {}) :=
  TransitionSystem.run_simulation (fun tracks took => tracks.step took)
    (tracks_initial requestId) ran

def isWaiting (stream : BidirectionalStream Content) (requestId : RequestId) : Bool :=
  match stream.iterators requestId, stream.responsePartCollector requestId with
  | some ⟨.awaiting promise, _⟩, some queue => (queue.value promise).isNone
  | _, _ => false

variable {promise : Nat}

theorem isWaiting_iff {requests : Nat} {consumed rest : List (TransactionResPart Content)}
    (found : stream.responsePartCollector requestId = some queue)
    (known : stream.iterators requestId = some iterator) (consumption :
      Consumption stream.isOpen queue iterator requests consumed rest closes taken)
    (phase : iterator.phase = .awaiting promise) :
    stream.isWaiting requestId = true ↔ rest = [] ∧ stream.isOpen = true := by
  have standing := consumption.standing
  rw [phase] at standing
  obtain ⟨_, yielded⟩ := iterator
  cases phase
  cases standing with
  | awaiting going =>
    simp only [isWaiting, known, found, consumption.value_eq, consumption.marked,
      Option.isNone_iff_eq_none, List.head?_eq_none_iff, List.append_eq_nil_iff,
      List.map_eq_nil_iff]

def IsConsuming (requestId : RequestId) (stream : BidirectionalStream Content) : Prop :=
  ∃ iterator, stream.iterators requestId = some iterator ∧ iterator.phase ≠ .abandoned

def IsOver (requestId : RequestId) (stream : BidirectionalStream Content) : Prop :=
  ∃ iterator, stream.iterators requestId = some iterator ∧ iterator.phase.isOver = true

/-- The consumer alone can bring the iterator to its end. -/
def Finishes (requestId : RequestId) (stream : BidirectionalStream Content) : Prop :=
  ∃ steps final, (∀ step ∈ steps, step = .pull requestId ∨ step = .resume requestId) ∧
    (system Content).run stream steps = some final ∧ IsOver requestId final

theorem finishes_of_isOver (isOver : IsOver requestId stream) : Finishes requestId stream :=
  ⟨[], stream, by simp, rfl, isOver⟩

theorem finishes_of_step (own : label = .pull requestId ∨ label = .resume requestId)
    (took : stream.step label = some after) (finishes : Finishes requestId after) :
    Finishes requestId stream := by
  obtain ⟨steps, final, consumer, ran, isOver⟩ := finishes
  refine ⟨label :: steps, final, ?_, TransitionSystem.run_cons.mpr ⟨after, took, ran⟩, isOver⟩
  intro step member
  rcases List.mem_cons.mp member with rfl | member
  · exact own
  · exact consumer step member

theorem isConsuming_of_next (took : stream.next requestId iterator = some after) :
    IsConsuming requestId after := by
  obtain ⟨queue, -, took⟩ := Option.bind_eq_some_iff.mp took
  obtain ⟨promise, -, took⟩ := Option.bind_eq_some_iff.mp took
  cases took
  exact ⟨_, update_self _ _ _, by simp⟩

theorem Generates.isConsuming (generates : Generates requestId stream after) :
    IsConsuming requestId after := by
  cases generates with
  | sets received going => exact ⟨received, update_self _ _ _, going⟩
  | asks dispatched iterator silent took => exact isConsuming_of_next took

section

variable (follows : Follows requestId stream consumed rest) (closed : stream.isOpen = false)

include follows closed

theorem Follows.resume_isSome (known : stream.iterators requestId = some iterator)
    (phase : iterator.phase = .awaiting promise) :
    ∃ after, stream.resume requestId = some after := by
  obtain ⟨queue, found, closes, taken, present, same, consumption⟩ := follows
  cases known.symm.trans same
  have standing := consumption.standing
  rw [phase] at standing
  cases standing with
  | awaiting going =>
    have marked : closes ≠ [] := by
      intro unmarked
      rw [consumption.marked.mpr unmarked] at closed
      cases closed
    simp only [BidirectionalStream.resume, known, present, phase, bind_eq_bind,
      bind_some, consumption.value_eq]
    cases rest with
    | cons part others =>
      simp only [List.map_cons, List.cons_append, List.head?_cons, bind_some,
        QueueElement.outcome, receive]
      cases part.streamResPart with
      | none => exact ⟨_, rfl⟩
      | some state =>
        cases state with
        | done | unrecognized => exact ⟨_, rfl⟩
        | «continue» =>
          have known : BidirectionalStream.responsePartCollector { stream with
              dispatched := stream.dispatched ++ [.streamReq requestId] } requestId =
              some queue := present
          exact ⟨_, next_eq known consumption.represents iterator⟩
    | nil =>
      cases closes with
      | nil => exact absurd rfl marked
      | cons error closes =>
        simp only [List.map_nil, List.nil_append, List.map_cons, List.head?_cons,
          bind_some, outcome_done]
        exact ⟨_, rfl⟩

/-- The generator takes what it awaits; `others` is how it goes on with fewer parts before it. -/
theorem Follows.finishes_awaiting (known : stream.iterators requestId = some iterator)
    (phase : iterator.phase = .awaiting promise)
    (others : ∀ {after part others}, rest = part :: others →
      Follows requestId after (consumed ++ [part]) others → after.isOpen = false →
      IsConsuming requestId after → Finishes requestId after) : Finishes requestId stream := by
  obtain ⟨after, took⟩ := follows.resume_isSome closed known phase
  refine finishes_of_step (.inr rfl) took ?_
  rcases follows.resume took with ⟨part, rest, split, next⟩ |
    ⟨-, -, iterator, error, known, thrown⟩
  · have still : after.isOpen = false := (elsewhere_resume took).1.isOpen.trans closed
    exact others split next still (resume_generates took).1.isConsuming
  · exact finishes_of_isOver ⟨iterator, known, by rw [thrown]; rfl⟩

theorem Follows.finishes_round (consuming : IsConsuming requestId stream)
    (others : ∀ {after part others}, rest = part :: others →
      Follows requestId after (consumed ++ [part]) others → after.isOpen = false →
      IsConsuming requestId after → Finishes requestId after) : Finishes requestId stream := by
  obtain ⟨iterator, known, going⟩ := consuming
  cases phase : iterator.phase with
  | abandoned => exact absurd phase going
  | ended | threw => exact finishes_of_isOver ⟨iterator, known, by rw [phase]; rfl⟩
  | awaiting promise => exact follows.finishes_awaiting closed known phase others
  | idle =>
    obtain ⟨queue, same, closes, taken, found, present, consumption⟩ := id follows
    have asks : stream.pull requestId = stream.next requestId iterator := by
      simp only [BidirectionalStream.pull, known, phase, bind_eq_bind, bind_some]
    have took := asks.trans (next_eq found consumption.represents iterator)
    refine finishes_of_step (.inl rfl) took ?_
    exact (follows.pull took).finishes_awaiting closed (update_self _ _ _) rfl others

/-- A consumer that does not leave its loop reaches the end after a close. -/
theorem Follows.finishes (consuming : IsConsuming requestId stream) :
    Finishes requestId stream := by
  -- Each round of the loop consumes one of the parts before the iterator.
  induction rest generalizing stream consumed with
  | nil =>
    refine follows.finishes_round closed consuming ?_
    intro after part others split
    cases split
  | cons part rest ih =>
    refine follows.finishes_round closed consuming ?_
    intro after part others split next still going
    cases split
    exact ih next still going

end

theorem follows_of_run (ran : (system Content).run {} labels = some stream)
    (created : stream.iterators requestId = some iterator) :
    ∃ consumed rest, arrivals requestId labels = consumed ++ rest ∧
      Follows requestId stream consumed rest := by
  have tracks := tracks_of_run ran requestId
  apply tracks.present
  apply eq_true_of_ne_false
  intro absent
  rw [(tracks.absent absent).2.1] at created
  cases created

/-- In every run each iterator has consumed a beginning of the parts that arrived for its request,
has yielded the answers among them and dispatched a request for each signal to continue, and is
where `Standing` says. It waits only when nothing is left on an open stream, and after a close
its consumer reaches the end. -/
theorem iterators_faithful {labels : List (Label Content)}
    (ran : (system Content).run {} labels = some stream) {iterator : ResponsePartIterator Content}
    (created : stream.iterators requestId = some iterator) :
    ∃ consumed rest, arrivals requestId labels = consumed ++ rest ∧
      iterator.yielded = consumed.filter (·.isAnswer) ∧
      stream.dispatched.count (.streamReq requestId) = consumed.countP (·.isContinue) ∧
      Standing stream.isOpen consumed rest iterator.phase ∧
      (∀ promise, iterator.phase = .awaiting promise →
        (stream.isWaiting requestId = true ↔ rest = [] ∧ stream.isOpen = true)) ∧
      (stream.isOpen = false → iterator.phase ≠ .abandoned → Finishes requestId stream) := by
  obtain ⟨consumed, rest, split, follows⟩ := follows_of_run ran created
  obtain ⟨queue, same, closes, taken, found, known, consumption⟩ := id follows
  cases known.symm.trans created
  refine ⟨consumed, rest, split, consumption.yielded, consumption.requests, consumption.standing,
    ?_, ?_⟩
  · intro promise phase
    exact isWaiting_iff found known consumption phase
  · intro closed going
    exact follows.finishes closed ⟨iterator, known, going⟩

/-- Two streams whose parts arrive in turn. The first iterator consumes an answer and a signal to
continue, and awaits the next part when the server fails. -/
def twoStreams : List (Label String) :=
  [.rpcStream 0, .rpcStream 1, .dataEvent (.resPart ⟨1, none, "other"⟩), .pull 0,
    .dataEvent (.resPart ⟨0, none, "answer"⟩), .resume 0, .pull 0,
    .dataEvent (.resPart ⟨0, some .continue, ""⟩), .resume 0, .errorEvent "UNAVAILABLE"]

theorem iterators_faithful_two_streams :
    ∃ stream, (system String).run {} twoStreams = some stream ∧
      stream.iterators 0 = some ⟨.awaiting 2, [⟨0, none, "answer"⟩]⟩ ∧
      arrivals 0 twoStreams = [⟨0, none, "answer"⟩, ⟨0, some .continue, ""⟩] ∧
      (∃ consumed rest, arrivals 0 twoStreams = consumed ++ rest ∧
        [⟨0, none, "answer"⟩] = consumed.filter (·.isAnswer) ∧
        stream.dispatched.count (.streamReq 0) = consumed.countP (·.isContinue) ∧
        Standing stream.isOpen consumed rest (.awaiting 2)) ∧
      Finishes 0 stream := by
  obtain ⟨stream, ran, created, closed⟩ : ∃ stream, (system String).run {} twoStreams =
      some stream ∧ stream.iterators 0 = some ⟨.awaiting 2, [⟨0, none, "answer"⟩]⟩ ∧
      stream.isOpen = false := ⟨_, rfl, rfl, rfl⟩
  obtain ⟨consumed, rest, split, yielded, dispatched, standing, -, finishes⟩ :=
    iterators_faithful ran created
  refine ⟨stream, ran, created, rfl, ⟨consumed, rest, split, yielded, dispatched, standing⟩, ?_⟩
  apply finishes closed
  intro abandoned
  cases abandoned

end TypeDBDriver.Nodejs.BidirectionalStream
