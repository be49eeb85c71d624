import TypeDBDriver.Nodejs.RequestTransmitter
import TypeDBDriver.Nodejs.StreamProperties

/-! No request of a Node.js transaction is lost, sent twice or stuck in the buffer, and what is
written after the stream of gRPC was ended. -/

namespace TypeDBDriver.Nodejs

open Library

section Calls

variable {Request : Type}

theorem batches_append (calls others : List (StreamCall Request)) :
    batches (calls ++ others) = batches calls ++ batches others :=
  List.filterMap_append

theorem batches_concat_write (calls : List (StreamCall Request)) (clientReq : List Request) :
    batches (calls ++ [.write clientReq]) = batches calls ++ [clientReq] :=
  batches_append calls _

theorem batches_concat_end (calls : List (StreamCall Request)) :
    batches (calls ++ [.end]) = batches calls := by
  rw [batches_append]
  exact List.append_nil _

theorem writtenAfterEnd_concat_write (calls : List (StreamCall Request))
    (clientReq : List Request) :
    writtenAfterEnd (calls ++ [.write clientReq]) =
      if calls.any StreamCall.isEnd then writtenAfterEnd calls ++ [clientReq]
      else writtenAfterEnd calls := by
  induction calls with
  | nil => rfl
  | cons call rest ih =>
    cases call with
    | write other => exact ih
    | «end» => exact batches_append (.end :: rest) _

theorem writtenAfterEnd_concat_end (calls : List (StreamCall Request)) :
    writtenAfterEnd (calls ++ [.end]) = writtenAfterEnd calls := by
  induction calls with
  | nil => rfl
  | cons call rest ih =>
    cases call with
    | write other => exact ih
    | «end» => exact batches_concat_end (.end :: rest)

end Calls

namespace BatchDispatcher

variable {Request : Type} {dispatcher next : BatchDispatcher Request} {timer : Nat}

theorem fire_cases (fired : dispatcher.fire timer = some next) :
    timer < dispatcher.timers.length ∧
      ((dispatcher.bufferedRequests ≠ [] ∧
          next = { dispatcher.sendNow with
            timers := dispatcher.timers.eraseIdx timer ++ [batchWindowLargeMillis] }) ∨
        (dispatcher.bufferedRequests = [] ∧
          next = { dispatcher with
            timers := dispatcher.timers.eraseIdx timer
            isRunning := false })) := by
  unfold fire at fired
  split at fired
  · next pending =>
      cases fired
      refine ⟨pending, ?_⟩
      unfold onTimeout
      split
      · next waiting => exact .inl ⟨List.length_pos_iff.mp waiting, rfl⟩
      · next idle => exact .inr ⟨List.length_eq_zero_iff.mp (by simpa using idle), rfl⟩
  · cases fired

theorem dispatch_cases (dispatcher : BatchDispatcher Request) (req : Request) :
    (dispatcher.isRunning = true ∧ dispatcher.dispatch req = dispatcher.push req) ∨
      (dispatcher.isRunning = false ∧
        dispatcher.dispatch req = { dispatcher.push req with
          isRunning := true
          timers := dispatcher.timers ++ [batchWindowSmallMillis] }) := by
  unfold dispatch sendScheduledBatch
  cases running : dispatcher.isRunning with
  | true => exact .inl ⟨rfl, if_pos running⟩
  | false => exact .inr ⟨rfl, if_neg (by rw [push, running]; exact Bool.false_ne_true)⟩

@[simp] theorem dispatch_calls (dispatcher : BatchDispatcher Request) (req : Request) :
    (dispatcher.dispatch req).calls = dispatcher.calls := by
  rcases dispatcher.dispatch_cases req with ⟨-, same⟩ | ⟨-, same⟩ <;> rw [same] <;> rfl

@[simp] theorem dispatch_bufferedRequests (dispatcher : BatchDispatcher Request) (req : Request) :
    (dispatcher.dispatch req).bufferedRequests = dispatcher.bufferedRequests ++ [req] := by
  rcases dispatcher.dispatch_cases req with ⟨-, same⟩ | ⟨-, same⟩ <;> rw [same] <;> rfl

def requests (dispatcher : BatchDispatcher Request) : List Request :=
  (batches dispatcher.calls).flatten ++ dispatcher.bufferedRequests

theorem requests_sendNow (dispatcher : BatchDispatcher Request) :
    dispatcher.sendNow.requests = dispatcher.requests := by
  simp [requests, sendNow, batches_concat_write]

variable {event : Event Request}

theorem requests_step (took : dispatcher.step event = some next) :
    next.requests = dispatcher.requests ++ event.dispatched.toList := by
  cases event with
  | dispatch req =>
    cases took
    simp [requests, Event.dispatched]
  | dispatchNow req =>
    cases took
    rw [dispatchNow, requests_sendNow]
    simp [requests, push, Event.dispatched]
  | close =>
    cases took
    simp [requests, close, batches_concat_end, Event.dispatched]
  | fire timer =>
    obtain ⟨-, ⟨-, rfl⟩ | ⟨-, rfl⟩⟩ := fire_cases took
    · exact dispatcher.requests_sendNow.trans (List.append_nil _).symm
    · exact (List.append_nil _).symm

variable {events : List (Event Request)}

theorem requests_run {start : BatchDispatcher Request}
    (ran : (system Request).run start events = some dispatcher) :
    dispatcher.requests = start.requests ++ dispatched events := by
  induction events generalizing start with
  | nil =>
    cases ran
    exact (List.append_nil _).symm
  | cons event rest ih =>
    obtain ⟨next, took, ran⟩ := TransitionSystem.run_cons.mp ran
    have first : dispatched (event :: rest) = event.dispatched.toList ++ dispatched rest := by
      unfold dispatched
      cases found : event.dispatched with
      | none => rw [List.filterMap_cons_none found]; rfl
      | some req => rw [List.filterMap_cons_some found]; rfl
    rw [ih ran, requests_step took, first, List.append_assoc]

/-- The timers fit `_isRunning`, and nothing is buffered while it is false. -/
structure Scheduled (dispatcher : BatchDispatcher Request) : Prop where
  timers : dispatcher.timers.length = if dispatcher.isRunning then 1 else 0
  idle : dispatcher.isRunning = false → dispatcher.bufferedRequests = []

theorem Scheduled.initial : Scheduled ({} : BatchDispatcher Request) := ⟨rfl, fun _ => rfl⟩

theorem Scheduled.isRunning_of_pending (scheduled : Scheduled dispatcher)
    (pending : timer < dispatcher.timers.length) :
    dispatcher.isRunning = true ∧ dispatcher.timers.length = 1 := by
  have count := scheduled.timers
  cases running : dispatcher.isRunning with
  | true => exact ⟨rfl, by simpa [running] using count⟩
  | false =>
    rw [running] at count
    simp [count] at pending

theorem Scheduled.step (scheduled : Scheduled dispatcher)
    (took : dispatcher.step event = some next) : Scheduled next := by
  cases event with
  | dispatch req =>
    cases took
    rcases dispatcher.dispatch_cases req with ⟨running, same⟩ | ⟨stopped, same⟩
    · rw [same]
      exact ⟨scheduled.timers, fun stopped => absurd (running.symm.trans stopped) (by decide)⟩
    · have none := scheduled.timers
      rw [stopped] at none
      rw [same]
      refine ⟨?_, fun stopped => by cases stopped⟩
      simpa using none
  | dispatchNow req =>
    cases took
    exact ⟨scheduled.timers, fun _ => rfl⟩
  | close =>
    cases took
    exact ⟨scheduled.timers, scheduled.idle⟩
  | fire timer =>
    obtain ⟨pending, fired⟩ := fire_cases took
    obtain ⟨running, single⟩ := scheduled.isRunning_of_pending pending
    have none : (dispatcher.timers.eraseIdx timer).length = 0 := by
      rw [List.length_eraseIdx_of_lt pending, single]
    rcases fired with ⟨-, rfl⟩ | ⟨empty, rfl⟩
    · refine ⟨?_, fun _ => rfl⟩
      simp [sendNow, running, none]
    · exact ⟨none, fun _ => empty⟩

theorem Scheduled.run (ran : (system Request).run {} events = some dispatcher) :
    Scheduled dispatcher :=
  TransitionSystem.run_preserves (fun scheduled took => scheduled.step took) .initial ran

/-- What a timer finds in the buffer it writes as one message. -/
theorem Scheduled.fire_of_buffered (scheduled : Scheduled dispatcher)
    (waiting : dispatcher.bufferedRequests ≠ []) :
    0 < dispatcher.timers.length ∧
      ∃ next, dispatcher.fire 0 = some next ∧ next.bufferedRequests = [] ∧
        batches next.calls = batches dispatcher.calls ++ [dispatcher.bufferedRequests] := by
  have running : dispatcher.isRunning = true := by
    cases stopped : dispatcher.isRunning with
    | true => rfl
    | false => exact absurd (scheduled.idle stopped) waiting
  have pending : 0 < dispatcher.timers.length := by
    rw [scheduled.timers, running]
    exact Nat.one_pos
  refine ⟨pending, _, if_pos pending, ?_⟩
  unfold onTimeout
  rw [if_pos (List.length_pos_iff.mpr waiting)]
  exact ⟨rfl, batches_concat_write _ _⟩

/-- Requests are written in the order in which they were dispatched, and while some are buffered a
timer is pending that will write them. -/
theorem batched_in_order {events : List (Event Request)}
    (ran : (system Request).run {} events = some dispatcher) :
    (batches dispatcher.calls).flatten ++ dispatcher.bufferedRequests = dispatched events ∧
      dispatcher.timers.length = (if dispatcher.isRunning then 1 else 0) ∧
      (dispatcher.bufferedRequests ≠ [] → 0 < dispatcher.timers.length ∧
        ∃ next, dispatcher.fire 0 = some next ∧ next.bufferedRequests = [] ∧
          batches next.calls = batches dispatcher.calls ++ [dispatcher.bufferedRequests]) := by
  have scheduled := Scheduled.run ran
  exact ⟨requests_run ran, scheduled.timers, scheduled.fire_of_buffered⟩

/-- A timer writes two requests, a third one is sent at once, and a fourth one waits. -/
theorem batched_in_order_four :
    ∃ dispatcher, (system Nat).run {}
        [.dispatch 0, .dispatch 1, .fire 0, .dispatchNow 2, .dispatch 3] = some dispatcher ∧
      batches dispatcher.calls = [[0, 1], [2]] ∧ dispatcher.bufferedRequests = [3] ∧
      (batches dispatcher.calls).flatten ++ dispatcher.bufferedRequests = [0, 1, 2, 3] ∧
      dispatcher.timers.length = (if dispatcher.isRunning then 1 else 0) ∧
      0 < dispatcher.timers.length := by
  obtain ⟨dispatcher, ran, written, waiting⟩ : ∃ dispatcher, (system Nat).run {}
      [.dispatch 0, .dispatch 1, .fire 0, .dispatchNow 2, .dispatch 3] = some dispatcher ∧
      batches dispatcher.calls = [[0, 1], [2]] ∧ dispatcher.bufferedRequests = [3] :=
    ⟨_, rfl, rfl, rfl⟩
  obtain ⟨inOrder, timers, pending⟩ := batched_in_order ran
  have buffered : dispatcher.bufferedRequests ≠ [] := by
    rw [waiting]
    exact List.cons_ne_nil _ _
  exact ⟨dispatcher, ran, written, waiting, inOrder, timers, (pending buffered).1⟩

end BatchDispatcher

namespace DispatchedStream

variable {Content : Type} {state next : DispatchedStream Content} {label : Label Content}

variable {stream after : BidirectionalStream Content}

theorem rpcExecute_cases {requestId : RequestId}
    (took : stream.step (.rpcExecute requestId) = some after) :
    (stream.isOpen = false ∧ after = stream) ∨
      (stream.isOpen = true ∧ after.isOpen = true ∧
        after.dispatched = stream.dispatched ++ [.request requestId]) := by
  simp only [BidirectionalStream.step] at took
  cases isOpen : stream.isOpen with
  | false =>
    rw [isOpen] at took
    cases took
    exact .inl ⟨rfl, rfl⟩
  | true =>
    rw [isOpen] at took
    simp only [Bool.not_true, Bool.false_eq_true, if_false] at took
    split at took
    · unfold BidirectionalStream.single at took
      obtain ⟨promise, -, took⟩ := Option.bind_eq_some_iff.mp took
      cases took
      exact .inr ⟨rfl, isOpen, rfl⟩
    · cases took

theorem isOpen_step {label : BidirectionalStream.Label Content}
    (took : stream.step label = some after) : after.isOpen = (stream.isOpen && !closes label) := by
  have kept : after.isOpen = stream.isOpen → after.isOpen = (stream.isOpen && true) :=
    fun same => same.trans (Bool.and_true _).symm
  cases label with
  | rpcExecute requestId =>
    apply kept
    rcases rpcExecute_cases took with ⟨-, same⟩ | ⟨isOpen, still, -⟩
    · rw [same]
    · rw [isOpen, still]
  | rpcStream requestId =>
    apply kept
    simp only [BidirectionalStream.step] at took
    split at took
    · cases took
      rfl
    · split at took <;> cases took
      rfl
  | pull requestId => exact kept (BidirectionalStream.elsewhere_pull took).1.isOpen
  | resume requestId => exact kept (BidirectionalStream.elsewhere_resume took).1.isOpen
  | abandon requestId => exact kept (BidirectionalStream.elsewhere_abandon took).1.isOpen
  | close error | errorEvent error =>
    cases took
    exact (Bool.and_false _).symm
  | dataEvent message =>
    cases took
    apply kept
    unfold BidirectionalStream.onData
    split
    · rfl
    · split
      · unfold BidirectionalStream.collectRes
        split <;> rfl
      · unfold BidirectionalStream.collectResPart
        split <;> rfl
      · rfl
  | endEvent =>
    cases took
    exact kept rfl

theorem calls_foldl_dispatch (requests : List Dispatched)
    (dispatcher : BatchDispatcher Dispatched) :
    (requests.foldl BatchDispatcher.dispatch dispatcher).calls = dispatcher.calls := by
  induction requests generalizing dispatcher with
  | nil => rfl
  | cons req rest ih => exact (ih _).trans (dispatcher.dispatch_calls req)

theorem ended_concat_write (dispatcher : BatchDispatcher Dispatched) :
    dispatcher.sendNow.ended = dispatcher.ended := by
  simp [BatchDispatcher.ended, BatchDispatcher.sendNow, StreamCall.isEnd]

/-- What a step of the stream does to the calls on the stream of gRPC: a close ends it, and
`rpcExecute` writes only where the stream is open. -/
theorem transmit_cases {label : BidirectionalStream.Label Content} (batch : Bool)
    (dispatcher : BatchDispatcher Dispatched) (took : stream.step label = some after) :
    (closes label = true ∧
        (transmit stream after label batch dispatcher).calls = dispatcher.calls ++ [.end]) ∨
      (closes label = false ∧
        (transmit stream after label batch dispatcher).calls = dispatcher.calls) ∨
      (closes label = false ∧ stream.isOpen = true ∧ ∃ clientReq,
        (transmit stream after label batch dispatcher).calls =
          dispatcher.calls ++ [.write clientReq]) := by
  have buffers : ∀ requests : List Dispatched,
      (requests.foldl BatchDispatcher.dispatch dispatcher).calls = dispatcher.calls :=
    fun requests => calls_foldl_dispatch requests dispatcher
  cases label with
  | close error | errorEvent error =>
    exact .inl ⟨rfl, congrArg (· ++ _) (buffers _)⟩
  | rpcStream requestId | pull requestId | resume requestId | abandon requestId
  | dataEvent message | endEvent => exact .inr (.inl ⟨rfl, buffers _⟩)
  | rpcExecute requestId =>
    cases batch with
    | true => exact .inr (.inl ⟨rfl, buffers _⟩)
    | false =>
      rcases rpcExecute_cases took with ⟨-, rfl⟩ | ⟨isOpen, -, dispatched⟩
      · refine .inr (.inl ⟨rfl, ?_⟩)
        rw [transmit, List.drop_length]
        rfl
      · refine .inr (.inr ⟨rfl, isOpen, dispatcher.bufferedRequests ++ [.request requestId], ?_⟩)
        rw [transmit, dispatched, List.drop_left]
        rfl

/-- The stream of gRPC is ended when the stream of the driver is closed. -/
def Coupled (state : DispatchedStream Content) : Prop :=
  state.dispatcher.ended = !state.stream.isOpen

theorem Coupled.step (coupled : Coupled state) (took : state.step label = some next) :
    Coupled next := by
  cases label with
  | stream label batch =>
    obtain ⟨after, moved, made⟩ := Option.bind_eq_some_iff.mp took
    cases made
    have isOpen := isOpen_step moved
    unfold Coupled at coupled ⊢
    simp only [BatchDispatcher.ended] at coupled ⊢
    rcases transmit_cases batch state.dispatcher moved with
      ⟨closing, calls⟩ | ⟨going, calls⟩ | ⟨going, -, clientReq, calls⟩
    · simp [calls, isOpen, closing, StreamCall.isEnd]
    · simp [calls, isOpen, going, coupled]
    · simp [calls, isOpen, going, coupled, StreamCall.isEnd]
  | dispatch req =>
    cases took
    unfold Coupled BatchDispatcher.ended
    rw [BatchDispatcher.dispatch_calls]
    exact coupled
  | dispatchNow req =>
    cases took
    exact (ended_concat_write _).trans coupled
  | fire timer =>
    obtain ⟨dispatcher, fired, made⟩ := Option.bind_eq_some_iff.mp took
    cases made
    obtain ⟨-, ⟨-, rfl⟩ | ⟨-, rfl⟩⟩ := BatchDispatcher.fire_cases fired
    · exact (ended_concat_write _).trans coupled
    · exact coupled

theorem written_step (coupled : Coupled state) (took : state.step label = some next) :
    (state.Quiet label ∧
        writtenAfterEnd next.dispatcher.calls = writtenAfterEnd state.dispatcher.calls) ∨
      (¬ state.Quiet label ∧ ∃ clientReq, writtenAfterEnd next.dispatcher.calls =
        writtenAfterEnd state.dispatcher.calls ++ [clientReq]) := by
  cases label with
  | stream label batch =>
    obtain ⟨after, moved, made⟩ := Option.bind_eq_some_iff.mp took
    cases made
    refine .inl ⟨trivial, ?_⟩
    rcases transmit_cases batch state.dispatcher moved with
      ⟨-, calls⟩ | ⟨-, calls⟩ | ⟨-, isOpen, clientReq, calls⟩
    · exact (congrArg _ calls).trans (writtenAfterEnd_concat_end _)
    · exact congrArg _ calls
    · have going : state.dispatcher.ended = false := by
        rw [coupled, isOpen]
        rfl
      refine (congrArg _ calls).trans ?_
      rw [writtenAfterEnd_concat_write]
      exact if_neg (by rw [← BatchDispatcher.ended, going]; exact Bool.false_ne_true)
  | dispatch req =>
    cases took
    exact .inl ⟨trivial, congrArg _ (BatchDispatcher.dispatch_calls _ _)⟩
  | dispatchNow req =>
    cases took
    have calls := writtenAfterEnd_concat_write state.dispatcher.calls
      (state.dispatcher.push req).bufferedRequests
    cases isEnded : state.dispatcher.ended with
    | false =>
      refine .inl ⟨isEnded, calls.trans (if_neg ?_)⟩
      rw [← BatchDispatcher.ended, isEnded]
      exact Bool.false_ne_true
    | true =>
      refine .inr ⟨fun quiet => ?_, _, calls.trans (if_pos isEnded)⟩
      exact absurd (isEnded.symm.trans quiet) (by decide)
  | fire timer =>
    obtain ⟨dispatcher, fired, made⟩ := Option.bind_eq_some_iff.mp took
    cases made
    obtain ⟨-, ⟨waiting, rfl⟩ | ⟨empty, rfl⟩⟩ := BatchDispatcher.fire_cases fired
    · have calls := writtenAfterEnd_concat_write state.dispatcher.calls
        state.dispatcher.bufferedRequests
      cases isEnded : state.dispatcher.ended with
      | false =>
        refine .inl ⟨fun ended => absurd (isEnded.symm.trans ended) (by decide),
          calls.trans (if_neg ?_)⟩
        rw [← BatchDispatcher.ended, isEnded]
        exact Bool.false_ne_true
      | true => exact .inr ⟨fun quiet => waiting (quiet isEnded), _, calls.trans (if_pos isEnded)⟩
    · exact .inl ⟨fun _ => empty, rfl⟩

/-- Nothing is written after the end of the stream exactly if no timer that fires after it finds a
request in the buffer and nobody calls `dispatchNow` any more. -/
theorem silent_after_end_iff {labels : List (Label Content)}
    (ran : (system Content).run {} labels = some state) :
    writtenAfterEnd state.dispatcher.calls = [] ↔ (system Content).Meets Quiet {} labels := by
  have rule := @TransitionSystem.run_meets_iff _ _ (system Content) Quiet {} state labels Coupled
    (fun state => writtenAfterEnd state.dispatcher.calls ≠ [])
    (fun coupled took => coupled.step took)
    (fun coupled written took => by
      rcases written_step coupled took with ⟨-, same⟩ | ⟨-, clientReq, more⟩
      · rwa [same]
      · simp [more])
    (fun coupled silent took => by
      rcases written_step coupled took with ⟨quiet, same⟩ | ⟨loud, clientReq, more⟩
      · rw [same]
        exact iff_of_true quiet silent
      · refine iff_of_false loud ?_
        simp [more])
    rfl (fun written => written rfl) ran
  rw [rule, not_not]

/-- The last request is written before the stream is closed, and the timer that is pending then
finds nothing. -/
theorem silent_after_end_iff_flushed :
    ∃ state, (system String).run {} [.stream (.rpcExecute 0) true, .fire 0,
        .stream (.close none) false, .fire 0] = some state ∧
      state.dispatcher.calls = [.write [.request 0], .end] ∧
      writtenAfterEnd state.dispatcher.calls = [] := by
  obtain ⟨state, ran, calls⟩ : ∃ state, (system String).run {} [.stream (.rpcExecute 0) true,
      .fire 0, .stream (.close none) false, .fire 0] = some state ∧
      state.dispatcher.calls = [.write [.request 0], .end] := ⟨_, rfl, rfl⟩
  exact ⟨state, ran, calls, (silent_after_end_iff ran).mpr (by decide)⟩

/-- A request that is buffered when the transaction is closed is written by the timer, and so is the
request for more answers that an iterator makes of a part that was queued before the close. -/
theorem written_after_end :
    ((system String).run {} [.stream (.rpcExecute 0) true, .stream (.close none) false,
        .fire 0]).map (fun state => writtenAfterEnd state.dispatcher.calls) =
        some [[.request 0]] ∧
      ((system String).run {} [.stream (.rpcStream 0) false, .fire 0, .fire 0,
        .stream (.dataEvent (.resPart ⟨0, some .continue, ""⟩)) false,
        .stream (.close none) false, .stream (.pull 0) false, .stream (.resume 0) false,
        .fire 0]).map
        (fun state => writtenAfterEnd state.dispatcher.calls) = some [[.streamReq 0]] :=
  ⟨rfl, rfl⟩

end DispatchedStream

end TypeDBDriver.Nodejs
