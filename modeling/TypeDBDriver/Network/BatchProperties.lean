import TypeDBDriver.Network.TransmitterTransition

/-! The batches of the dispatch loop: which requests it has received, which messages it has
sent, and what its buffer holds in between. -/

namespace TypeDBDriver

open Library
open Proto.Transaction (Client Req)

namespace DispatchPhase

def requestInHand : DispatchPhase → List Req
  | .registering request _ | .buffering request => [request]
  | _ => []

def hasPanicked : DispatchPhase → Bool
  | .panicked _ => true
  | _ => false

end DispatchPhase

namespace Transmitter

/-- A transaction with the requests that its dispatch loop has received, translated by
`into_proto`, and the messages that the loop has sent. -/
structure Recorded where
  transmitter : State := {}
  received : List Req := []
  messages : List Client := []

def receivedBy (state : State) : Label → List Req
  | .dispatch fresh =>
    match state.dispatch, state.requestQueue with
    | .draining, (request, _) :: _ => [request.intoProto fresh]
    | _, _ => []
  | _ => []

def sentBy (state next : State) : Label → List Client
  | .dispatch _ => next.inFlight.drop state.inFlight.length
  | _ => []

def recording (env : Environment) : TransitionSystem Recorded Label where
  step recorded label := (step env recorded.transmitter label).map fun next => {
    transmitter := next
    received := recorded.received ++ receivedBy recorded.transmitter label
    messages := recorded.messages ++ sentBy recorded.transmitter next label }

variable {env : Environment} {state next : State} {label : Label}
  {recorded after : Recorded}

theorem recording_step (took : (recording env).step recorded label = some after) :
    step env recorded.transmitter label = some after.transmitter ∧
      after.received = recorded.received ++ receivedBy recorded.transmitter label ∧
      after.messages =
        recorded.messages ++ sentBy recorded.transmitter after.transmitter label := by
  obtain ⟨next, moved, rfl⟩ := Option.map_eq_some_iff.mp took
  exact ⟨moved, rfl, rfl⟩

def encodedLength (env : Environment) : List Req → Nat
  | [] => 0
  | req :: rest => env.encodedLen req + encodedLength env rest

theorem encodedLength_concat (env : Environment) (reqs : List Req) (request : Req) :
    encodedLength env (reqs ++ [request]) = encodedLength env reqs + env.encodedLen request := by
  induction reqs with
  | nil => simp [encodedLength]
  | cons req rest ih =>
    rw [List.cons_append, encodedLength, ih, encodedLength, Nat.add_assoc]

/-- The size test finds an empty buffer too full for the next request, and sends it. -/
def sendsEmptyBuffer (env : Environment) (state : State) : Bool :=
  match state.dispatch with
  | .buffering request =>
    state.requestSinkOpen && state.buffer.reqs.isEmpty &&
      decide (maxGrpcMessageLen < env.encodedLen request)
  | _ => false

/-- What a step of the dispatch loop does to the requests: those it receives, the messages it
sends, and where the others are. -/
inductive Batching (env : Environment) (state next : State) :
    List Req → List Client → Prop where
  | unchanged (idle : sendsEmptyBuffer env state = false) (buffer : next.buffer = state.buffer)
      (inHand : next.dispatch.requestInHand = state.dispatch.requestInHand)
      (running : next.dispatch.hasPanicked = false)
      (rounded : next.dispatch = .polling → state.buffer.reqs = []) :
      Batching env state next [] []
  | stopped (idle : sendsEmptyBuffer env state = false)
      (before : state.dispatch.requestInHand = []) (empty : state.buffer.reqs = [])
      (buffer : next.buffer = {}) (ended : next.dispatch = .ended) :
      Batching env state next [] []
  | received (request : Req) (idle : sendsEmptyBuffer env state = false)
      (buffer : next.buffer = state.buffer) (before : state.dispatch = .draining)
      (inHand : next.dispatch.requestInHand = [request]) : Batching env state next [request] []
  | pushed (request : Req) (before : state.dispatch = .buffering request)
      (room : state.buffer.len + env.encodedLen request ≤ maxGrpcMessageLen)
      (buffer : next.buffer =
        ⟨state.buffer.reqs ++ [request], state.buffer.len + env.encodedLen request⟩)
      (draining : next.dispatch = .draining) : Batching env state next [] []
  | overflowed (request : Req) (before : state.dispatch = .buffering request)
      (full : maxGrpcMessageLen < state.buffer.len + env.encodedLen request)
      (sinkOpen : state.requestSinkOpen = true)
      (buffer : next.buffer = ⟨[request], env.encodedLen request⟩)
      (draining : next.dispatch = .draining) :
      Batching env state next [] [⟨state.buffer.reqs⟩]
  | flushed (idle : sendsEmptyBuffer env state = false)
      (before : state.dispatch.requestInHand = []) (filled : state.buffer.reqs ≠ [])
      (buffer : next.buffer = {}) (inHand : next.dispatch.requestInHand = []) :
      Batching env state next [] [⟨state.buffer.reqs⟩]
  | panicked (idle : sendsEmptyBuffer env state = false) (buffer : next.buffer = {})
      (panicked : next.dispatch.hasPanicked = true) : Batching env state next [] []

variable {fresh : RequestID} {received : List Req}

theorem Batching.silent (moves : Batching env state next received [])
    (inFlight : next.inFlight = state.inFlight) :
    Batching env state next received (sentBy state next (.dispatch fresh)) := by
  have nothing : sentBy state next (.dispatch fresh) = [] := by simp [sentBy, inFlight]
  rw [nothing]
  exact moves

/-- A step inside a round, which leaves the requests where they are. -/
theorem Batching.within (idle : sendsEmptyBuffer env state = false)
    (buffer : next.buffer = state.buffer)
    (inHand : next.dispatch.requestInHand = state.dispatch.requestInHand)
    (running : next.dispatch.hasPanicked = false) (inside : next.dispatch ≠ .polling)
    (inFlight : next.inFlight = state.inFlight) :
    Batching env state next [] (sentBy state next (.dispatch fresh)) := by
  refine Batching.silent (.unchanged idle buffer inHand running ?_) inFlight
  intro polling
  exact absurd polling inside

theorem sendBuffer_batching {finish : State → State}
    (inFlight : (finish (forward state)).inFlight = (forward state).inFlight)
    (sent : state.requestSinkOpen = true →
      Batching env state (finish (forward state)) received [⟨state.buffer.reqs⟩])
    (failed : state.requestSinkOpen = false →
      Batching env state (leaveDispatch state (.panicked .requestSinkClosed)) received []) :
    Batching env state (sendBuffer state finish) received
      (sentBy state (sendBuffer state finish) (.dispatch fresh)) := by
  cases sinkOpen : state.requestSinkOpen with
  | true =>
    have message : sentBy state (finish (forward state)) (.dispatch fresh) =
        [⟨state.buffer.reqs⟩] := by
      simp only [sentBy, inFlight]
      simp [forward]
    simp only [sendBuffer, sinkOpen, if_true, message]
    exact sent sinkOpen
  | false =>
    simp only [sendBuffer, sinkOpen, Bool.false_eq_true, if_false]
    exact (failed sinkOpen).silent rfl

theorem sendBuffer_flushed {finish : State → State}
    (idle : sendsEmptyBuffer env state = false) (before : state.dispatch.requestInHand = [])
    (filled : ¬ state.buffer.reqs.isEmpty = true)
    (inFlight : (finish (forward state)).inFlight = (forward state).inFlight)
    (buffer : (finish (forward state)).buffer = {})
    (inHand : (finish (forward state)).dispatch.requestInHand = []) :
    Batching env state (sendBuffer state finish) []
      (sentBy state (sendBuffer state finish) (.dispatch fresh)) := by
  refine sendBuffer_batching inFlight ?_ ?_
  · intro _
    exact .flushed idle before (by simpa using filled) buffer inHand
  · intro _
    exact .panicked idle rfl rfl

theorem takeRequest_batching (phase : state.dispatch = .draining)
    (took : takeRequest state fresh = some next) :
    Batching env state next (receivedBy state (.dispatch fresh))
      (sentBy state next (.dispatch fresh)) := by
  have idle : sendsEmptyBuffer env state = false := by simp [sendsEmptyBuffer, phase]
  cases queue : state.requestQueue with
  | nil =>
    simp only [takeRequest, queue] at took
    cases took
    simp only [receivedBy, phase, queue]
    exact .within idle rfl (by rw [phase]; rfl) rfl (by rintro ⟨⟩) rfl
  | cons entry rest =>
    obtain ⟨request, _ | sink⟩ := entry
    · simp only [takeRequest, queue] at took
      cases took
      simp only [receivedBy, phase, queue]
      exact Batching.silent (.received _ idle rfl phase rfl) rfl
    · simp only [takeRequest, queue] at took
      split at took
      case isTrue => cases took
      case isFalse =>
        cases took
        simp only [receivedBy, phase, queue]
        exact Batching.silent (.received _ idle rfl phase rfl) rfl

theorem dispatchStep_batching (took : dispatchStep env state fresh = some next) :
    Batching env state next (receivedBy state (.dispatch fresh))
      (sentBy state next (.dispatch fresh)) := by
  cases phase : state.dispatch with
  | draining =>
    simp only [dispatchStep, phase] at took
    exact takeRequest_batching phase took
  | polling =>
    have idle : sendsEmptyBuffer env state = false := by simp [sendsEmptyBuffer, phase]
    simp only [dispatchStep, phase] at took
    simp only [receivedBy, phase]
    split at took
    case isTrue =>
      cases took
      exact .within idle rfl (by rw [phase]; rfl) rfl (by rintro ⟨⟩) rfl
    case isFalse =>
      split at took
      case isTrue empty =>
        cases took
        exact Batching.silent
          (.stopped idle (by rw [phase]; rfl) (List.isEmpty_iff.mp empty) rfl rfl) rfl
      case isFalse filled =>
        cases took
        exact sendBuffer_flushed idle (by rw [phase]; rfl) filled rfl rfl rfl
  | pollingCallbacks =>
    have idle : sendsEmptyBuffer env state = false := by simp [sendsEmptyBuffer, phase]
    simp only [dispatchStep, phase] at took
    simp only [receivedBy, phase]
    split at took <;> cases took <;>
      exact .within idle rfl (by rw [phase]; rfl) rfl (by rintro ⟨⟩) rfl
  | pushing callback =>
    have idle : sendsEmptyBuffer env state = false := by simp [sendsEmptyBuffer, phase]
    simp only [dispatchStep, phase] at took
    simp only [receivedBy, phase]
    cases took
    exact .within idle rfl (by rw [phase]; rfl) rfl (by rintro ⟨⟩) rfl
  | registering request sink =>
    have idle : sendsEmptyBuffer env state = false := by simp [sendsEmptyBuffer, phase]
    simp only [dispatchStep, phase] at took
    simp only [receivedBy, phase]
    split at took
    case isTrue => cases took
    case isFalse =>
      split at took
      case isTrue =>
        cases took
        exact Batching.silent (.panicked idle rfl rfl) rfl
      case isFalse =>
        cases took
        exact .within idle rfl (by rw [phase]; rfl) rfl (by rintro ⟨⟩) rfl
  | buffering request =>
    simp only [dispatchStep, phase] at took
    simp only [receivedBy, phase]
    split at took
    case isTrue full =>
      cases took
      refine sendBuffer_batching rfl ?_ ?_
      · intro sinkOpen
        exact .overflowed request phase full sinkOpen (by simp [pushRequest, forward]) rfl
      · intro closed
        exact .panicked (by simp [sendsEmptyBuffer, phase, closed]) rfl rfl
    case isFalse fits =>
      cases took
      exact Batching.silent (.pushed request phase (Nat.le_of_not_lt fits) rfl rfl) rfl
  | flushing =>
    have idle : sendsEmptyBuffer env state = false := by simp [sendsEmptyBuffer, phase]
    simp only [dispatchStep, phase] at took
    simp only [receivedBy, phase]
    split at took
    case isTrue empty =>
      cases took
      refine Batching.silent (.unchanged idle rfl ?_ rfl ?_) rfl
      · rw [phase]
        rfl
      · intro _
        exact List.isEmpty_iff.mp empty
    case isFalse filled =>
      cases took
      exact sendBuffer_flushed idle (by rw [phase]; rfl) filled rfl rfl rfl
  | ended | panicked =>
    simp only [dispatchStep, phase, reduceCtorEq] at took

theorem dispatchStep_running (took : dispatchStep env state fresh = some next) :
    state.dispatch.hasPanicked = false := by
  cases phase : state.dispatch with
  | panicked => simp only [dispatchStep, phase, reduceCtorEq] at took
  | _ => rfl

theorem Transition.dispatch_frame (move : Transition env state label next)
    (other : ∀ fresh, label ≠ .dispatch fresh) :
    next.dispatch = state.dispatch ∧ next.buffer = state.buffer ∧
      next.delivered ++ next.inFlight.flatMap (·.reqs) =
        state.delivered ++ state.inFlight.flatMap (·.reqs) := by
  cases move with
  | noSignal | stopped | stoppedForwarding | dispatchPanicked | noCallback | callbackTaken
    | callbackPushed | drained | requestTaken | streamTaken | registered | buffered
    | bufferedForwarding | flushed | flushedForwarding => exact absurd rfl (other _)
  | delivered queue => simp [queue]
  | begins | completes =>
    unfold endSection
    split <;> exact ⟨rfl, rfl, rfl⟩
  | _ => exact ⟨rfl, rfl, rfl⟩

theorem receivedBy_of_ne (other : ∀ fresh, label ≠ .dispatch fresh) :
    receivedBy state label = [] := by
  cases label with
  | dispatch fresh => exact absurd rfl (other fresh)
  | _ => rfl

theorem sentBy_of_ne (other : ∀ fresh, label ≠ .dispatch fresh) : sentBy state next label = [] := by
  cases label with
  | dispatch fresh => exact absurd rfl (other fresh)
  | _ => rfl

theorem recording_batching (locking : Locking recorded.transmitter)
    (took : (recording env).step recorded label = some after) :
    Locking after.transmitter ∧ ∃ received messages,
      after.received = recorded.received ++ received ∧
      after.messages = recorded.messages ++ messages ∧
      ((∃ fresh, label = .dispatch fresh) ∧
          recorded.transmitter.dispatch.hasPanicked = false ∧
          Batching env recorded.transmitter after.transmitter received messages ∨
        received = [] ∧ messages = [] ∧ (∀ fresh, label ≠ .dispatch fresh) ∧
        after.transmitter.dispatch = recorded.transmitter.dispatch ∧
        after.transmitter.buffer = recorded.transmitter.buffer) := by
  obtain ⟨moved, received, messages⟩ := recording_step took
  have move := step_transition locking moved
  refine ⟨move.locking locking, _, _, received, messages, ?_⟩
  by_cases dispatching : ∃ fresh, label = .dispatch fresh
  · obtain ⟨fresh, rfl⟩ := dispatching
    exact .inl ⟨⟨fresh, rfl⟩, dispatchStep_running moved, dispatchStep_batching moved⟩
  · have other : ∀ fresh, label ≠ .dispatch fresh := not_exists.mp dispatching
    obtain ⟨phase, buffer, -⟩ := move.dispatch_frame other
    exact .inr ⟨receivedBy_of_ne other, sentBy_of_ne other, other, phase, buffer⟩

structure Batched (env : Environment) (recorded : Recorded) : Prop where
  stream : recorded.transmitter.dispatch.hasPanicked = false →
    recorded.messages.flatMap (·.reqs) ++ recorded.transmitter.buffer.reqs ++
      recorded.transmitter.dispatch.requestInHand = recorded.received
  ordered : recorded.messages.flatMap (·.reqs) <+: recorded.received
  length : recorded.transmitter.buffer.len =
    encodedLength env recorded.transmitter.buffer.reqs
  rounded : recorded.transmitter.dispatch = .polling → recorded.transmitter.buffer.reqs = []

theorem batched_initial : Batched env {} where
  stream _ := rfl
  ordered := List.nil_prefix
  length := rfl
  rounded _ := rfl

section Batching

variable {received : List Req} {messages : List Client}

section

variable (moves : Batching env state next received messages)

include moves

theorem Batching.length (before : state.buffer.len = encodedLength env state.buffer.reqs) :
    next.buffer.len = encodedLength env next.buffer.reqs := by
  cases moves with
  | unchanged idle buffer | received request idle buffer =>
    rw [buffer]
    exact before
  | pushed request inHand room buffer => rw [buffer, encodedLength_concat, before]
  | overflowed request inHand full sinkOpen buffer =>
    rw [buffer]
    simp [encodedLength]
  | stopped idle inHand empty buffer | flushed idle inHand filled buffer
    | panicked idle buffer =>
      rw [buffer]
      rfl

theorem Batching.rounded (polling : next.dispatch = .polling) : next.buffer.reqs = [] := by
  cases moves with
  | unchanged idle buffer inHand running rounded =>
    rw [buffer]
    exact rounded polling
  | received request idle buffer before inHand =>
    rw [polling] at inHand
    cases inHand
  | pushed request before room buffer draining
    | overflowed request before full sinkOpen buffer draining =>
      rw [draining] at polling
      cases polling
  | stopped idle before empty buffer | flushed idle before filled buffer
    | panicked idle buffer =>
      rw [buffer]

theorem Batching.sent_prefix : messages.flatMap (·.reqs) <+: state.buffer.reqs := by
  cases moves with
  | overflowed | flushed => simp
  | unchanged | stopped | received | pushed | panicked => exact List.nil_prefix

theorem Batching.stream (running : next.dispatch.hasPanicked = false) :
    messages.flatMap (·.reqs) ++ next.buffer.reqs ++ next.dispatch.requestInHand =
      state.buffer.reqs ++ state.dispatch.requestInHand ++ received := by
  cases moves with
  | unchanged idle buffer inHand => simp [buffer, inHand]
  | stopped idle before empty buffer ended =>
    rw [before, empty, buffer, ended]
    rfl
  | received request idle buffer before inHand =>
    rw [buffer, before, inHand]
    simp [DispatchPhase.requestInHand]
  | pushed request before room buffer draining =>
    simp [buffer, before, draining, DispatchPhase.requestInHand]
  | overflowed request before full sinkOpen buffer draining =>
    simp [buffer, before, draining, DispatchPhase.requestInHand]
  | flushed idle before filled buffer inHand => simp [before, buffer, inHand]
  | panicked idle buffer panicked =>
    rw [panicked] at running
    cases running

end

end Batching

variable {messages : List Client}

theorem Batched.batching (held : Batched env recorded)
    (running : recorded.transmitter.dispatch.hasPanicked = false)
    (moves : Batching env recorded.transmitter after.transmitter received messages)
    (nowReceived : after.received = recorded.received ++ received)
    (nowSent : after.messages = recorded.messages ++ messages) : Batched env after where
  stream going := by
    rw [nowSent, nowReceived, ← held.stream running, List.flatMap_append]
    simp only [List.append_assoc]
    rw [← List.append_assoc (messages.flatMap _), moves.stream going, List.append_assoc]
  ordered := by
    rw [nowSent, nowReceived, ← held.stream running, List.flatMap_append]
    simp only [List.append_assoc]
    exact (List.prefix_append_right_inj _).mpr (moves.sent_prefix.trans (List.prefix_append _ _))
  length := moves.length held.length
  rounded polling := moves.rounded polling

theorem Batched.step (locking : Locking recorded.transmitter) (held : Batched env recorded)
    (took : (recording env).step recorded label = some after) : Batched env after := by
  obtain ⟨-, received, messages, nowReceived, nowSent, moves⟩ :=
    recording_batching locking took
  rcases moves with ⟨-, running, moves⟩ | ⟨rfl, rfl, -, phase, buffer⟩
  · exact held.batching running moves nowReceived nowSent
  · simp only [List.append_nil] at nowReceived nowSent
    refine ⟨?_, ?_, ?_, ?_⟩
    · rw [nowReceived, nowSent, phase, buffer]
      exact held.stream
    · rw [nowReceived, nowSent]
      exact held.ordered
    · rw [buffer]
      exact held.length
    · rw [phase, buffer]
      exact held.rounded

theorem Transition.dispatch_sends (move : Transition env state (.dispatch fresh) next) :
    next.delivered = state.delivered ∧
      next.inFlight = state.inFlight ++ sentBy state next (.dispatch fresh) := by
  cases move <;> simp [sentBy, forward, pushRequest, leaveDispatch]

/-- The recorded messages are those that the server has received or that are on their way. -/
def Carried (recorded : Recorded) : Prop :=
  recorded.transmitter.delivered ++ recorded.transmitter.inFlight.flatMap (·.reqs) =
    recorded.messages.flatMap (·.reqs)

theorem Carried.step (locking : Locking recorded.transmitter) (held : Carried recorded)
    (took : (recording env).step recorded label = some after) : Carried after := by
  obtain ⟨moved, -, messages⟩ := recording_step took
  have move := step_transition locking moved
  unfold Carried
  by_cases dispatching : ∃ fresh, label = .dispatch fresh
  · obtain ⟨fresh, rfl⟩ := dispatching
    obtain ⟨delivered, inFlight⟩ := move.dispatch_sends
    rw [delivered, inFlight, messages, List.flatMap_append, List.flatMap_append,
      ← List.append_assoc, held]
  · have other : ∀ fresh, label ≠ .dispatch fresh := not_exists.mp dispatching
    obtain ⟨-, -, carried⟩ := move.dispatch_frame other
    rw [carried, messages, sentBy_of_ne other, List.append_nil]
    exact held

theorem recording_invariant {labels : List Label}
    (ran : (recording env).run {} labels = some recorded) :
    Locking recorded.transmitter ∧ Batched env recorded ∧ Carried recorded := by
  have kept : ∀ {recorded after label},
      Locking recorded.transmitter ∧ Batched env recorded ∧ Carried recorded →
      (recording env).step recorded label = some after →
      Locking after.transmitter ∧ Batched env after ∧ Carried after := by
    intro recorded after label given took
    obtain ⟨locking, batched, carried⟩ := given
    exact ⟨(recording_batching locking took).1, batched.step locking took,
      carried.step locking took⟩
  exact TransitionSystem.run_preserves kept ⟨locking_initial, batched_initial, rfl⟩ ran

/-- Batching preserves the stream of requests. The messages sent so far, the buffer and the
request in hand are what was received so far, in that order; a loop that panics drops what it
holds, and what it had sent is still a beginning of what it received. The messages are those
that reach the server. -/
theorem batches_preserve_requests (env : Environment) {labels : List Label} {recorded : Recorded}
    (ran : (recording env).run {} labels = some recorded) :
    (recorded.transmitter.dispatch.hasPanicked = false →
      recorded.messages.flatMap (·.reqs) ++ recorded.transmitter.buffer.reqs ++
        recorded.transmitter.dispatch.requestInHand = recorded.received) ∧
    recorded.messages.flatMap (·.reqs) <+: recorded.received ∧
    recorded.transmitter.delivered ++ recorded.transmitter.inFlight.flatMap (·.reqs) =
      recorded.messages.flatMap (·.reqs) ∧
    recorded.transmitter.buffer.len = encodedLength env recorded.transmitter.buffer.reqs ∧
    (recorded.transmitter.dispatch = .polling → recorded.transmitter.buffer = {}) := by
  obtain ⟨-, batched, carried⟩ := recording_invariant ran
  refine ⟨batched.stream, batched.ordered, carried, batched.length, ?_⟩
  intro polling
  have length := batched.length
  have empty := batched.rounded polling
  rw [empty] at length
  cases buffer : recorded.transmitter.buffer with
  | mk reqs len =>
    simp only [buffer] at length empty
    rw [empty, length]
    rfl

def batchRun : List Label :=
  [.call .rollback, .proceed 0, .call .rollback, .proceed 1] ++
    List.replicate 5 (.dispatch ⟨[1]⟩) ++ List.replicate 5 (.dispatch ⟨[2]⟩)

theorem batches_preserve_requests_pair :
    ∃ recorded, (recording .basic).run {} batchRun = some recorded ∧
      recorded.received.length = 2 ∧ recorded.messages.length = 1 ∧
      recorded.messages.flatMap (·.reqs) ++ recorded.transmitter.buffer.reqs ++
        recorded.transmitter.dispatch.requestInHand = recorded.received := by
  have ran : (recording .basic).run {} batchRun = some _ := rfl
  exact ⟨_, ran, rfl, rfl, (batches_preserve_requests .basic ran).1 rfl⟩

/-- A message is not empty, and not longer than the limit unless it holds one request only. -/
def WellShaped (env : Environment) (message : Client) : Prop :=
  message.reqs ≠ [] ∧
    (encodedLength env message.reqs ≤ maxGrpcMessageLen ∨ message.reqs.length = 1)

def Packed (env : Environment) (state : State) : Prop :=
  encodedLength env state.buffer.reqs ≤ maxGrpcMessageLen ∨ state.buffer.reqs.length = 1

def Misshapen (env : Environment) (recorded : Recorded) : Prop :=
  ∃ message ∈ recorded.messages, ¬ WellShaped env message

def fillsMessages (env : Environment) (recorded : Recorded) : Label → Bool
  | .dispatch _ => !sendsEmptyBuffer env recorded.transmitter
  | _ => true

theorem Packed.of_empty (empty : state.buffer.reqs = []) : Packed env state := by
  refine .inl ?_
  rw [empty]
  exact Nat.zero_le _

section

variable (packed : Packed env recorded.transmitter) (held : Batched env recorded)
    (moves : Batching env recorded.transmitter next received messages)

include packed held moves

theorem Packed.batching : Packed env next := by
  cases moves with
  | unchanged idle buffer | received request idle buffer =>
    unfold Packed
    rw [buffer]
    exact packed
  | pushed request before room buffer =>
    refine .inl ?_
    rw [held.length] at room
    rw [buffer, encodedLength_concat]
    exact room
  | overflowed request before full sinkOpen buffer =>
    refine .inr ?_
    rw [buffer]
    rfl
  | stopped idle before empty buffer | flushed idle before filled buffer
    | panicked idle buffer =>
      apply Packed.of_empty
      rw [buffer]

theorem Packed.wellShaped_iff :
    sendsEmptyBuffer env recorded.transmitter = false ↔
      ∀ message ∈ messages, WellShaped env message := by
  cases moves with
  | unchanged idle | stopped idle | received request idle | panicked idle =>
    simp [idle]
  | pushed request before room =>
    have fits : ¬ maxGrpcMessageLen < env.encodedLen request := by omega
    simp [sendsEmptyBuffer, before, fits]
  | overflowed request before full sinkOpen =>
    rw [held.length] at full
    by_cases empty : recorded.transmitter.buffer.reqs = []
    · have exceeds : maxGrpcMessageLen < env.encodedLen request := by
        simpa [empty, encodedLength] using full
      simp [sendsEmptyBuffer, before, sinkOpen, empty, exceeds, WellShaped]
    · have shaped : WellShaped env ⟨recorded.transmitter.buffer.reqs⟩ := ⟨empty, packed⟩
      simp [sendsEmptyBuffer, before, empty, shaped]
  | flushed idle before filled =>
    have shaped : WellShaped env ⟨recorded.transmitter.buffer.reqs⟩ := ⟨filled, packed⟩
    simp [idle, shaped]

end

theorem Packed.step (locking : Locking recorded.transmitter) (held : Batched env recorded)
    (packed : Packed env recorded.transmitter)
    (took : (recording env).step recorded label = some after) :
    Packed env after.transmitter ∧ ∃ messages, after.messages = recorded.messages ++ messages ∧
      (fillsMessages env recorded label = true ↔ ∀ message ∈ messages, WellShaped env message) := by
  obtain ⟨-, received, messages, -, nowSent, moves⟩ := recording_batching locking took
  rcases moves with ⟨⟨fresh, rfl⟩, -, moves⟩ | ⟨-, rfl, other, phase, buffer⟩
  · refine ⟨packed.batching held moves, messages, nowSent, ?_⟩
    simpa [fillsMessages] using packed.wellShaped_iff held moves
  · refine ⟨?_, [], nowSent, ?_⟩
    · unfold Packed
      rw [buffer]
      exact packed
    · cases label with
      | dispatch fresh => exact absurd rfl (other fresh)
      | _ => simp [fillsMessages]

/-- Every message that the loop sends has the right shape exactly if the loop never meets a
request longer than the limit while its buffer is empty. -/
theorem messages_wellShaped_iff (env : Environment) {labels : List Label} {recorded : Recorded}
    (ran : (recording env).run {} labels = some recorded) :
    (recording env).Meets (fun recorded label => fillsMessages env recorded label = true) {}
        labels ↔
      ∀ message ∈ recorded.messages, WellShaped env message := by
  have kept : ∀ {recorded after label},
      Locking recorded.transmitter ∧ Batched env recorded ∧ Packed env recorded.transmitter →
      (recording env).step recorded label = some after →
      Locking after.transmitter ∧ Batched env after ∧ Packed env after.transmitter := by
    intro recorded after label given took
    obtain ⟨locking, batched, packed⟩ := given
    exact ⟨(recording_batching locking took).1, batched.step locking took,
      (packed.step locking batched took).1⟩
  have shaped : ∀ {recorded : Recorded}, ¬ Misshapen env recorded ↔
      ∀ message ∈ recorded.messages, WellShaped env message := by
    simp [Misshapen]
  rw [← shaped]
  refine TransitionSystem.run_meets_iff kept ?_ ?_ ⟨locking_initial, batched_initial, ?_⟩ ?_ ran
  · intro recorded after label given failed took
    obtain ⟨message, member, wrong⟩ := failed
    obtain ⟨-, messages, nowSent, -⟩ := given.2.2.step given.1 given.2.1 took
    refine ⟨message, ?_, wrong⟩
    rw [nowSent]
    exact List.mem_append_left _ member
  · intro recorded after label given good took
    obtain ⟨-, messages, nowSent, decided⟩ := given.2.2.step given.1 given.2.1 took
    rw [decided, shaped, nowSent, List.forall_mem_append]
    exact (and_iff_right (shaped.mp good)).symm
  · exact .of_empty rfl
  · exact shaped.mpr (by simp)

def longQuery : UserRequest :=
  .query ⟨String.ofList (List.replicate 2000000 ' '), {}⟩

/-- The queries are longer than the limit. -/
def longQueries : Environment where
  chrono := Chrono.documented
  debug := Environment.basic.debug
  encodedLen req := match req.req with
    | some (.queryReq _ _) => 2000000
    | _ => 16
  sync := false

/-- A request longer than the limit that finds something in the buffer. -/
def longRequestRun : List Label :=
  [.call .rollback, .proceed 0, .call longQuery, .proceed 1] ++
    List.replicate 5 (.dispatch ⟨[1]⟩) ++ List.replicate 5 (.dispatch ⟨[2]⟩)

theorem messages_wellShaped_iff_two_messages :
    ∃ recorded, (recording longQueries).run {} longRequestRun = some recorded ∧
      recorded.messages.length = 2 ∧
      ∀ message ∈ recorded.messages, WellShaped longQueries message := by
  have ran : (recording longQueries).run {} longRequestRun = some _ := rfl
  have meets : (recording longQueries).Meets
      (fun recorded label => fillsMessages longQueries recorded label = true) {}
      longRequestRun := by decide
  exact ⟨_, ran, rfl, (messages_wellShaped_iff longQueries ran).mp meets⟩

theorem empty_message_sent :
    ∃ recorded, (recording longQueries).run {}
        ([.call longQuery, .proceed 0] ++ List.replicate 5 (.dispatch ⟨[1]⟩)) = some recorded ∧
      recorded.messages = [⟨[]⟩] ∧
      ¬ ∀ message ∈ recorded.messages, WellShaped longQueries message :=
  ⟨_, rfl, rfl, fun shaped => (shaped ⟨[]⟩ (List.mem_singleton.mpr rfl)).1 rfl⟩

end Transmitter

end TypeDBDriver
