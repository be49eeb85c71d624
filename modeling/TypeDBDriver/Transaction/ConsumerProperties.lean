import TypeDBDriver.Network.ChannelProperties

/-! The consumer of a query: what it makes of the items on its channel, whatever the
schedule, and which requests for more it sends while it reads them. -/

namespace TypeDBDriver

open Library
open Proto.Transaction (Server Res ResPart)

namespace AnswerHeader

def response : AnswerHeader → QueryResponse
  | .documents header => .conceptDocumentsHeader header
  | .rows header => .conceptRowsHeader header

def answers : AnswerHeader → QueryResponse → List Answer
  | .documents header, .streamConceptDocuments batch =>
    batch.map fun document => .document ⟨header, document⟩
  | .rows header, .streamConceptRows batch => batch.map fun row => .row ⟨header, row⟩
  | _, _ => []

def answersOf (header : AnswerHeader) : StreamResponse TransactionResponse → List Answer
  | .result (.ok (.query response)) => header.answers response
  | _ => []

end AnswerHeader

namespace StreamResponse

def isContinue : StreamResponse TransactionResponse → Bool
  | .continue _ => true
  | .result _ => false

/-- The items that no answer stream takes for a part of its answer. -/
def fails : StreamResponse TransactionResponse → Bool
  | .result (.ok (.query (.error _))) => true
  | .result (.ok (.query _)) => false
  | .result _ => true
  | .continue _ => false

end StreamResponse

def successes (items : List (Result Answer)) : List Answer :=
  items.filterMap fun item => item.toOption

@[simp] theorem successes_append (items others : List (Result Answer)) :
    successes (items ++ others) = successes items ++ successes others :=
  List.filterMap_append

section Unbatch

variable (debug : DebugText) (header : AnswerHeader)

theorem unbatch_successes (result : Result TransactionResponse) :
    successes (unbatch debug header (queryResponse debug result)) =
      header.answersOf (.result result) := by
  rcases result with cause | response
  · cases header <;> rfl
  · cases response with
    | query response =>
      cases header <;> cases response <;>
        simp [unbatch, queryResponse, AnswerHeader.answersOf, AnswerHeader.answers, successes,
          List.filterMap_map, Except.toOption]
    | «open» | commit | rollback | close => cases header <;> rfl

theorem unbatch_of_fails {result : Result TransactionResponse}
    (fails : (StreamResponse.result result).fails = true) :
    ∃ cause, Except.error cause ∈ unbatch debug header (queryResponse debug result) := by
  rcases result with cause | response
  · cases header <;> exact ⟨_, List.mem_singleton.mpr rfl⟩
  · cases response with
    | query response =>
      cases response with
      | error cause => cases header <;> exact ⟨_, List.mem_singleton.mpr rfl⟩
      | _ => cases fails
    | «open» | commit | rollback | close =>
      cases header <;> exact ⟨_, List.mem_singleton.mpr rfl⟩

end Unbatch

theorem openAnswer_eq_stream {debug : DebugText} {result : Result TransactionResponse}
    {header : AnswerHeader}
    (opened : openAnswer debug (some (queryResponse debug result)) = .ok (.stream header)) :
    result = .ok (.query header.response) := by
  rcases result with cause | response
  · cases opened
  · cases response with
    | query response => cases response <;> cases opened <;> rfl
    | «open» | commit | rollback | close => cases opened

/-- What a consumer has made of the part of its channel that it has read. -/
structure Reads (channel : List (StreamResponse TransactionResponse)) (consumer : Consumer) :
    Prop where
  within : consumer.cursor ≤ channel.length
  waiting : consumer.phase = .awaitingHeader →
    (∀ item ∈ channel.take consumer.cursor, item.isContinue = true) ∧
      consumer.yielded ++ consumer.batch = []
  streaming : ∀ header, consumer.phase = .streaming header →
    .result (.ok (.query header.response)) ∈ channel.take consumer.cursor ∧
      successes (consumer.yielded ++ consumer.batch) =
        (channel.take consumer.cursor).flatMap header.answersOf
  reported : ∀ header, consumer.phase = .streaming header →
    ∀ item ∈ channel.take consumer.cursor, item.fails = true →
      ∃ cause, Except.error cause ∈ consumer.yielded ++ consumer.batch

namespace Reads

variable {channel : List (StreamResponse TransactionResponse)} {consumer : Consumer}

theorem initial (channel : List (StreamResponse TransactionResponse)) : Reads channel {} where
  within := Nat.zero_le _
  waiting _ := ⟨by simp, rfl⟩
  streaming _ phase := by cases phase
  reported _ phase := by cases phase

theorem extend (reads : Reads channel consumer)
    (more : List (StreamResponse TransactionResponse)) : Reads (channel ++ more) consumer := by
  have same : (channel ++ more).take consumer.cursor = channel.take consumer.cursor :=
    List.take_append_of_le_length reads.within
  refine ⟨?_, ?_, ?_, ?_⟩
  · rw [List.length_append]
    exact Nat.le_add_right_of_le reads.within
  · rw [same]
    exact reads.waiting
  · rw [same]
    exact reads.streaming
  · rw [same]
    exact reads.reported

theorem «yield» (reads : Reads channel consumer) {answer : Result Answer}
    {rest : List (Result Answer)} (batch : consumer.batch = answer :: rest) :
    Reads channel (consumer.yield answer rest) := by
  have same : (consumer.yield answer rest).yielded ++ (consumer.yield answer rest).batch =
      consumer.yielded ++ consumer.batch := by
    simp [Consumer.yield, batch]
  refine ⟨reads.within, ?_, ?_, ?_⟩
  · rw [same]
    exact reads.waiting
  · rw [same]
    exact reads.streaming
  · rw [same]
    exact reads.reported

theorem resolved {answer : Result QueryType} (phase : consumer.phase = .resolved answer)
    (within : consumer.cursor ≤ channel.length) : Reads channel consumer where
  within := within
  waiting waiting := by cases phase.symm.trans waiting
  streaming _ streaming := by cases phase.symm.trans streaming
  reported _ streaming := by cases phase.symm.trans streaming

theorem finish (reads : Reads channel consumer) (debug : DebugText) :
    Reads channel (consumer.finish debug) := by
  obtain ⟨cursor, phase, batch, yielded, ended⟩ := consumer
  cases phase with
  | awaitingHeader => exact .resolved rfl reads.within
  | streaming header => exact ⟨reads.within, reads.waiting, reads.streaming, reads.reported⟩
  | resolved answer => exact reads

variable {response : StreamResponse TransactionResponse}

theorem take_succ (next : channel[consumer.cursor]? = some response) :
    channel.take (consumer.cursor + 1) = channel.take consumer.cursor ++ [response] := by
  rw [List.take_add_one, next]
  rfl

theorem skip (reads : Reads channel consumer) (next : channel[consumer.cursor]? = some response)
    (continues : response.isContinue = true) :
    Reads channel { consumer with cursor := consumer.cursor + 1 } := by
  have silent : response.fails = false ∧ ∀ header, AnswerHeader.answersOf header response = [] := by
    cases response with
    | result => cases continues
    | «continue» => exact ⟨rfl, fun _ => rfl⟩
  refine ⟨(List.getElem?_eq_some_iff.mp next).1, ?_, ?_, ?_⟩ <;> simp only [take_succ next]
  · intro phase
    obtain ⟨before, nothing⟩ := reads.waiting phase
    refine ⟨?_, nothing⟩
    simpa [or_imp, forall_and, continues] using before
  · intro header phase
    obtain ⟨opened, answers⟩ := reads.streaming header phase
    refine ⟨List.mem_append_left _ opened, ?_⟩
    rw [answers, List.flatMap_append]
    simp [silent.2]
  · intro header phase item member fails
    rcases List.mem_append.mp member with member | member
    · exact reads.reported header phase item member fails
    · cases List.mem_singleton.mp member
      simp [silent.1] at fails

variable {item : Result TransactionResponse}

section

variable (reads : Reads channel consumer) (debug : DebugText)

include reads debug

theorem receiveHeader (waiting : consumer.phase = .awaitingHeader)
    (within : consumer.cursor + 1 ≤ channel.length)
    (next : (∃ cause, item = .error cause) ∨ channel[consumer.cursor]? = some (.result item)) :
    Reads channel ({ consumer with cursor := consumer.cursor + 1 }.receive debug item) := by
  obtain ⟨continues, nothing⟩ := reads.waiting waiting
  have resolves : { consumer with cursor := consumer.cursor + 1 }.receive debug item =
      { consumer with cursor := consumer.cursor + 1 }.resolve
        (openAnswer debug (some (queryResponse debug item))) := by
    simp [Consumer.receive, waiting]
  rw [resolves]
  cases opened : openAnswer debug (some (queryResponse debug item)) with
  | error cause => exact .resolved rfl within
  | ok answer =>
    cases answer with
    | ok queryType => exact .resolved rfl within
    | stream header =>
      obtain rfl := openAnswer_eq_stream opened
      rcases next with ⟨cause, ⟨⟩⟩ | next
      have silent : ∀ item ∈ channel.take consumer.cursor,
          item.fails = false ∧ header.answersOf item = [] := by
        intro item member
        have continues := continues item member
        cases item with
        | result => cases continues
        | «continue» => exact ⟨rfl, rfl⟩
      have opener : header.answers header.response = [] := by cases header <;> rfl
      refine ⟨within, by rintro ⟨⟩, ?_, ?_⟩
      · intro _ reached
        cases reached
        simp only [Consumer.resolve, take_succ next, nothing, List.flatMap_append]
        refine ⟨List.mem_append_right _ (List.mem_singleton.mpr rfl), ?_⟩
        rw [List.flatMap_eq_nil_iff.mpr fun item member => (silent item member).2]
        simp [AnswerHeader.answersOf, opener, successes]
      · intro _ reached item member fails
        cases reached
        simp only [Consumer.resolve, take_succ next] at member
        rcases List.mem_append.mp member with member | member
        · simp [(silent item member).1] at fails
        · cases List.mem_singleton.mp member
          cases header <;> cases fails

theorem receiveBatch {header : AnswerHeader} (streaming : consumer.phase = .streaming header)
    (batch : consumer.batch = []) (next : channel[consumer.cursor]? = some response)
    (answers : header.answersOf response = header.answersOf (.result item))
    (fails : response.fails = true → (StreamResponse.result item).fails = true) :
    Reads channel ({ consumer with cursor := consumer.cursor + 1 }.receive debug item) := by
  have becomes : { consumer with cursor := consumer.cursor + 1 }.receive debug item =
      { consumer with
        cursor := consumer.cursor + 1
        batch := unbatch debug header (queryResponse debug item) } := by
    simp [Consumer.receive, streaming]
  rw [becomes]
  refine ⟨(List.getElem?_eq_some_iff.mp next).1, ?_, ?_, ?_⟩ <;> simp only [take_succ next]
  · intro waiting
    cases streaming.symm.trans waiting
  · intro other phase
    cases streaming.symm.trans phase
    obtain ⟨opened, earlier⟩ := reads.streaming header streaming
    refine ⟨List.mem_append_left _ opened, ?_⟩
    rw [batch, List.append_nil] at earlier
    rw [successes_append, earlier, unbatch_successes, List.flatMap_append, ← answers]
    simp
  · intro other phase held member failed
    cases streaming.symm.trans phase
    rcases List.mem_append.mp member with member | member
    · obtain ⟨cause, reported⟩ := reads.reported header streaming held member failed
      rw [batch, List.append_nil] at reported
      exact ⟨cause, List.mem_append_left _ reported⟩
    · cases List.mem_singleton.mp member
      obtain ⟨cause, reported⟩ := unbatch_of_fails debug header (fails failed)
      exact ⟨cause, List.mem_append_right _ reported⟩

theorem poll (accepting : Bool) (batch : consumer.batch = [])
    (unresolved : ∀ answer, consumer.phase ≠ .resolved answer)
    (next : channel[consumer.cursor]? = some response) :
    Reads channel ((processResponse accepting response).1.elim
      { consumer with cursor := consumer.cursor + 1 }
      ({ consumer with cursor := consumer.cursor + 1 }.receive debug)) := by
  have within : consumer.cursor + 1 ≤ channel.length := (List.getElem?_eq_some_iff.mp next).1
  have phases : consumer.phase = .awaitingHeader ∨
      ∃ header, consumer.phase = .streaming header := by
    cases phase : consumer.phase with
    | awaitingHeader => exact .inl rfl
    | streaming header => exact .inr ⟨header, rfl⟩
    | resolved answer => exact absurd phase (unresolved answer)
  cases response with
  | result item =>
    rcases phases with phase | ⟨header, phase⟩
    · exact reads.receiveHeader debug phase within (.inr next)
    · exact reads.receiveBatch debug phase batch next rfl id
  | «continue» requestId =>
    cases accepting with
    | true => exact reads.skip next rfl
    | false =>
      rcases phases with phase | ⟨header, phase⟩
      · exact reads.receiveHeader debug phase within (.inl ⟨transactionIsClosed, rfl⟩)
      · have nothing : header.answersOf (.continue requestId) =
            header.answersOf (.result (.error transactionIsClosed)) := rfl
        exact reads.receiveBatch debug phase batch next nothing (by rintro ⟨⟩)

end

end Reads

namespace Transmitter

variable {env : Environment} {state next : State} {label : Label}

/-- The answer stream of a call has ended: its channel has no sender left and was read to
its end. -/
def Settled (state : State) (ticket : Ticket) : Prop :=
  (∃ query, state.calls[ticket]? = some ⟨.query query, .sent⟩) ∧ Released state ticket ∧
    (state.consumers ticket).cursor = (state.collector.receivers.streams ticket).length ∧
    (state.consumers ticket).batch = []

structure Reading (state : State) : Prop where
  reads : ∀ ticket, Reads (state.collector.receivers.streams ticket) (state.consumers ticket)
  settled : ∀ ticket, (state.consumers ticket).ended = true → Settled state ticket

theorem reading_initial : Reading {} where
  reads _ := .initial _
  settled _ ended := by cases ended

theorem Transition.streams_append (locking : Locking state)
    (move : Transition env state label next) (ticket : Ticket) :
    ∃ more, next.collector.receivers.streams ticket =
      state.collector.receivers.streams ticket ++ more := by
  cases move with
  | @begins choice message rest progress phase incoming collects =>
    rcases begins_channel rest phase collects with carries | unheard
    · exact ⟨_, carries.2 ticket⟩
    · exact ⟨[], by rw [unheard.2, List.append_nil]⟩
  | completes phase collects =>
    rcases completes_channel env locking phase collects with ⟨-, carries⟩ | unheard
    · exact ⟨_, carries.2 ticket⟩
    · exact ⟨[], by rw [unheard.2, List.append_nil]⟩
  | listenerFinished phase chosen => exact ⟨_, ResponseSink.settle_streams ..⟩
  | _ => exact ⟨[], (List.append_nil _).symm⟩

variable {ticket : Ticket}

theorem Settled.kept (settled : Settled state ticket) (sound : Sound env state)
    (move : Transition env state label next)
    (same : next.consumers ticket = state.consumers ticket) : Settled next ticket := by
  obtain ⟨⟨query, called⟩, released, read, empty⟩ := settled
  refine ⟨⟨query, (move.grows sound.wiring).calls _ _ called⟩,
    move.released called released, ?_, ?_⟩
  · rw [same, move.streams_released sound.locking released, read]
  · rw [same, empty]

theorem Reading.kept (held : Reading state) (sound : Sound env state)
    (move : Transition env state label next)
    (same : next.consumers ticket = state.consumers ticket) :
    Reads (next.collector.receivers.streams ticket) (next.consumers ticket) ∧
      ((next.consumers ticket).ended = true → Settled next ticket) := by
  obtain ⟨more, grown⟩ := move.streams_append sound.locking ticket
  refine ⟨?_, fun ended => ?_⟩
  · rw [grown, same]
    exact (held.reads ticket).extend more
  · exact (held.settled ticket (same ▸ ended)).kept sound move same

theorem Reading.update (held : Reading state) (sound : Sound env state)
    (move : Transition env state label next) {consumer : Consumer}
    (moved : next.consumers = Function.update state.consumers ticket consumer)
    (reads : Reads (next.collector.receivers.streams ticket) consumer)
    (settled : consumer.ended = true → Settled next ticket) : Reading next := by
  constructor
  · intro other
    by_cases same : other = ticket
    · subst same
      rw [moved, Function.update_self]
      exact reads
    · exact (held.kept sound move (by rw [moved, Function.update_of_ne same])).1
  · intro other
    by_cases same : other = ticket
    · subst same
      rw [moved, Function.update_self]
      exact settled
    · exact (held.kept sound move (by rw [moved, Function.update_of_ne same])).2

theorem resolve_ended_cursor (consumer : Consumer) (answer : Result QueryAnswer) :
    (consumer.resolve answer).ended = consumer.ended ∧
      (consumer.resolve answer).cursor = consumer.cursor := by
  rcases answer with cause | (queryType | header) <;> exact ⟨rfl, rfl⟩

theorem poll_ended_cursor (debug : DebugText) (consumer : Consumer)
    (item : Option (Result TransactionResponse)) :
    (item.elim consumer (consumer.receive debug)).ended = consumer.ended ∧
      (item.elim consumer (consumer.receive debug)).cursor = consumer.cursor := by
  obtain ⟨cursor, phase, batch, yielded, ended⟩ := consumer
  cases item with
  | none => exact ⟨rfl, rfl⟩
  | some item =>
    cases phase with
    | awaitingHeader => exact resolve_ended_cursor _ _
    | streaming header => exact ⟨rfl, rfl⟩
    | resolved answer => exact ⟨rfl, rfl⟩

theorem finish_cursor_batch (debug : DebugText) (consumer : Consumer) :
    (consumer.finish debug).cursor = consumer.cursor ∧
      (consumer.finish debug).batch = consumer.batch := by
  obtain ⟨cursor, phase, batch, yielded, ended⟩ := consumer
  cases phase <;> exact ⟨rfl, rfl⟩

theorem Transition.reading (sound : Sound env state) (held : Reading state)
    (move : Transition env state label next) : Reading next := by
  have step := move
  cases move with
  | @yielded ticket query answer rest called unresolved batch =>
    refine held.update sound step rfl ((held.reads ticket).yield batch) fun ended => ?_
    obtain ⟨-, -, -, empty⟩ := held.settled ticket ended
    cases empty.symm.trans batch
  | @polled ticket query response called unresolved batch running next =>
    refine held.update sound step rfl
      ((held.reads ticket).poll env.debug state.accepting batch unresolved next) fun ended => ?_
    cases ((poll_ended_cursor _ _ _).1.symm.trans ended).symm.trans running
  | @exhausted ticket query called unresolved batch drained gone =>
    refine held.update sound step rfl ((held.reads ticket).finish env.debug) fun _ => ?_
    refine ⟨⟨query, called⟩, step.released called (released_of_senderAlive gone), ?_, ?_⟩
    · dsimp only
      rw [Function.update_self, (finish_cursor_batch _ _).1]
      exact Nat.le_antisymm (held.reads ticket).within (List.getElem?_eq_none_iff.mp drained)
    · dsimp only
      rw [Function.update_self, (finish_cursor_batch _ _).2, batch]
  | @begins choice message rest progress =>
    have same : (endSection { state with incoming := rest } message progress).consumers =
        state.consumers := by cases progress <;> rfl
    exact ⟨fun ticket => (held.kept sound step (congrFun same ticket)).1,
      fun ticket => (held.kept sound step (congrFun same ticket)).2⟩
  | @completes choice message rest progress =>
    have same : (endSection state message progress).consumers = state.consumers := by
      cases progress <;> rfl
    exact ⟨fun ticket => (held.kept sound step (congrFun same ticket)).1,
      fun ticket => (held.kept sound step (congrFun same ticket)).2⟩
  | _ =>
    exact ⟨fun ticket => (held.kept sound step rfl).1, fun ticket => (held.kept sound step rfl).2⟩

variable {requestId : RequestID} {chrono : Chrono}

theorem reaction_continue {message : Server}
    (member : .continue requestId ∈ (message.reaction chrono).items) :
    message.requestId = some requestId := by
  rcases message with ⟨_ | res | ⟨reqId, _ | queryRes | (_ | _ | _ | error)⟩⟩
  · cases member
  · cases decoded : TransactionResponse.tryFromProto res with
    | ok response =>
      cases response <;> simp [Server.reaction, Res.reaction, decoded, Reaction.items] at member
    | error cause => simp [Server.reaction, Res.reaction, decoded, Reaction.items] at member
    | panicked => simp [Server.reaction, Res.reaction, decoded, Reaction.items] at member
  · cases member
  · cases decoded : TransactionResponse.tryFromProtoPart chrono queryRes <;>
      simp [Server.reaction, ResPart.reaction, decoded, Reaction.items] at member
  · cases member
  · cases List.mem_singleton.mp member
    rfl
  · cases member
  · cases List.mem_singleton.mp member

variable {item : StreamResponse TransactionResponse}

theorem mem_transcript {messages : List Server}
    (member : item ∈ transcript chrono requestId messages) :
    ∃ message ∈ messages, message.requestId = some requestId ∧
      item ∈ (message.reaction chrono).items := by
  induction messages with
  | nil => cases member
  | cons message messages ih =>
    simp only [transcript] at member
    split_ifs at member with named ends
    · exact ⟨message, List.mem_cons_self, named, by simpa using member⟩
    · rcases List.mem_append.mp member with member | member
      · exact ⟨message, List.mem_cons_self, named, member⟩
      · obtain ⟨other, held, rest⟩ := ih member
        exact ⟨other, List.mem_cons_of_mem _ held, rest⟩
    · obtain ⟨other, held, rest⟩ := ih member
      exact ⟨other, List.mem_cons_of_mem _ held, rest⟩

variable {query : QueryRequest}

theorem Channels.source (channels : Channels env state)
    (dispatched : Dispatched state ticket (.query query) requestId)
    (member : item ∈ state.collector.receivers.streams ticket) (open' : item.isClosing = false) :
    ∃ message ∈ visible state, message.requestId = some requestId ∧
      item ∈ (message.reaction env.chrono).items := by
  obtain ⟨tail, carried, -, closing⟩ := channels.carried ticket query requestId dispatched
  rw [carried] at member
  rcases List.mem_append.mp member with member | member
  · exact mem_transcript member
  · cases (closing item member).symm.trans open'

/-- Every continue signal that a consumer passed is accounted for, and every request for
more belongs to one that was passed while the dispatch loop took requests. -/
structure Requesting (state : State) : Prop where
  passed : ∀ ticket, ((state.collector.receivers.streams ticket).take
      (state.consumers ticket).cursor).countP (·.isContinue) =
    state.passed.countP (·.1 == ticket)
  owned : ∀ requestId, .stream requestId ∈ state.enqueued →
    ∃ ticket, state.assigned ticket = some requestId
  enqueued : ∀ ticket requestId, state.assigned ticket = some requestId →
    state.enqueued.count (.stream requestId) = state.passed.count (ticket, true)

theorem requesting_initial : Requesting {} where
  passed _ := rfl
  owned _ member := by cases member
  enqueued _ _ assigned := by cases assigned

section

variable (held : Requesting state) (sound : Sound env state) (reading : Reading state)
    (move : Transition env state label next)
    (consumers : ∀ ticket, (next.consumers ticket).cursor = (state.consumers ticket).cursor)
    (passed : next.passed = state.passed)

include held sound reading move consumers passed

theorem Requesting.kept (ticket : Ticket) :
    ((next.collector.receivers.streams ticket).take (next.consumers ticket).cursor).countP
        (·.isContinue) = next.passed.countP (·.1 == ticket) := by
  obtain ⟨more, grown⟩ := move.streams_append sound.locking ticket
  rw [consumers, passed, grown, List.take_append_of_le_length (reading.reads ticket).within]
  exact held.passed ticket

theorem Requesting.frame (enqueued : next.enqueued = state.enqueued)
    (assigned : next.assigned = state.assigned) : Requesting next where
  passed := held.kept sound reading move consumers passed
  owned := by
    rw [enqueued, assigned]
    exact held.owned
  enqueued := by
    rw [enqueued, assigned, passed]
    exact held.enqueued

end

theorem Requesting.sent (held : Requesting state) {request : UserRequest}
    {queue : List (TransactionRequest × Option ResponseSink)} :
    Requesting { state with
      calls := state.calls.set ticket ⟨request, .sent⟩
      requestQueue := queue
      enqueued := state.enqueued ++ [request.toRequest] } := by
  have other : ∀ requestId, request.toRequest ≠ .stream requestId := by
    intro requestId
    cases request <;> rintro ⟨⟩
  refine ⟨held.passed, ?_, ?_⟩
  · intro requestId member
    rcases List.mem_append.mp member with member | member
    · exact held.owned requestId member
    · exact absurd (List.mem_singleton.mp member).symm (other requestId)
  · intro owner requestId assigned
    rw [List.count_append, List.count_singleton]
    simp [other, held.enqueued owner requestId assigned]

theorem Requesting.requestTaken (held : Requesting state) (sound : Sound env state)
    (channels : Channels env state) {fresh : RequestID} {request : TransactionRequest}
    {sink : ResponseSink} {rest : List (TransactionRequest × Option ResponseSink)}
    (queue : state.requestQueue = (request, some sink) :: rest) (new : state.mentions fresh = false)
    (grows : Grows state (state.take request sink rest fresh)) :
    Requesting (state.take request sink rest fresh) := by
  obtain ⟨owner, user, called, unassigned, rfl, rfl⟩ :=
    sound.wiring.queued request sink (by simp [queue])
  unfold State.take at grows ⊢
  refine ⟨held.passed, ?_, ?_⟩
  · intro requestId member
    obtain ⟨ticket, assigned⟩ := held.owned requestId member
    exact ⟨ticket, grows.assigned ticket requestId assigned⟩
  · intro ticket requestId assigned
    simp only [UserRequest.sink_ticket, Function.update_apply] at assigned
    split_ifs at assigned with same
    · cases assigned
      subst same
      have unused : state.enqueued.count (.stream fresh) = 0 := by
        refine List.count_eq_zero.mpr fun member => ?_
        obtain ⟨other, assigned⟩ := held.owned fresh member
        simp [mentions_of_assigned sound.wiring assigned] at new
      have unread : state.passed.countP (·.1 == ticket) = 0 := by
        rw [← held.passed ticket, channels.silent ticket unassigned]
        simp
      have never : state.passed.count (ticket, true) = 0 := by
        refine List.count_eq_zero.mpr fun member => ?_
        have differs := List.countP_eq_zero.mp unread _ member
        simp at differs
      exact unused.trans never.symm
    · exact held.enqueued ticket requestId assigned

theorem continue_requestId (channels : Channels env state)
    (called : state.calls[ticket]? = some ⟨.query query, .sent⟩)
    (member : .continue requestId ∈ state.collector.receivers.streams ticket) :
    state.assigned ticket = some requestId := by
  cases assigned : state.assigned ticket with
  | none =>
    rw [channels.silent ticket assigned] at member
    cases member
  | some own =>
    obtain ⟨message, -, named, item⟩ := channels.source ⟨called, assigned⟩ member rfl
    rw [← named, reaction_continue item]

theorem Requesting.polled (held : Requesting state) (sound : Sound env state)
    (channels : Channels env state) {response : StreamResponse TransactionResponse}
    (called : state.calls[ticket]? = some ⟨.query query, .sent⟩)
    (next : (state.collector.receivers.streams ticket)[(state.consumers ticket).cursor]? =
      some response) : Requesting (pollResponse env state ticket response) := by
  have moved : ∀ other, ((pollResponse env state ticket response).consumers other).cursor =
      (state.consumers other).cursor + if other = ticket then 1 else 0 := by
    intro other
    simp only [pollResponse, Function.update_apply]
    split_ifs with same
    · rw [(poll_ended_cursor _ _ _).2, same]
    · rfl
  have counted : ∀ other, ((state.collector.receivers.streams other).take
      ((pollResponse env state ticket response).consumers other).cursor).countP (·.isContinue) =
      state.passed.countP (·.1 == other) +
        if other = ticket then if response.isContinue then 1 else 0 else 0 := by
    intro other
    rw [moved, ← held.passed other]
    split_ifs with same continues
    · subst same
      rw [Reads.take_succ next, List.countP_append]
      simp [continues]
    · subst same
      rw [Reads.take_succ next, List.countP_append]
      simp [continues]
    · rfl
  cases response with
  | result item =>
    refine ⟨fun other => ?_, ?_, ?_⟩
    · exact (counted other).trans (by simp [StreamResponse.isContinue, pollResponse])
    · simpa [pollResponse, processResponse] using held.owned
    · simpa [pollResponse, processResponse] using held.enqueued
  | «continue» requestId =>
    have own := continue_requestId channels called (List.mem_of_getElem? next)
    have enqueued : (pollResponse env state ticket (.continue requestId)).enqueued =
        state.enqueued ++ if state.accepting then [.stream requestId] else [] := by
      simp only [pollResponse, processResponse]
      cases state.accepting <;> rfl
    have passed : (pollResponse env state ticket (.continue requestId)).passed =
        state.passed ++ [(ticket, state.accepting)] := rfl
    refine ⟨fun other => ?_, ?_, ?_⟩
    · refine (counted other).trans ?_
      by_cases same : other = ticket
      · simp [StreamResponse.isContinue, pollResponse, same, List.countP_append]
      · have differs : ticket ≠ other := fun equal => same equal.symm
        simp [pollResponse, same, differs, List.countP_append]
    · intro other member
      rw [enqueued] at member
      rcases List.mem_append.mp member with member | member
      · exact held.owned other member
      · split_ifs at member
        · cases List.mem_singleton.mp member
          exact ⟨ticket, own⟩
        · cases member
    · intro other otherId assigned
      have same : requestId = otherId ↔ ticket = other := by
        constructor
        · intro identical
          subst identical
          exact sound.wiring.distinct ticket other requestId own assigned
        · intro identical
          subst identical
          exact Option.some.inj (own.symm.trans assigned)
      have earlier := held.enqueued other otherId assigned
      rw [enqueued, passed, List.count_append, List.count_append, earlier]
      cases state.accepting <;> simp [List.count_singleton, same]

theorem Transition.requesting (sound : Sound env state) (channels : Channels env state)
    (reading : Reading state) (held : Requesting state)
    (move : Transition env state label next) : Requesting next := by
  have step := move
  have grows := move.grows sound.wiring
  cases move with
  | sent => exact held.sent
  | requestTaken phase queue new => exact held.requestTaken sound channels queue new grows
  | polled called unresolved batch running next => exact held.polled sound channels called next
  | @yielded ticket query answer rest =>
    refine held.frame sound reading step (fun other => ?_) rfl rfl rfl
    simp only [Function.update_apply]
    split_ifs with same
    · rw [same]
      rfl
    · rfl
  | @exhausted ticket query =>
    refine held.frame sound reading step (fun other => ?_) rfl rfl rfl
    simp only [Function.update_apply]
    split_ifs with same
    · rw [same, (finish_cursor_batch _ _).1]
    · rfl
  | @begins choice message rest progress | @completes choice message rest progress =>
    cases progress <;> exact held.frame sound reading step (fun _ => rfl) rfl rfl rfl
  | _ => exact held.frame sound reading step (fun _ => rfl) rfl rfl rfl

structure Consumers (env : Environment) (state : State) : Prop where
  channels : Channels env state
  reading : Reading state
  requesting : Requesting state

theorem consumers_initial (env : Environment) : Consumers env {} :=
  ⟨channels_initial env, reading_initial, requesting_initial⟩

theorem Transition.consumers (sound : Sound env state) (held : Consumers env state)
    (move : Transition env state label next) : Consumers env next :=
  ⟨move.channels sound held.channels, move.reading sound held.reading,
    move.requesting sound held.channels held.reading held.requesting⟩

theorem consumers_run {labels : List Label} (ran : (system env).run {} labels = some state) :
    Sound env state ∧ Consumers env state := by
  have meets : (system env).Meets (fun _ _ => True) {} labels :=
    TransitionSystem.meets_of_forall (fun _ _ => trivial) _ labels
  exact sound_run_invariant (fun sound held _ move => move.consumers sound held)
    (consumers_initial env) meets ran

end Transmitter

end TypeDBDriver
