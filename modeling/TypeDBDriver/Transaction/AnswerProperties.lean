import TypeDBDriver.Network.HonestServer
import TypeDBDriver.Transaction.ConsumerProperties

/-! What a user sees of a query: the answers that its answer stream yields, compared with
the parts that the server sent for the query. -/

namespace TypeDBDriver

open Library
open Proto.Transaction (Server Res ResPart)
open TransactionResponse (tryFromProto tryFromProtoPart)

namespace Proto.Transaction.Server

/-- An initial response that decodes, or a part with everything that its kind requires. -/
def regular (message : Server) : Bool :=
  match message.server with
  | some (.res res) =>
    match tryFromProto res with
    | .ok (.query _) => true
    | _ => false
  | some (.resPart part) => part.wellFormed
  | none => true

def answers (chrono : Chrono) (header : AnswerHeader) (requestId : RequestID) (message : Server) :
    List Answer :=
  match message.server with
  | some (.resPart ⟨reqId, some (.queryRes queryRes)⟩) =>
    if requestId = ⟨reqId⟩ then
      match tryFromProtoPart chrono queryRes with
      | .ok (.query response) => header.answers response
      | _ => []
    else []
  | _ => []

end Proto.Transaction.Server

/-- The answers of the parts that carry the id of a query and arrived before the end of its
stream. -/
def arrivedAnswers (chrono : Chrono) (header : AnswerHeader) (requestId : RequestID)
    (messages : List Server) : List Answer :=
  (messages.takeWhile fun message => !message.closes requestId).flatMap fun message =>
    message.answers chrono header requestId

namespace Transmitter

variable {env : Environment} {state next : State} {label : Label}

theorem answers_of_initialRes {res : Res} {response : QueryResponse}
    (decoded : tryFromProto res = .ok (.query response))
    (header : AnswerHeader) : header.answers response = [] := by
  rcases res with ⟨reqId, _ | _ | _ | _ | ⟨_ | (error | (_ | inner))⟩⟩
  · cases decoded
  · cases decoded
  · cases decoded
  · cases decoded
  · cases decoded
  · cases decoded
    cases header <;> rfl
  · cases decoded
  · cases inner with
    | done queryType | conceptDocumentStream queryType | conceptRowStream columns queryType =>
      cases parsed : QueryType.tryFromProto queryType with
      | ok value =>
        simp only [tryFromProto, QueryResponse.tryFromProtoOk, parsed]
          at decoded
        cases decoded
        cases header <;> rfl
      | error cause =>
        simp only [tryFromProto, QueryResponse.tryFromProtoOk, parsed]
          at decoded
        cases decoded
      | panicked =>
        simp only [tryFromProto, QueryResponse.tryFromProtoOk, parsed]
          at decoded
        cases decoded

variable {requestId : RequestID} {message : Server}

section

variable (chrono : Chrono) (header : AnswerHeader)

include chrono header

theorem answers_unnamed (unnamed : message.requestId ≠ some requestId) :
    message.closes requestId = false ∧ message.answers chrono header requestId = [] := by
  rcases message with ⟨_ | res | ⟨reqId, _ | queryRes | (_ | _ | _ | error)⟩⟩
  · exact ⟨rfl, rfl⟩
  · exact ⟨rfl, rfl⟩
  · exact ⟨rfl, rfl⟩
  · have differs : requestId ≠ ⟨reqId⟩ := by
      intro same
      subst same
      exact unnamed rfl
    exact ⟨rfl, by simp [Server.answers, differs]⟩
  · exact ⟨rfl, rfl⟩
  · exact ⟨rfl, rfl⟩
  · have differs : requestId ≠ ⟨reqId⟩ := by
      intro same
      subst same
      exact unnamed rfl
    exact ⟨by simp [Server.closes, differs], rfl⟩
  · have differs : requestId ≠ ⟨reqId⟩ := by
      intro same
      subst same
      exact unnamed rfl
    exact ⟨by simp [Server.closes, differs], rfl⟩

theorem answers_named (named : message.requestId = some requestId)
    (regular : message.regular = true) :
    message.closes requestId = (message.reaction chrono).ends ∧
      (message.reaction chrono).items.flatMap header.answersOf =
        message.answers chrono header requestId := by
  rcases message with ⟨_ | res | ⟨reqId, _ | queryRes | (_ | _ | _ | error)⟩⟩
  · cases named
  · simp only [Server.regular] at regular
    split at regular
    case h_1 response decoded =>
      simp [Server.closes, Server.reaction, Res.reaction, decoded, Reaction.ends, Reaction.items,
        AnswerHeader.answersOf, Server.answers, answers_of_initialRes decoded header]
    case h_2 => cases regular
  · cases regular
  · cases named
    cases decoded : tryFromProtoPart chrono queryRes with
    | ok response =>
      cases response <;>
        simp [Server.closes, Server.reaction, ResPart.reaction, decoded, Reaction.ends,
          Reaction.items, AnswerHeader.answersOf, Server.answers]
    | error cause | panicked =>
      simp [Server.closes, Server.reaction, ResPart.reaction, decoded, Reaction.ends,
        Reaction.items, Server.answers]
  · cases regular
  · exact ⟨rfl, rfl⟩
  · cases named
    exact ⟨by simp [Server.closes, Server.reaction, ResPart.reaction, Reaction.ends], rfl⟩
  · cases named
    refine ⟨by simp [Server.closes, Server.reaction, ResPart.reaction, Reaction.ends], ?_⟩
    cases header <;> rfl

theorem answers_of_closes (closes : message.closes requestId = true) :
    message.answers chrono header requestId = [] := by
  rcases message with ⟨_ | res | ⟨reqId, _ | queryRes | state⟩⟩
  · rfl
  · rfl
  · rfl
  · cases closes
  · rfl

theorem transcript_answers {messages : List Server}
    (regular : ∀ message ∈ messages, message.requestId = some requestId → message.regular = true) :
    (transcript chrono requestId messages).flatMap header.answersOf =
      arrivedAnswers chrono header requestId messages := by
  induction messages with
  | nil => rfl
  | cons message messages ih =>
    have rest := ih fun other member => regular other (List.mem_cons_of_mem _ member)
    by_cases named : message.requestId = some requestId
    · obtain ⟨closes, brings⟩ :=
        answers_named chrono header named (regular message List.mem_cons_self named)
      rw [transcript, if_pos named, List.flatMap_append, brings, arrivedAnswers,
        List.takeWhile_cons, ← closes]
      cases closing : message.closes requestId with
      | true => simp [answers_of_closes chrono header closing]
      | false => simpa [arrivedAnswers] using rest
    · obtain ⟨closes, brings⟩ := answers_unnamed chrono header named
      rw [transcript, if_neg named, rest, arrivedAnswers, arrivedAnswers, List.takeWhile_cons,
        closes]
      simp [brings]

end

theorem answersOf_closing {item : StreamResponse TransactionResponse}
    (closing : item.isClosing = true) (header : AnswerHeader) : header.answersOf item = [] := by
  rcases item with (cause | response) | requestId
  · rfl
  · cases response with
    | query => cases closing
    | «open» | commit | rollback | close => rfl
  · rfl

theorem partInHand_cases (locking : Locking state) :
    state.listen.partInHand = [] ∨
      ∃ reqId error, state.listen.partInHand = [.streamError reqId error] := by
  cases phase : state.listen with
  | collecting message rest =>
    cases locking.resumable message rest phase with
    | completing res => exact .inl rfl
    | unregistering reqId error => exact .inr ⟨reqId, error, rfl⟩
  | _ => exact .inl rfl

theorem visible_answers (locking : Locking state) (chrono : Chrono) (requestId : RequestID)
    (header : AnswerHeader) :
    (transcript chrono requestId (visible state)).flatMap header.answersOf =
      (transcript chrono requestId state.collected).flatMap header.answersOf := by
  rcases partInHand_cases locking with none | ⟨reqId, error, part⟩
  · rw [visible, none, List.append_nil]
  · rw [visible, part]
    by_cases ended : Ended chrono state.collected requestId
    · rw [transcript_append_ended ended]
    · rw [transcript_append ended, transcript_singleton, List.flatMap_append]
      split_ifs
      · cases header <;> exact List.append_nil _
      · exact List.append_nil _

variable {ticket : Ticket} {query : QueryRequest}

theorem channel_answers (locking : Locking state) (channels : Channels env state)
    (dispatched : Dispatched state ticket (.query query) requestId) (header : AnswerHeader)
    (regular : ∀ message ∈ state.collected, message.requestId = some requestId →
      message.regular = true) :
    (state.collector.receivers.streams ticket).flatMap header.answersOf =
      arrivedAnswers env.chrono header requestId state.collected := by
  obtain ⟨tail, carried, -, closing⟩ := channels.carried ticket query requestId dispatched
  have nothing : tail.flatMap header.answersOf = [] :=
    List.flatMap_eq_nil_iff.mpr fun item member => answersOf_closing (closing item member) header
  rw [carried, List.flatMap_append, nothing, List.append_nil, visible_answers locking,
    transcript_answers _ _ regular]

theorem tryFromProtoPart_ne_header (chrono : Chrono) (proto : Proto.Query.ResPart)
    (header : AnswerHeader) : tryFromProtoPart chrono proto ≠ .ok (.query header.response) := by
  rcases proto with ⟨_ | documents | rows⟩
  · simp [tryFromProtoPart]
  · cases converted : Outcome.traverse (ConceptDocument.tryFromProto chrono) documents <;>
      cases header <;>
        simp [tryFromProtoPart, QueryResponse.tryFromProtoPart, converted, AnswerHeader.response]
  · cases converted : Outcome.traverse (ConceptRow.tryFromProto chrono) rows <;>
      cases header <;>
        simp [tryFromProtoPart, QueryResponse.tryFromProtoPart, converted, AnswerHeader.response]

variable {header : AnswerHeader}

theorem header_reaction {chrono : Chrono}
    (member : .result (.ok (.query header.response)) ∈ (message.reaction chrono).items) :
    ∃ res, message = ⟨some (.res res)⟩ ∧
      tryFromProto res = .ok (.query header.response) := by
  rcases message with ⟨_ | res | ⟨reqId, _ | queryRes | (_ | _ | _ | error)⟩⟩
  · cases member
  · cases decoded : tryFromProto res with
    | ok response =>
      refine ⟨res, rfl, decoded.trans ?_⟩
      cases response <;>
        simp [Server.reaction, Res.reaction, decoded, Reaction.items] at member
      rw [member]
    | error cause => simp [Server.reaction, Res.reaction, decoded, Reaction.items] at member
    | panicked => simp [Server.reaction, Res.reaction, decoded, Reaction.items] at member
  · cases member
  · cases decoded : tryFromProtoPart chrono queryRes with
    | ok response =>
      simp only [Server.reaction, ResPart.reaction, decoded, Reaction.items,
        List.mem_singleton, StreamResponse.result.injEq, Except.ok.injEq] at member
      rw [← member] at decoded
      exact absurd decoded (tryFromProtoPart_ne_header chrono queryRes header)
    | error cause => simp [Server.reaction, ResPart.reaction, decoded, Reaction.items] at member
    | panicked => simp [Server.reaction, ResPart.reaction, decoded, Reaction.items] at member
  · cases member
  · cases List.mem_singleton.mp member
  · cases member
  · cases header <;> cases List.mem_singleton.mp member

theorem header_source (locking : Locking state) (channels : Channels env state)
    (reading : Reading state) (dispatched : Dispatched state ticket (.query query) requestId)
    (streaming : (state.consumers ticket).phase = .streaming header) :
    ∃ res : Res, (⟨some (.res res)⟩ : Server) ∈ state.collected ∧ res.reqId = requestId.bytes ∧
      tryFromProto res = .ok (.query header.response) := by
  have opened := ((reading.reads ticket).streaming header streaming).1
  obtain ⟨message, member, named, item⟩ :=
    channels.source dispatched (List.mem_of_mem_take opened) rfl
  obtain ⟨res, rfl, decoded⟩ := header_reaction item
  cases named
  refine ⟨res, ?_, rfl, decoded⟩
  rcases List.mem_append.mp member with member | inHand
  · exact member
  · rcases partInHand_cases locking with none | ⟨reqId, error, part⟩
    · simp [none] at inHand
    · simp [part] at inHand

def openedQueryRun : List Label :=
  requestRun 0 (.query ⟨"match $x isa person;", {}⟩) ⟨[7]⟩ ++
    [.serverSend ⟨some (.res ⟨[7], some (.queryInitialRes
      ⟨some (.ok (some (.conceptRowStream ["x"] 0)))⟩)⟩)⟩, .listen 0, .listen 0, .poll 0]

def partStep (part : Option Proto.Transaction.ResPartInner) : List Label :=
  [.serverSend ⟨some (.resPart ⟨[7], part⟩)⟩, .listen 0]

def rowStep : List Label :=
  partStep (some (.queryRes ⟨some (.rowsRes [⟨[⟨some .empty⟩]⟩])⟩))

def answeredQueryRun : List Label :=
  openedQueryRun ++ rowStep ++ partStep (some (.streamRes (some .done))) ++
    List.replicate 3 (.poll 0)

/-- The consumer comes to a continue signal after the dispatch loop was shut down. -/
def lateContinueRun : List Label :=
  openedQueryRun ++ partStep (some (.streamRes (some .continue))) ++
    [.connectionForceClose, .dispatch ⟨[]⟩, .poll 0]

end Transmitter

end TypeDBDriver
