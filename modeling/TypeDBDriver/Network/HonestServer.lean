import TypeDBDriver.Network.TransmitterInvariant

/-! A server that answers only what it was asked, each request by its kind. Against such
a server the listener meets neither an unknown id nor a sink of the wrong kind. -/

namespace TypeDBDriver

open Library
open Proto.Transaction (Server Client Req Res ResPart)
open ResponseCollector (Begins Completes)

namespace Proto.Transaction

def Req.isQuery (req : Req) : Bool :=
  match req.req with
  | some (.queryReq _ _) => true
  | _ => false

def Req.expectsAnswer (req : Req) : Bool :=
  match req.req with
  | some .commitReq | some .rollbackReq | some (.queryReq _ _) => true
  | _ => false

def Res.answers (res : Res) (req : Req) : Bool :=
  res.reqId == req.reqId &&
    match req.req, res.res with
    | some .commitReq, some .commitRes => true
    | some .rollbackReq, some .rollbackRes => true
    | some (.queryReq _ _), some (.queryInitialRes _) => true
    | _, _ => false

variable {req : Req}

theorem Req.expectsAnswer_of_isQuery (query : req.isQuery = true) : req.expectsAnswer = true := by
  unfold Req.isQuery at query
  unfold Req.expectsAnswer
  split at query <;> simp_all

theorem Res.answers_spec {res : Res} (answers : res.answers req = true) :
    res.reqId = req.reqId ∧ req.expectsAnswer = true ∧
      ((∃ item, res.reaction = .emit item) → req.isQuery = true) := by
  rcases req with ⟨reqId, kind⟩
  rcases res with ⟨resId, inner⟩
  simp only [Res.answers, Bool.and_eq_true, beq_iff_eq] at answers
  obtain ⟨same, kinds⟩ := answers
  split at kinds
  case h_1 | h_2 =>
    refine ⟨same, rfl, ?_⟩
    intro given
    obtain ⟨item, reacts⟩ := given
    cases reacts
  case h_3 => exact ⟨same, rfl, fun _ => rfl⟩
  case h_4 => cases kinds

theorem Res.reaction_ne_fail (res : Res) (item : StreamResponse TransactionResponse) :
    res.reaction ≠ .fail item := by
  unfold Res.reaction
  split <;> simp

def ResPart.wellFormed (part : ResPart) : Bool :=
  match part.resPart with
  | some (.queryRes _) | some (.streamRes (some _)) => true
  | _ => false

namespace Server

def opens (requestId : RequestID) (message : Server) : Bool :=
  match message.server with
  | some (.res res) =>
    requestId == ⟨res.reqId⟩ &&
      match TransactionResponse.tryFromProto res with
      | .ok (.query _) => true
      | _ => false
  | _ => false

def closes (requestId : RequestID) (message : Server) : Bool :=
  match message.server with
  | some (.resPart ⟨reqId, some (.streamRes (some .done))⟩)
  | some (.resPart ⟨reqId, some (.streamRes (some (.error _)))⟩) => requestId == ⟨reqId⟩
  | _ => false

/-- What a server may send after it has received `delivered` and sent `earlier`: one
response to each request, and for a query parts between its initial response and the end
of its stream. -/
def conforms (delivered : List Req) (earlier : List Server) (message : Server) : Bool :=
  match message.server with
  | some (.res res) =>
    delivered.any res.answers && earlier.all fun sent => sent.requestId != some ⟨res.reqId⟩
  | some (.resPart part) =>
    delivered.any (fun req => req.reqId == part.reqId && req.isQuery) &&
      earlier.any (opens ⟨part.reqId⟩) && earlier.all (fun sent => !closes ⟨part.reqId⟩ sent) &&
      part.wellFormed
  | none => false

variable {message : Server}

theorem conforms_mono {delivered delivered' : List Req} (subset : delivered ⊆ delivered')
    {earlier : List Server} (conforms : message.conforms delivered earlier = true) :
    message.conforms delivered' earlier = true := by
  have mono : ∀ answered : Req → Bool, delivered.any answered = true →
      delivered'.any answered = true := by
    intro answered
    simp only [List.any_eq_true]
    intro given
    obtain ⟨req, member, holds⟩ := given
    exact ⟨req, subset member, holds⟩
  rcases message with ⟨_ | res | part⟩
  · exact conforms
  · simp only [Server.conforms, Bool.and_eq_true] at conforms ⊢
    exact ⟨mono _ conforms.1, conforms.2⟩
  · simp only [Server.conforms, Bool.and_eq_true] at conforms ⊢
    exact ⟨⟨⟨mono _ conforms.1.1.1, conforms.1.1.2⟩, conforms.1.2⟩, conforms.2⟩

theorem response_of_opens (chrono : Chrono) {requestId : RequestID}
    (opened : opens requestId message = true) :
    ∃ res : Res, message = ⟨some (.res res)⟩ ∧ requestId = ⟨res.reqId⟩ ∧
      (message.reaction chrono).ends = false := by
  rcases message with ⟨_ | res | part⟩
  · simp [opens] at opened
  · simp only [opens, Bool.and_eq_true, beq_iff_eq] at opened
    obtain ⟨same, decodes⟩ := opened
    split at decodes
    case h_1 response decoded =>
      exact ⟨res, rfl, same, by simp [reaction, Res.reaction, decoded, Reaction.ends]⟩
    case h_2 => simp at decodes
  · simp [opens] at opened

variable {part : ResPart}

theorem report_of_wellFormed {chrono : Chrono} {report : Option TypeDBDriver.Error}
    (wellFormed : part.wellFormed = true) (reacts : part.reaction chrono = .remove report) :
    report = none := by
  rcases part with ⟨reqId, _ | queryRes | (_ | _ | _ | error)⟩
  · simp [ResPart.wellFormed] at wellFormed
  · cases decoded : TransactionResponse.tryFromProtoPart chrono queryRes <;>
      simp [ResPart.reaction, decoded] at reacts
  · simp [ResPart.wellFormed] at wellFormed
  · cases reacts
  · cases reacts
    rfl
  · cases reacts

theorem closes_of_ends (chrono : Chrono) (wellFormed : part.wellFormed = true)
    (ends : (part.reaction chrono).ends = true) :
    closes ⟨part.reqId⟩ ⟨some (.resPart part)⟩ = true := by
  rcases part with ⟨reqId, _ | queryRes | (_ | _ | _ | error)⟩
  · simp [ResPart.wellFormed] at wellFormed
  · cases decoded : TransactionResponse.tryFromProtoPart chrono queryRes <;>
      simp [ResPart.reaction, decoded, Reaction.ends] at ends
  · simp [ResPart.wellFormed] at wellFormed
  · simp [ResPart.reaction, Reaction.ends] at ends
  · simp [closes]
  · simp [closes]

end Server

end Proto.Transaction

namespace Transmitter

variable {env : Environment} {state next : State} {label : Label}

def departing (state : State) : List Req :=
  match state.dispatch with
  | .registering request _ | .buffering request => [request]
  | _ => []

def issued (state : State) : List Req := departing state ++ outgoing state

def expected (requests : List Req) : List Bytes :=
  (requests.filter (·.expectsAnswer)).map (·.reqId)

structure Issued (state : State) : Prop where
  distinct : (expected (issued state)).Nodup
  wired : ∀ req ∈ issued state, req.expectsAnswer = true →
    ∃ ticket user requestId, Dispatched state ticket user requestId ∧
      req = user.toRequest.intoProto requestId

theorem expected_append (requests others : List Req) :
    expected (requests ++ others) = expected requests ++ expected others := by
  simp [expected]

variable {req : Req} {requests : List Req}

theorem mem_expected (member : req ∈ requests) (expects : req.expectsAnswer = true) :
    req.reqId ∈ expected requests :=
  List.mem_map_of_mem (List.mem_filter.mpr ⟨member, expects⟩)

theorem expected_perm {others : List Req} (perm : requests.Perm others) :
    (expected requests).Perm (expected others) :=
  (perm.filter _).map _

theorem Issued.subperm (held : Issued state) (grows : Grows state next)
    (subperm : (issued next).Subperm (issued state)) : Issued next := by
  constructor
  · obtain ⟨middle, perm, sublist⟩ := subperm
    refine (expected_perm perm).nodup_iff.mp (held.distinct.sublist ?_)
    exact (sublist.filter _).map _
  · intro req member expects
    obtain ⟨ticket, user, requestId, dispatched, same⟩ :=
      held.wired req (subperm.subset member) expects
    exact ⟨ticket, user, requestId, dispatched.grows grows, same⟩

theorem issued_initial : Issued {} := ⟨List.nodup_nil, fun _ member => by cases member⟩

variable {fresh : RequestID} {request : TransactionRequest}
    {rest : List (TransactionRequest × Option ResponseSink)}

theorem Issued.requestTaken (held : Issued state) (wiring : Wiring env state) {sink : ResponseSink}
    (phase : state.dispatch = .draining) (queue : state.requestQueue = (request, some sink) :: rest)
    (new : state.mentions fresh = false)
    (grows : Grows state (state.take request sink rest fresh)) :
    Issued (state.take request sink rest fresh) := by
  obtain ⟨ticket, user, called, unassigned, rfl, rfl⟩ :=
    wiring.queued request sink (by simp [queue])
  unfold State.take at grows ⊢
  have before : issued state = outgoing state := by simp [issued, departing, phase]
  constructor
  · have distinct := held.distinct
    rw [before] at distinct
    change (expected (user.toRequest.intoProto fresh :: outgoing state)).Nodup
    simp only [expected, List.filter_cons]
    split_ifs
    · refine List.nodup_cons.mpr ⟨?_, distinct⟩
      intro member
      obtain ⟨req, member, same⟩ := List.mem_map.mp member
      exact (not_mentions new).1 req (List.mem_of_mem_filter member)
        (same.trans (UserRequest.intoProto_reqId user fresh))
    · exact distinct
  · intro req member expects
    rcases List.mem_cons.mp member with rfl | member
    · exact ⟨ticket, user, fresh, ⟨called, by simp⟩, rfl⟩
    · obtain ⟨owner, other, requestId, dispatched, same⟩ :=
        held.wired req (by rw [before]; exact member) expects
      exact ⟨owner, other, requestId, dispatched.grows grows, same⟩

theorem Issued.streamTaken (held : Issued state) (wiring : Wiring env state)
    (phase : state.dispatch = .draining) (queue : state.requestQueue = (request, none) :: rest) :
    Issued { state with
      requestQueue := rest, dispatch := .buffering (request.intoProto fresh) } := by
  obtain ⟨requestId, rfl⟩ := wiring.streams request (by simp [queue])
  have before : issued state = outgoing state := by simp [issued, departing, phase]
  constructor
  · have distinct := held.distinct
    rw [before] at distinct
    exact distinct
  · intro req member expects
    rcases List.mem_cons.mp member with rfl | member
    · cases expects
    · exact held.wired req (by rw [before]; exact member) expects

theorem leaveDispatch_issued (state : State) {phase : DispatchPhase}
    (finished : phase.isOver = true) :
    (issued (leaveDispatch state phase)).Subperm (issued state) := by
  have departed : departing (leaveDispatch state phase) = [] := by
    cases phase <;> first | rfl | cases finished
  rw [issued, departed, List.nil_append]
  simp only [issued, outgoing, leaveDispatch, List.nil_append]
  refine List.Sublist.subperm ?_
  exact ((List.sublist_append_right _ _).append_right _).trans (List.sublist_append_right _ _)

theorem forward_issued (state : State) : (issued (forward state)).Perm (issued state) := by
  refine List.perm_iff_count.mpr fun req => ?_
  simp only [issued, departing, outgoing, forward, List.flatMap_append, List.flatMap_cons,
    List.flatMap_nil, List.append_nil, List.nil_append, List.count_append]
  omega

theorem pushRequest_issued (state : State) {request : Req}
    (phase : state.dispatch = .buffering request) :
    (issued (pushRequest env request state)).Perm (issued state) := by
  refine List.perm_iff_count.mpr fun req => ?_
  simp only [issued, departing, phase, outgoing, pushRequest, List.nil_append, List.count_append]
  omega

theorem delivered_issued (state : State) {client : Client} {rest : List Client}
    (next : state.inFlight = client :: rest) :
    (issued { state with inFlight := rest, delivered := state.delivered ++ client.reqs }).Perm
      (issued state) := by
  refine List.perm_iff_count.mpr fun req => ?_
  simp only [issued, departing, outgoing, next, List.flatMap_cons, List.count_append]
  omega

theorem Transition.issued (sound : Sound env state) (held : Issued state)
    (move : Transition env state label next) : Issued next := by
  have grows := move.grows sound.wiring
  cases move with
  | requestTaken phase queue new => exact held.requestTaken sound.wiring phase queue new grows
  | streamTaken phase queue => exact held.streamTaken sound.wiring phase queue
  | stopped | dispatchPanicked => exact held.subperm grows (leaveDispatch_issued state rfl)
  | stoppedForwarding =>
    exact held.subperm grows ((leaveDispatch_issued (forward state) rfl).trans
      (forward_issued state).subperm)
  | noSignal phase | noCallback phase | callbackTaken phase | callbackPushed phase | drained phase
    | flushed phase | registered phase =>
      refine held.subperm grows (List.Perm.of_eq ?_).subperm
      simp [Transmitter.issued, departing, outgoing, phase]
  | buffered phase => exact held.subperm grows (pushRequest_issued state phase).subperm
  | bufferedForwarding phase =>
    exact held.subperm grows
      ((pushRequest_issued (forward state) phase).trans (forward_issued state)).subperm
  | flushedForwarding phase =>
    refine held.subperm grows ((List.Perm.of_eq ?_).trans (forward_issued state)).subperm
    simp [Transmitter.issued, departing, outgoing, forward, phase]
  | delivered next => exact held.subperm grows (delivered_issued state next).subperm
  | @begins choice message rest progress =>
    cases progress <;> exact held.subperm grows (List.Subperm.refl _)
  | @completes choice message rest progress =>
    cases progress <;> exact held.subperm grows (List.Subperm.refl _)
  | _ => exact held.subperm grows (List.Subperm.refl _)

def honest (state : State) : Label → Bool
  | .serverSend message => message.conforms state.delivered state.sent
  | _ => true

def HonestHistory (state : State) : Prop :=
  ∀ before message after, state.sent = before ++ message :: after →
    message.conforms state.delivered before = true

theorem Transition.honestHistory (held : HonestHistory state) (allowed : honest state label = true)
    (move : Transition env state label next) : HonestHistory next := by
  cases move with
  | @serverSent message =>
    intro before sent after split
    dsimp only at split
    rcases List.eq_nil_or_concat after with rfl | ⟨middle, last, rfl⟩
    · obtain ⟨rfl, ⟨⟩⟩ := List.append_inj' split rfl
      exact allowed
    · have split' : state.sent ++ [message] = (before ++ sent :: middle) ++ [last] := by
        simpa using split
      exact held before sent middle (List.append_inj' split' rfl).1
  | delivered next =>
    intro before message after split
    exact Server.conforms_mono (List.subset_append_left _ _) (held before message after split)
  | @begins choice message rest progress => cases progress <;> exact held
  | @completes choice message rest progress => cases progress <;> exact held
  | _ => exact held

variable {message : Server}

theorem HonestHistory.collected (held : HonestHistory state) (arrival : Arrival state)
    {before after : List Server} (split : state.collected = before ++ message :: after) :
    message.conforms state.delivered before = true := by
  obtain ⟨rest, sent⟩ := arrival.ordered
  refine held before message (after ++ state.listen.inHand ++ state.incoming ++ rest) ?_
  rw [← sent, split]
  simp

theorem HonestHistory.current (held : HonestHistory state) (arrival : Arrival state)
    (current : currentMessage state = some message) :
    message.conforms state.delivered state.collected = true := by
  obtain ⟨after, sent⟩ := arrival.current_split current
  exact held _ message after sent.symm

variable {delivered : List Req} {earlier : List Server}

theorem not_named_of_conforms_res {res : Res}
    (conforms : Server.conforms delivered earlier ⟨some (.res res)⟩ = true)
    (member : message ∈ earlier) : message.requestId ≠ some ⟨res.reqId⟩ := by
  simp only [Server.conforms, Bool.and_eq_true, List.all_eq_true, bne_iff_ne] at conforms
  exact conforms.2 message member

theorem HonestHistory.response_unique (held : HonestHistory state) (arrival : Arrival state)
    {first second : Res} (named : first.reqId = second.reqId)
    (firstMember : (⟨some (.res first)⟩ : Server) ∈ state.collected)
    (secondMember : (⟨some (.res second)⟩ : Server) ∈ state.collected) : first = second := by
  obtain ⟨before, after, split⟩ := List.append_of_mem firstMember
  rw [split] at secondMember
  rcases List.mem_append.mp secondMember with earlier | later
  · refine absurd ?_ (not_named_of_conforms_res (held.collected arrival split) earlier)
    simp [Server.requestId, named]
  · rcases List.mem_cons.mp later with same | later
    · simpa using same.symm
    · obtain ⟨middle, rest, rfl⟩ := List.append_of_mem later
      have split' : state.collected =
          (before ++ ⟨some (.res first)⟩ :: middle) ++ ⟨some (.res second)⟩ :: rest := by
        simpa using split
      have member : (⟨some (.res first)⟩ : Server) ∈ before ++ ⟨some (.res first)⟩ :: middle := by
        simp
      refine absurd ?_ (not_named_of_conforms_res (held.collected arrival split') member)
      simp [Server.requestId, named]

theorem not_ended_of_conforms_part (chrono : Chrono) {part : ResPart}
    (held : HonestHistory state) (arrival : Arrival state)
    (conforms : Server.conforms state.delivered state.collected ⟨some (.resPart part)⟩ = true) :
    ¬ Ended chrono state.collected ⟨part.reqId⟩ := by
  intro given
  obtain ⟨message, member, named, ends⟩ := given
  simp only [Server.conforms, Bool.and_eq_true, List.any_eq_true, List.all_eq_true,
    Bool.not_eq_true'] at conforms
  obtain ⟨⟨⟨-, opener, opened, opens⟩, unclosed⟩, -⟩ := conforms
  obtain ⟨before, after, split⟩ := List.append_of_mem member
  have honest := held.collected arrival split
  rcases message with ⟨_ | res | closing⟩
  · cases named
  · obtain ⟨response, rfl, same, continues⟩ := Server.response_of_opens chrono opens
    have same' : res.reqId = response.reqId := by
      simpa [Server.requestId, same] using named
    obtain rfl := held.response_unique arrival same' member opened
    simp [continues] at ends
  · have same : closing.reqId = part.reqId := by simpa [Server.requestId] using named
    simp only [Server.conforms, Bool.and_eq_true] at honest
    have closed := Server.closes_of_ends chrono honest.2 ends
    rw [same] at closed
    simp [unclosed _ member] at closed

variable {requestId : RequestID}

theorem not_ended_of_conforms {chrono : Chrono} (held : HonestHistory state)
    (arrival : Arrival state) (conforms : message.conforms state.delivered state.collected = true)
    (named : message.requestId = some requestId) : ¬ Ended chrono state.collected requestId := by
  rcases message with ⟨_ | res | part⟩
  · cases named
  · cases named
    intro given
    obtain ⟨message, member, named, -⟩ := given
    exact not_named_of_conforms_res conforms member named
  · cases named
    exact not_ended_of_conforms_part chrono held arrival conforms

/-- A request outside the dispatch loop has its sink in the map until its exchange ends. -/
theorem registered_of_outgoing (sound : Sound env state) (requests : Issued state)
    (before : state.listen.beforeClose = true) (healthy : state.lock.poisoned = false)
    (member : req ∈ outgoing state) (expects : req.expectsAnswer = true)
    (running : ¬ Ended env.chrono state.collected ⟨req.reqId⟩) :
    ∃ (ticket : Ticket) (user : UserRequest), req = user.toRequest.intoProto ⟨req.reqId⟩ ∧
      state.collector.callbacks.lookup ⟨req.reqId⟩ = some (user.sink env.sync ticket) := by
  obtain ⟨ticket, user, requestId, dispatched, same⟩ :=
    requests.wired req (List.mem_append_right _ member) expects
  have reqId : requestId = ⟨req.reqId⟩ := by rw [same, UserRequest.intoProto_reqId]
  subst reqId
  rcases sound.exchanges.placed before healthy ticket _ dispatched.2 with
    ⟨request, sink, phase, same'⟩ | ⟨sink, found⟩ | ended
  · exact absurd same'.symm (sound.secrecy.unseen request sink phase req member)
  · obtain ⟨owner, other, dispatched', rfl⟩ := sound.wiring.callbacks _ sink found
    obtain rfl := sound.wiring.distinct owner ticket _ dispatched'.2 dispatched.2
    cases dispatched.1.symm.trans dispatched'.1
    exact ⟨owner, user, same, found⟩
  · exact absurd ended running

theorem isQuery_of_intoProto {user : UserRequest}
    (query : (user.toRequest.intoProto requestId).isQuery = true) : user.isQuery = true := by
  cases user <;> first | rfl | cases query

theorem sink_of_conforms (sound : Sound env state) (requests : Issued state)
    (held : HonestHistory state) (before : state.listen.beforeClose = true)
    (healthy : state.lock.poisoned = false)
    (conforms : message.conforms state.delivered state.collected = true) :
    ∃ requestId sink, message.requestId = some requestId ∧
      state.collector.callbacks.lookup requestId = some sink ∧
      ∀ item, message.reaction env.chrono = .emit item ∨
        message.reaction env.chrono = .fail item → sink.isStreamed = true := by
  have running : ∀ requestId, message.requestId = some requestId →
      ¬ Ended env.chrono state.collected requestId :=
    fun _ named => not_ended_of_conforms held sound.arrival conforms named
  rcases message with ⟨_ | res | part⟩
  · simp [Server.conforms] at conforms
  · simp only [Server.conforms, Bool.and_eq_true, List.any_eq_true] at conforms
    obtain ⟨⟨req, member, answers⟩, -⟩ := conforms
    obtain ⟨same, expects, query⟩ := Res.answers_spec answers
    obtain ⟨ticket, user, wired, found⟩ := registered_of_outgoing sound requests before healthy
      (List.mem_append_right _ member) expects
      (running ⟨req.reqId⟩ (by simp [Server.requestId, same]))
    refine ⟨⟨req.reqId⟩, _, by simp [Server.requestId, same], found, ?_⟩
    rintro item (reacts | reacts)
    · rw [UserRequest.sink_isStreamed]
      exact isQuery_of_intoProto (wired ▸ query ⟨item, reacts⟩)
    · exact absurd reacts (Res.reaction_ne_fail res item)
  · simp only [Server.conforms, Bool.and_eq_true, List.any_eq_true, beq_iff_eq] at conforms
    obtain ⟨⟨⟨⟨req, member, same, query⟩, -⟩, -⟩, -⟩ := conforms
    obtain ⟨ticket, user, wired, found⟩ := registered_of_outgoing sound requests before healthy
      (List.mem_append_right _ member) (Req.expectsAnswer_of_isQuery query)
      (running ⟨req.reqId⟩ (by simp [Server.requestId, same]))
    refine ⟨⟨req.reqId⟩, _, by simp [Server.requestId, same], found, fun _ _ => ?_⟩
    rw [UserRequest.sink_isStreamed]
    exact isQuery_of_intoProto (wired ▸ query)

/-- What never happens against an honest server. -/
structure Quiet (state : State) : Prop where
  known : ∀ requestId, unknownRequestId requestId ∉ state.collector.log
  healthy : state.lock.poisoned = false
  streamed : ∀ message, state.listen ≠ .panicked .streamOverOneShot message
  present : ∀ message, state.listen ≠ .panicked .missingEntry message

theorem quiet_initial : Quiet {} where
  known _ member := by cases member
  healthy := rfl
  streamed _ phase := by cases phase
  present _ phase := by cases phase

variable {progress : Progress Collector PanicCause Unit}

theorem Quiet.begins (quiet : Quiet state) (sound : Sound env state) (requests : Issued state)
    (held : HonestHistory state) {rest : List Server} (phase : state.listen = .receiving)
    (incoming : state.incoming = message :: rest)
    (collects : Begins env.chrono state.collector message progress) :
    Quiet (endSection { state with incoming := rest } message progress) := by
  have current := currentMessage_of_receiving phase incoming
  have conforms := held.current sound.arrival current
  obtain ⟨requestId, sink, named, found, streams⟩ :=
    sink_of_conforms sound requests held (by rw [phase]; rfl) quiet.healthy conforms
  cases collects with
  | ignored => cases named
  | unknown named' absent =>
    obtain rfl := Option.some.inj (named.symm.trans named')
    simp [found] at absent
  | failedUnknown absent =>
    cases named
    simp [found] at absent
  | @removed part report reacts =>
    simp only [Server.conforms, Bool.and_eq_true] at conforms
    obtain rfl := Server.report_of_wellFormed conforms.2 reacts
    exact ⟨quiet.known, rfl, by rintro _ ⟨⟩, by rintro _ ⟨⟩⟩
  | accepted | emitted | failed | stalled | crashed =>
    exact ⟨quiet.known, rfl, by rintro _ ⟨⟩, by rintro _ ⟨⟩⟩
  | oneShot found' single reacts =>
    cases named
    obtain rfl := Option.some.inj (found.symm.trans found')
    obtain ⟨item, reacts⟩ := reacts
    simp [streams item reacts] at single

theorem Quiet.completes (quiet : Quiet state) (sound : Sound env state) (requests : Issued state)
    (held : HonestHistory state) {rest : Action Unit}
    (phase : state.listen = .collecting message rest)
    (collects : Completes state.collector message progress) :
    Quiet (endSection state message progress) := by
  have current := currentMessage_of_collecting phase
  obtain ⟨requestId, sink, named, found, streams⟩ :=
    sink_of_conforms sound requests held (by rw [phase]; rfl) quiet.healthy
      (held.current sound.arrival current)
  cases collects with
  | missing absent =>
    cases named
    simp [found] at absent
  | settled | emitted | unregistered =>
    exact ⟨quiet.known, rfl, by rintro _ ⟨⟩, by rintro _ ⟨⟩⟩
  | oneShot found' single reacts =>
    cases named
    obtain rfl := Option.some.inj (found.symm.trans found')
    simp [streams _ (.inl reacts)] at single

theorem Transition.quiet (sound : Sound env state) (requests : Issued state)
    (held : HonestHistory state) (quiet : Quiet state)
    (move : Transition env state label next) : Quiet next := by
  cases move with
  | begins phase incoming collects => exact quiet.begins sound requests held phase incoming collects
  | completes phase collects => exact quiet.completes sound requests held phase collects
  | closing | closingWithError | errorStored | listenersTaken | listenersDone | listenerFinished
    | callbacksTaken | callbacksDone | callbackSent | handlerGone | callbackAnswered | signalled
    | aborted =>
      exact ⟨quiet.known, quiet.healthy, by rintro _ ⟨⟩, by rintro _ ⟨⟩⟩
  | _ => exact ⟨quiet.known, quiet.healthy, quiet.streamed, quiet.present⟩

theorem delivered_of_conforms (conforms : message.conforms delivered earlier = true)
    (named : message.requestId = some requestId) :
    ∃ req ∈ delivered, req.expectsAnswer = true ∧ req.reqId = requestId.bytes := by
  rcases message with ⟨_ | res | part⟩
  · cases named
  · cases named
    simp only [Server.conforms, Bool.and_eq_true, List.any_eq_true] at conforms
    obtain ⟨⟨req, member, answers⟩, -⟩ := conforms
    obtain ⟨same, expects, -⟩ := Res.answers_spec answers
    exact ⟨req, member, expects, same.symm⟩
  · cases named
    simp only [Server.conforms, Bool.and_eq_true, List.any_eq_true, beq_iff_eq] at conforms
    obtain ⟨⟨⟨⟨req, member, same, query⟩, -⟩, -⟩, -⟩ := conforms
    exact ⟨req, member, Req.expectsAnswer_of_isQuery query, same⟩

theorem not_ended_of_pending (sound : Sound env state) (requests : Issued state)
    (held : HonestHistory state)
    (member : req ∈ state.buffer.reqs ++ state.inFlight.flatMap (·.reqs))
    (expects : req.expectsAnswer = true) : ¬ Ended env.chrono state.collected ⟨req.reqId⟩ := by
  intro given
  obtain ⟨message, collected, named, -⟩ := given
  obtain ⟨before, after, split⟩ := List.append_of_mem collected
  obtain ⟨other, delivered, expects', same⟩ :=
    delivered_of_conforms (held.collected sound.arrival split) named
  have distinct : (expected (outgoing state)).Nodup :=
    requests.distinct.sublist (((List.sublist_append_right _ _).filter _).map _)
  rw [outgoing, expected_append] at distinct
  exact (List.nodup_append.mp distinct).2.2 _ (mem_expected member expects) _
    (mem_expected delivered expects') same.symm

structure Honest (state : State) : Prop where
  requests : Issued state
  history : HonestHistory state
  quiet : Quiet state

theorem honest_initial : Honest {} :=
  ⟨issued_initial, fun _ _ _ split => by simp at split, quiet_initial⟩

/-- Against an honest server, whatever the schedule: no request leaves the dispatch loop
before its sink is in the map, and the listener meets no unknown id, no sink of the wrong
kind and no missing entry. -/
theorem honest_server_meets_registered_sinks (env : Environment) {labels : List Label}
    {state : State}
    (meets : (system env).Meets (fun state label => honest state label = true) {} labels)
    (ran : (system env).run {} labels = some state) :
    (state.listen.beforeClose = true →
      ∀ req ∈ state.buffer.reqs ++ state.inFlight.flatMap (·.reqs), req.expectsAnswer = true →
        ∃ sink, state.collector.callbacks.lookup ⟨req.reqId⟩ = some sink) ∧
    (∀ requestId, unknownRequestId requestId ∉ state.collector.log) ∧
    (∀ message, state.listen ≠ .panicked .streamOverOneShot message) ∧
    (∀ message, state.listen ≠ .panicked .missingEntry message) := by
  obtain ⟨sound, requests, history, quiet⟩ := sound_run_invariant
    (fun sound held allowed move =>
      (⟨move.issued sound held.requests, move.honestHistory held.history allowed,
        move.quiet sound held.requests held.history held.quiet⟩ : Honest _))
    honest_initial meets ran
  refine ⟨fun before req member expects => ?_, quiet.known, quiet.streamed, quiet.present⟩
  obtain ⟨ticket, user, -, found⟩ := registered_of_outgoing sound requests before quiet.healthy
    (List.mem_append_left _ member) expects
    (not_ended_of_pending sound requests history member expects)
  exact ⟨_, found⟩

theorem honest_server_meets_registered_sinks_commit :
    ∃ state, (system .basic).run {} commitRun = some state ∧
      (∀ requestId, unknownRequestId requestId ∉ state.collector.log) ∧
      (∀ message, state.listen ≠ .panicked .streamOverOneShot message) ∧
      (∀ message, state.listen ≠ .panicked .missingEntry message) := by
  have meets : (system .basic).Meets (fun state label => honest state label = true) {}
      commitRun := by decide
  exact ⟨_, rfl, (honest_server_meets_registered_sinks .basic meets rfl).2⟩

/-- Whatever the server does, it receives a commit, rollback or query only if a call sent it, and
never twice. -/
theorem requests_delivered_once (env : Environment) {labels : List Label}
    (ran : (system env).run {} labels = some state) :
    (expected state.delivered).Nodup ∧ ∀ req ∈ state.delivered, req.expectsAnswer = true →
      ∃ ticket user requestId, Dispatched state ticket user requestId ∧
        req = user.toRequest.intoProto requestId := by
  obtain ⟨-, held⟩ := sound_run_invariant
    (fun sound held _ move => move.issued sound held) issued_initial
    (TransitionSystem.meets_of_forall (fun _ _ => trivial) _ labels) ran
  have sublist : state.delivered.Sublist (issued state) :=
    (List.sublist_append_right _ _).trans (List.sublist_append_right _ _)
  exact ⟨held.distinct.sublist ((sublist.filter _).map _),
    fun req member => held.wired req (sublist.subset member)⟩

theorem requests_delivered_once_commit :
    ∃ state, (system .basic).run {} commitRun = some state ∧ state.delivered.length = 1 ∧
      (expected state.delivered).Nodup := by
  have ran : (system .basic).run {} commitRun = some _ := rfl
  exact ⟨_, ran, rfl, (requests_delivered_once .basic ran).1⟩

end Transmitter

end TypeDBDriver
