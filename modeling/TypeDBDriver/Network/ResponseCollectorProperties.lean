import TypeDBDriver.Network.ResponseCollector

/-! What collecting one message can do. `Reaction` says what a message means for the
exchange it belongs to; the two inversion theorems say what the collector makes of it,
section by section. Everything later is derived from these two. -/

namespace TypeDBDriver

open Library
open TransactionResponse (tryFromProto tryFromProtoPart tryFromProto_ne_panicked)

inductive Reaction where
  /-- Send an item and keep the sink. -/
  | emit (item : StreamResponse TransactionResponse)
  /-- Send an item and drop the sink in a second section. -/
  | fail (item : StreamResponse TransactionResponse)
  /-- Remove the sink and complete it. -/
  | settle (result : Result TransactionResponse)
  /-- Drop the sink without a word to its receiver. -/
  | remove (report : Option Error)
  /-- Decoding failed while the read guard is alive. -/
  | stall (error : Error)
  /-- Decoding panicked. -/
  | crash
  /-- The message belongs to no request. -/
  | ignore

def Reaction.ends : Reaction → Bool
  | .fail _ | .settle _ | .remove _ => true
  | .emit _ | .stall _ | .crash | .ignore => false

namespace Proto.Transaction

def Res.reaction (res : Res) : Reaction :=
  match tryFromProto res with
  | .ok (.query response) => .emit (.result (.ok (.query response)))
  | .ok response => .settle (.ok response)
  | .error err => .settle (.error err)
  | .panicked => .crash

def ResPart.reaction (chrono : Chrono) (part : ResPart) : Reaction :=
  match part.resPart with
  | some (.queryRes queryRes) =>
    match tryFromProtoPart chrono queryRes with
    | .ok response => .emit (.result (.ok response))
    | .error err => .stall err
    | .panicked => .crash
  | some (.streamRes none) =>
    .remove (some (missingResponseField "transaction.res_part.res_part.stream_res.state"))
  | some (.streamRes (some .continue)) => .emit (.continue ⟨part.reqId⟩)
  | some (.streamRes (some .done)) => .remove none
  | some (.streamRes (some (.error error))) =>
    .fail (.result (.ok (.query (QueryResponse.fromProto error))))
  | none => .remove (some (missingResponseField "transaction.res_part.res_part"))

namespace Server

def reaction (chrono : Chrono) (message : Server) : Reaction :=
  match message.server with
  | some (.res res) => res.reaction
  | some (.resPart part) => part.reaction chrono
  | none => .ignore

def crashes (chrono : Chrono) (sink : ResponseSink) (message : Server) : Bool :=
  match message.reaction chrono with
  | .crash => true
  | .emit _ | .fail _ => !sink.isStreamed
  | _ => false

abbrev streamError (reqId : Bytes) (error : Proto.Error) : Server :=
  ⟨some (.resPart ⟨reqId, some (.streamRes (some (.error error)))⟩)⟩

end Server

end Proto.Transaction

def ResponseSink.settle (sink : ResponseSink) :
    Result TransactionResponse → Receivers TransactionResponse → Receivers TransactionResponse
  | .ok response => sink.finish (.ok response)
  | .error err => sink.error err

def Collector.report (collector : Collector) : Option Error → Collector
  | some error => collector.logError error
  | none => collector

namespace ResponseCollector

open Proto.Transaction (Server Res ResPart)

inductive Begins (chrono : Chrono) (memory : Collector) :
    Server → Progress Collector PanicCause Unit → Prop where
  | ignored :
      Begins chrono memory ⟨none⟩
        (.finished () {} (memory.logError (missingResponseField "server")))
  | accepted {res : Res} {sink : ResponseSink}
      (found : memory.callbacks.lookup ⟨res.reqId⟩ = some sink) :
      Begins chrono memory ⟨some (.res res)⟩ (.paused (completeRes res) {} memory)
  | unknown {message : Server} {requestId : RequestID}
      (named : message.requestId = some requestId)
      (absent : memory.callbacks.lookup requestId = none) :
      Begins chrono memory message
        (.finished () {} (memory.logError (unknownRequestId requestId)))
  | failedUnknown {reqId : Bytes} {error : Proto.Error}
      (absent : memory.callbacks.lookup ⟨reqId⟩ = none) :
      Begins chrono memory (.streamError reqId error)
        (.paused (unregister ⟨reqId⟩) {} (memory.logError (unknownRequestId ⟨reqId⟩)))
  | removed {part : ResPart} {report : Option Error}
      (reacts : part.reaction chrono = .remove report) :
      Begins chrono memory ⟨some (.resPart part)⟩
        (.finished () {} ((memory.remove ⟨part.reqId⟩).report report))
  | emitted {part : ResPart} {ticket : Ticket} {item : StreamResponse TransactionResponse}
      (found : memory.callbacks.lookup ⟨part.reqId⟩ = some (.streamed ticket))
      (reacts : part.reaction chrono = .emit item) :
      Begins chrono memory ⟨some (.resPart part)⟩
        (.finished () {} (memory.deliver fun receivers => receivers.sendStream ticket item))
  | failed {reqId : Bytes} {error : Proto.Error} {ticket : Ticket}
      (found : memory.callbacks.lookup ⟨reqId⟩ = some (.streamed ticket)) :
      Begins chrono memory (.streamError reqId error)
        (.paused (unregister ⟨reqId⟩) {} (memory.deliver fun receivers =>
          receivers.sendStream ticket (.result (.ok (.query (QueryResponse.fromProto error))))))
  | oneShot {part : ResPart} {sink : ResponseSink}
      (found : memory.callbacks.lookup ⟨part.reqId⟩ = some sink)
      (single : sink.isStreamed = false)
      (reacts : ∃ item, part.reaction chrono = .emit item ∨ part.reaction chrono = .fail item) :
      Begins chrono memory ⟨some (.resPart part)⟩ (.panicked .streamOverOneShot {} memory)
  | stalled {part : ResPart} {sink : ResponseSink} {error : Error}
      (found : memory.callbacks.lookup ⟨part.reqId⟩ = some sink)
      (reacts : part.reaction chrono = .stall error) :
      Begins chrono memory ⟨some (.resPart part)⟩ (.deadlocked { readers := 1 } memory)
  | crashed {part : ResPart} {sink : ResponseSink}
      (found : memory.callbacks.lookup ⟨part.reqId⟩ = some sink)
      (reacts : part.reaction chrono = .crash) :
      Begins chrono memory ⟨some (.resPart part)⟩ (.panicked .decoding {} memory)

inductive Completes (memory : Collector) : Server → Progress Collector PanicCause Unit → Prop where
  | missing {res : Res} {memory' : Collector}
      (absent : memory.callbacks.lookup ⟨res.reqId⟩ = none)
      (kept : memory' = memory ∨ memory' = memory.remove ⟨res.reqId⟩) :
      Completes memory ⟨some (.res res)⟩ (.panicked .missingEntry { poisoned := true } memory')
  | settled {res : Res} {sink : ResponseSink} {result : Result TransactionResponse}
      (found : memory.callbacks.lookup ⟨res.reqId⟩ = some sink)
      (reacts : res.reaction = .settle result) :
      Completes memory ⟨some (.res res)⟩
        (.finished () {} ((memory.remove ⟨res.reqId⟩).deliver (sink.settle result)))
  | emitted {res : Res} {ticket : Ticket} {item : StreamResponse TransactionResponse}
      (found : memory.callbacks.lookup ⟨res.reqId⟩ = some (.streamed ticket))
      (reacts : res.reaction = .emit item) :
      Completes memory ⟨some (.res res)⟩
        (.finished () {} (memory.deliver fun receivers => receivers.sendStream ticket item))
  | oneShot {res : Res} {sink : ResponseSink} {item : StreamResponse TransactionResponse}
      (found : memory.callbacks.lookup ⟨res.reqId⟩ = some sink)
      (single : sink.isStreamed = false) (reacts : res.reaction = .emit item) :
      Completes memory ⟨some (.res res)⟩
        (.panicked .streamOverOneShot { poisoned := true } memory)
  | unregistered {reqId : Bytes} {error : Proto.Error} :
      Completes memory (.streamError reqId error)
        (.finished () {} (memory.remove ⟨reqId⟩))

inductive Resumable : Server → Action Unit → Prop where
  | completing (res : Res) : Resumable ⟨some (.res res)⟩ (completeRes res)
  | unregistering (reqId : Bytes) (error : Proto.Error) :
      Resumable (.streamError reqId error)
        (unregister ⟨reqId⟩)

-- A section is executed symbolically: what a program does to the lock and to the memory.
attribute [local simp] Program.take Program.drop Program.inspect Program.update Program.advance
  RwLock.acquire RwLock.release RwLock.unwind Action.get Action.remove Action.unwrap
  Action.stream Action.logError

section Sections

variable (chrono : Chrono) (memory : Collector)

theorem unregister_resume (requestId : RequestID) :
    (unregister requestId).resume .poisonedLock {} memory =
      some (.finished () {} (memory.remove requestId)) := rfl

theorem completeRes_paused (res : Res) :
    (completeRes res).advance {} memory = .paused (completeRes res) {} memory := by
  cases decoded : tryFromProto res with
  | panicked => exact absurd decoded (tryFromProto_ne_panicked res)
  | error cause =>
    simp only [completeRes, decoded]
    rfl
  | ok response =>
    cases response with
    | «open» | commit | rollback | query | close =>
      simp only [completeRes, decoded]
      rfl

theorem collectRes_resume (res : Res) :
    (collectRes res).resume .poisonedLock {} memory =
      some (match memory.callbacks.lookup ⟨res.reqId⟩ with
        | none => .finished () {} (memory.logError (unknownRequestId ⟨res.reqId⟩))
        | some _ => .paused (completeRes res) {} memory) := by
  cases found : memory.callbacks.lookup ⟨res.reqId⟩ with
  | none =>
    simp [collectRes, found]
  | some sink =>
    simp [collectRes, found, completeRes_paused]

theorem signal_resume (requestId : RequestID)
    (send : ResponseSink → Option (Receivers TransactionResponse → Receivers TransactionResponse))
    (next : Action Unit) :
    (signal requestId send >>= fun _ => next).resume .poisonedLock {} memory =
      some (match memory.callbacks.lookup requestId with
        | none => next.advance {} (memory.logError (unknownRequestId requestId))
        | some sink =>
          match send sink with
          | some effect => next.advance {} (memory.deliver effect)
          | none => .panicked .streamOverOneShot {} memory) := by
  cases found : memory.callbacks.lookup requestId with
  | none =>
    simp [signal, found]
  | some sink =>
    cases sends : send sink with
    | none =>
      simp [signal, found, sends]
    | some effect =>
      simp [signal, found, sends]

theorem collectQueryRes_resume (requestId : RequestID) (queryRes : Proto.Query.ResPart) :
    (collectQueryRes chrono requestId queryRes).resume .poisonedLock {} memory =
      some (match memory.callbacks.lookup requestId with
        | none => .finished () {} (memory.logError (unknownRequestId requestId))
        | some sink =>
          match tryFromProtoPart chrono queryRes with
          | .panicked => .panicked .decoding {} memory
          | .error _ => .deadlocked { readers := 1 } memory
          | .ok response =>
            match sink.sendResult (.ok response) with
            | some effect => .finished () {} (memory.deliver effect)
            | none => .panicked .streamOverOneShot {} memory) := by
  cases found : memory.callbacks.lookup requestId with
  | none =>
    simp [collectQueryRes, found]
  | some sink =>
    cases decoded : tryFromProtoPart chrono queryRes with
    | panicked =>
      simp [collectQueryRes, found, decoded]
    | error cause =>
      -- the guard of the scrutinee excludes the write guard of the removal
      simp [collectQueryRes, unregister, RwLock.grants, RwLock.isFree, found, decoded]
    | ok response =>
      cases sends : sink.sendResult (.ok response : Result TransactionResponse) with
      | none =>
        simp [collectQueryRes, found, decoded, sends]
      | some effect =>
        simp [collectQueryRes, found, decoded, sends]

end Sections

section Inversion

variable {chrono : Chrono} {memory : Collector}

theorem collectRes_begins (res : Res) :
    ∃ progress, (collectRes res).resume .poisonedLock {} memory = some progress ∧
      Begins chrono memory ⟨some (.res res)⟩ progress := by
  refine ⟨_, collectRes_resume memory res, ?_⟩
  cases found : memory.callbacks.lookup ⟨res.reqId⟩ with
  | none => exact .unknown rfl found
  | some sink => exact .accepted found

theorem collectQueryRes_begins (reqId : Bytes) (queryRes : Proto.Query.ResPart) :
    ∃ progress, (collectQueryRes chrono ⟨reqId⟩ queryRes).resume .poisonedLock {} memory =
        some progress ∧
      Begins chrono memory ⟨some (.resPart ⟨reqId, some (.queryRes queryRes)⟩)⟩ progress := by
  refine ⟨_, collectQueryRes_resume chrono memory ⟨reqId⟩ queryRes, ?_⟩
  cases found : memory.callbacks.lookup ⟨reqId⟩ with
  | none => exact .unknown rfl found
  | some sink =>
    cases decoded : tryFromProtoPart chrono queryRes with
    | panicked => exact .crashed found (by simp [ResPart.reaction, decoded])
    | error cause =>
      have reacts : ResPart.reaction chrono ⟨reqId, some (.queryRes queryRes)⟩ =
          .stall cause := by simp only [ResPart.reaction, decoded]
      exact .stalled found reacts
    | ok response =>
      have reacts : ResPart.reaction chrono ⟨reqId, some (.queryRes queryRes)⟩ =
          .emit (.result (.ok response)) := by simp only [ResPart.reaction, decoded]
      cases sink with
      | streamed ticket => exact .emitted found reacts
      | immediateOneShot | asyncOneShot | blockingOneShot =>
        exact .oneShot found rfl ⟨_, .inl reacts⟩

theorem collectStreamRes_begins (reqId : Bytes) (state : Option Proto.Transaction.StreamState) :
    ∃ progress, (collectStreamRes ⟨reqId⟩ state).resume .poisonedLock {} memory = some progress ∧
      Begins chrono memory ⟨some (.resPart ⟨reqId, some (.streamRes state)⟩)⟩ progress := by
  rcases state with _ | state
  · exact ⟨.finished () {} ((memory.remove ⟨reqId⟩).report _), rfl, .removed rfl⟩
  cases state with
  | done => exact ⟨.finished () {} ((memory.remove ⟨reqId⟩).report none), rfl, .removed rfl⟩
  | «continue» =>
    have resumed := signal_resume memory ⟨reqId⟩ (·.sendContinuable ⟨reqId⟩) (.pure ())
    rw [Program.bind_unit] at resumed
    refine ⟨_, resumed, ?_⟩
    cases found : memory.callbacks.lookup ⟨reqId⟩ with
    | none => exact .unknown rfl found
    | some sink =>
      cases sink with
      | streamed ticket => exact .emitted found rfl
      | immediateOneShot | asyncOneShot | blockingOneShot =>
        exact .oneShot found rfl ⟨_, .inl rfl⟩
  | error cause =>
    refine ⟨_, signal_resume memory ⟨reqId⟩ _ (unregister ⟨reqId⟩), ?_⟩
    cases found : memory.callbacks.lookup ⟨reqId⟩ with
    | none => exact .failedUnknown found
    | some sink =>
      cases sink with
      | streamed ticket => exact .failed found
      | immediateOneShot | asyncOneShot | blockingOneShot =>
        exact .oneShot found rfl ⟨_, .inr rfl⟩

theorem collect_begins (chrono : Chrono) (memory : Collector) (message : Server) :
    ∃ progress, (collect chrono message).resume .poisonedLock {} memory = some progress ∧
      Begins chrono memory message progress := by
  rcases message with ⟨_ | inner⟩
  · exact ⟨_, rfl, .ignored⟩
  cases inner with
  | res res => exact collectRes_begins res
  | resPart part =>
    rcases part with ⟨reqId, _ | inner⟩
    · exact ⟨.finished () {} ((memory.remove ⟨reqId⟩).report _), rfl, .removed rfl⟩
    cases inner with
    | queryRes queryRes => exact collectQueryRes_begins reqId queryRes
    | streamRes state => exact collectStreamRes_begins reqId state

theorem settle_completes (memory : Collector) (res : Res)
    {result : Result TransactionResponse} (reacts : res.reaction = .settle result) :
    ∃ progress, (settle ⟨res.reqId⟩ (·.settle result)).resume .poisonedLock {} memory =
        some progress ∧
      Completes memory ⟨some (.res res)⟩ progress := by
  cases found : memory.callbacks.lookup ⟨res.reqId⟩ with
  | none =>
    refine ⟨.panicked _ _ (memory.remove ⟨res.reqId⟩), ?_, .missing found (.inr rfl)⟩
    simp [settle, found]
  | some sink =>
    refine ⟨_, ?_, .settled found reacts⟩
    simp [settle, found]

theorem completeRes_eq_settle {res : Res} {response : TransactionResponse}
    (decoded : tryFromProto res = .ok response) (other : ∀ query, response ≠ .query query) :
    completeRes res = settle ⟨res.reqId⟩ (·.settle (.ok response)) ∧
      res.reaction = .settle (.ok response) := by
  cases response with
  | query query => exact absurd rfl (other query)
  | «open» | commit | rollback | close =>
    simp only [completeRes, Res.reaction, decoded, ResponseSink.settle, and_self]

theorem streamRes_completes (memory : Collector) (res : Res) {response : QueryResponse}
    (decoded : tryFromProto res = .ok (.query response)) :
    ∃ progress, (completeRes res).resume .poisonedLock {} memory = some progress ∧
      Completes memory ⟨some (.res res)⟩ progress := by
  have reacts : res.reaction = .emit (.result (.ok (.query response))) := by
    simp only [Res.reaction, decoded]
  simp only [completeRes, decoded]
  cases found : memory.callbacks.lookup ⟨res.reqId⟩ with
  | none =>
    refine ⟨.panicked _ _ memory, ?_, .missing found (.inl rfl)⟩
    simp [found]
  | some sink =>
    cases sink with
    | streamed ticket =>
      refine ⟨_, ?_, .emitted found reacts⟩
      simp [ResponseSink.sendResult, found]
    | immediateOneShot | asyncOneShot | blockingOneShot =>
      refine ⟨_, ?_, .oneShot found rfl reacts⟩
      simp [ResponseSink.sendResult, found]

theorem completeRes_completes (memory : Collector) (res : Res) :
    ∃ progress, (completeRes res).resume .poisonedLock {} memory = some progress ∧
      Completes memory ⟨some (.res res)⟩ progress := by
  cases decoded : tryFromProto res with
  | panicked => exact absurd decoded (tryFromProto_ne_panicked res)
  | error cause =>
    have reacts : res.reaction = .settle (.error cause) := by simp only [Res.reaction, decoded]
    have completed : completeRes res = settle ⟨res.reqId⟩ (·.settle (.error cause)) := by
      simp only [completeRes, decoded, ResponseSink.settle]
    exact completed ▸ settle_completes memory res reacts
  | ok response =>
    by_cases isQuery : ∃ query, response = .query query
    · obtain ⟨query, rfl⟩ := isQuery
      exact streamRes_completes memory res decoded
    · obtain ⟨completed, reacts⟩ := completeRes_eq_settle decoded fun query same =>
        isQuery ⟨query, same⟩
      exact completed ▸ settle_completes memory res reacts

theorem rest_completes (memory : Collector) {message : Server} {rest : Action Unit}
    (resumable : Resumable message rest) :
    ∃ progress, rest.resume .poisonedLock {} memory = some progress ∧
      Completes memory message progress := by
  cases resumable with
  | completing res => exact completeRes_completes memory res
  | unregistering reqId error => exact ⟨_, unregister_resume memory ⟨reqId⟩, .unregistered⟩

end Inversion

variable {requestId : RequestID} {sink : ResponseSink} {memory : Collector}

theorem remove_lookup_subset {other : RequestID}
    (found : (memory.remove requestId).callbacks.lookup other = some sink) :
    memory.callbacks.lookup other = some sink := by
  rw [Collector.remove_lookup] at found
  split_ifs at found
  exact found

variable {message : Server} {progress : Progress Collector PanicCause Unit} {chrono : Chrono}

theorem Begins.lookup_subset (begins : Begins chrono memory message progress)
    (found : progress.memory.callbacks.lookup requestId = some sink) :
    memory.callbacks.lookup requestId = some sink := by
  cases begins with
  | @removed part report reacts =>
    cases report with
    | none => exact remove_lookup_subset found
    | some error => exact remove_lookup_subset found
  | ignored | accepted | unknown | failedUnknown | emitted | failed | oneShot | stalled
    | crashed => exact found

theorem Completes.lookup_subset (completes : Completes memory message progress)
    (found : progress.memory.callbacks.lookup requestId = some sink) :
    memory.callbacks.lookup requestId = some sink := by
  cases completes with
  | missing absent kept =>
    rcases kept with rfl | rfl
    · exact found
    · exact remove_lookup_subset found
  | settled | unregistered => exact remove_lookup_subset found
  | emitted | oneShot => exact found

/-- What a collected message does to the map: it removes its own entry if it ends the
exchange, and leaves everything else alone. -/
structure Updates (chrono : Chrono) (memory : Collector) (message : Server)
    (memory' : Collector) : Prop where
  removes : ∀ requestId, message.requestId = some requestId →
    (message.reaction chrono).ends = true → memory'.callbacks.lookup requestId = none
  keeps : ∀ requestId sink, memory.callbacks.lookup requestId = some sink →
    memory'.callbacks.lookup requestId = some sink ∨
      (message.requestId = some requestId ∧ (message.reaction chrono).ends = true)

variable {memory' : Collector}

theorem updates_of_remove (named : message.requestId = some requestId)
    (ends : (message.reaction chrono).ends = true)
    (removed : memory'.callbacks = (memory.remove requestId).callbacks) :
    Updates chrono memory message memory' where
  removes other named' _ := by
    obtain rfl := Option.some.inj (named.symm.trans named')
    simp [removed, Collector.remove_lookup]
  keeps other sink found := by
    by_cases same : other = requestId
    · exact .inr ⟨same ▸ named, ends⟩
    · exact .inl (by simpa [removed, Collector.remove_lookup, same] using found)

theorem updates_of_same (same : memory'.callbacks = memory.callbacks)
    (absent : ∀ requestId, message.requestId = some requestId →
      (message.reaction chrono).ends = true → memory.callbacks.lookup requestId = none) :
    Updates chrono memory message memory' where
  removes requestId named ends := by
    rw [same]
    exact absent requestId named ends
  keeps requestId sink found := .inl (same ▸ found)

variable {lock : RwLock}

theorem Begins.updates (begins : Begins chrono memory message (.finished () lock memory')) :
    Updates chrono memory message memory' := by
  cases begins with
  | ignored => exact updates_of_same rfl (by rintro _ ⟨⟩)
  | unknown named absent =>
    refine updates_of_same rfl fun requestId named' _ => ?_
    obtain rfl := Option.some.inj (named.symm.trans named')
    exact absent
  | @removed part report reacts =>
    refine updates_of_remove rfl (by simp [Server.reaction, reacts, Reaction.ends]) ?_
    cases report <;> rfl
  | emitted found reacts =>
    refine updates_of_same rfl fun requestId _ ends => ?_
    simp [Server.reaction, reacts, Reaction.ends] at ends

theorem Completes.updates (completes : Completes memory message (.finished () lock memory')) :
    Updates chrono memory message memory' := by
  cases completes with
  | settled found reacts =>
    exact updates_of_remove rfl (by simp [Server.reaction, reacts, Reaction.ends]) rfl
  | emitted found reacts =>
    refine updates_of_same rfl fun requestId _ ends => ?_
    simp [Server.reaction, reacts, Reaction.ends] at ends
  | unregistered => exact updates_of_remove rfl rfl rfl

theorem Begins.unfinished_callbacks (begins : Begins chrono memory message progress)
    (unfinished : ∀ result lock memory', progress ≠ .finished result lock memory') :
    progress.memory.callbacks = memory.callbacks := by
  cases begins with
  | ignored | unknown | removed | emitted => exact absurd rfl (unfinished _ _ _)
  | accepted | failedUnknown | failed | oneShot | stalled | crashed => rfl

theorem Begins.crashes {cause : PanicCause}
    (begins : Begins chrono memory message (.panicked cause lock memory')) :
    ∃ requestId sink, message.requestId = some requestId ∧
      memory.callbacks.lookup requestId = some sink ∧ message.crashes chrono sink = true := by
  cases begins with
  | oneShot found single reacts =>
    refine ⟨_, _, rfl, found, ?_⟩
    obtain ⟨item, reacts | reacts⟩ := reacts <;>
      simp [Server.crashes, Server.reaction, reacts, single]
  | crashed found reacts =>
    exact ⟨_, _, rfl, found, by simp [Server.crashes, Server.reaction, reacts]⟩

theorem Completes.crashes {cause : PanicCause}
    (completes : Completes memory message (.panicked cause lock memory'))
    (registered : ∀ res : Res, message = ⟨some (.res res)⟩ →
      ∃ sink, memory.callbacks.lookup ⟨res.reqId⟩ = some sink) :
    ∃ requestId sink, message.requestId = some requestId ∧
      memory.callbacks.lookup requestId = some sink ∧ message.crashes chrono sink = true := by
  cases completes with
  | missing absent =>
    obtain ⟨sink, found⟩ := registered _ rfl
    simp [found] at absent
  | oneShot found single reacts =>
    exact ⟨_, _, rfl, found, by simp [Server.crashes, Server.reaction, reacts, single]⟩

def Registers (before after : Collector) : Prop :=
  after.receivers = before.receivers ∧ after.log = before.log ∧
    ∀ requestId sink, before.callbacks.lookup requestId = some sink →
      after.callbacks.lookup requestId = some sink

theorem Registers.refl (memory : Collector) : Registers memory memory :=
  ⟨rfl, rfl, fun _ _ found => found⟩

/-- A part that fails to decode leaves its sink with the error and without its entry. -/
def ReportsFailure (chrono : Chrono) (memory : Collector) (message : Server) (final : Collector) :
    Prop :=
  ∀ reqId queryRes sink error,
    message = ⟨some (.resPart ⟨reqId, some (.queryRes queryRes)⟩)⟩ →
    memory.callbacks.lookup ⟨reqId⟩ = some sink →
    tryFromProtoPart chrono queryRes = .error error →
      final.receivers = sink.error error memory.receivers ∧
        final.callbacks.lookup ⟨reqId⟩ = none

/-- The reactions that cannot be carried out on a sink: a part that does not decode, and an
item of a stream for a one-shot sink. -/
def Blocks (sink : ResponseSink) : Reaction → Prop
  | .stall _ | .crash => True
  | .emit _ | .fail _ => sink.isStreamed = false
  | .settle _ | .remove _ | .ignore => False

/-- The messages that `collect` does not get through. -/
def Stalls (chrono : Chrono) (memory : Collector) (message : Server) : Prop :=
  ∃ requestId sink, message.requestId = some requestId ∧
    memory.callbacks.lookup requestId = some sink ∧ Blocks sink (message.reaction chrono)

theorem stalls_iff_blocks (named : message.requestId = some requestId)
    (found : memory.callbacks.lookup requestId = some sink) :
    Stalls chrono memory message ↔ Blocks sink (message.reaction chrono) := by
  constructor
  · intro given
    obtain ⟨requestId', sink', named', found', blocks⟩ := given
    obtain rfl := Option.some.inj (named.symm.trans named')
    obtain rfl := Option.some.inj (found.symm.trans found')
    exact blocks
  · intro blocks
    exact ⟨requestId, sink, named, found, blocks⟩

theorem not_stalls_of_absent (chrono : Chrono) (named : message.requestId = some requestId)
    (absent : memory.callbacks.lookup requestId = none) : ¬ Stalls chrono memory message := by
  intro given
  obtain ⟨requestId', sink, named', found, -⟩ := given
  obtain rfl := Option.some.inj (named.symm.trans named')
  simp [absent] at found

theorem reportsFailure_of_not_stalls (runs : ¬ Stalls chrono memory message) (final : Collector) :
    ReportsFailure chrono memory message final := by
  intro reqId queryRes sink error same found decoded
  subst same
  refine absurd ⟨⟨reqId⟩, sink, rfl, found, ?_⟩ runs
  simp only [Server.reaction, ResPart.reaction, decoded, Blocks]

theorem completeRes_ensures_iff {res : Res} {post : Collector → Prop}
    (found : memory.callbacks.lookup ⟨res.reqId⟩ = some sink)
    (interference : Registers memory memory') (established : ∀ final, post final) :
    Program.Ensures .poisonedLock Registers post (completeRes res) {} memory' ↔
      ¬ Stalls chrono memory ⟨some (.res res)⟩ := by
  have still := interference.2.2 _ _ found
  rw [stalls_iff_blocks rfl found]
  obtain ⟨progress, ran, completes⟩ := completeRes_completes memory' res
  cases completes with
  | missing absent => simp [still] at absent
  | settled found' reacts =>
    exact iff_of_true (.finished ran (established _)) (by simp [Server.reaction, reacts, Blocks])
  | emitted found' reacts =>
    obtain rfl := Option.some.inj (still.symm.trans found')
    exact iff_of_true (.finished ran (established _))
      (by simp [Server.reaction, reacts, Blocks, ResponseSink.isStreamed])
  | oneShot found' single reacts =>
    obtain rfl := Option.some.inj (still.symm.trans found')
    exact iff_of_false (Program.not_ensures_of_panicked ran)
      (by simp [Server.reaction, reacts, Blocks, single])

/-- `collect` returns, whatever is registered meanwhile, exactly on the messages that do
not stall it. -/
theorem collect_ensures_iff (chrono : Chrono) (memory : Collector) (message : Server) :
    Program.Ensures .poisonedLock Registers (ReportsFailure chrono memory message)
      (collect chrono message) {} memory ↔ ¬ Stalls chrono memory message := by
  obtain ⟨progress, ran, begins⟩ := collect_begins chrono memory message
  have reported : ¬ Stalls chrono memory message →
      ∀ final, ReportsFailure chrono memory message final :=
    reportsFailure_of_not_stalls
  cases begins with
  | ignored =>
    have runs : ¬ Stalls chrono memory ⟨none⟩ := by
      intro given
      obtain ⟨requestId, sink, named, -⟩ := given
      simp [Server.requestId] at named
    exact iff_of_true (.finished ran (reported runs _)) runs
  | @accepted res sink found =>
    have vacuous : ∀ final, ReportsFailure chrono memory ⟨some (.res res)⟩ final := by
      intro final reqId queryRes sink error isPart
      cases isPart
    constructor
    · intro ensured
      exact (completeRes_ensures_iff found (Registers.refl memory) vacuous).mp
        (ensured.resumed ran (Registers.refl memory))
    · intro runs
      exact .paused ran fun memory' interference =>
        (completeRes_ensures_iff found interference vacuous).mpr runs
  | unknown named absent =>
    have runs := not_stalls_of_absent chrono named absent
    exact iff_of_true (.finished ran (reported runs _)) runs
  | @failedUnknown reqId error absent =>
    have named : (Server.streamError reqId error).requestId = some ⟨reqId⟩ := rfl
    have runs := not_stalls_of_absent chrono named absent
    exact iff_of_true (.paused ran fun memory' _ =>
      .finished (unregister_resume memory' _) (reported runs _)) runs
  | @removed part report reacts =>
    have runs : ¬ Stalls chrono memory ⟨some (.resPart part)⟩ := by
      intro given
      obtain ⟨requestId, sink, -, -, blocks⟩ := given
      simp [Server.reaction, reacts, Blocks] at blocks
    exact iff_of_true (.finished ran (reported runs _)) runs
  | @emitted part ticket item found reacts =>
    have runs : ¬ Stalls chrono memory ⟨some (.resPart part)⟩ := by
      rw [stalls_iff_blocks rfl found]
      simp [Server.reaction, reacts, Blocks, ResponseSink.isStreamed]
    exact iff_of_true (.finished ran (reported runs _)) runs
  | @failed reqId error ticket found =>
    have runs : ¬ Stalls chrono memory (.streamError reqId error) := by
      rw [stalls_iff_blocks rfl found]
      simp [Server.reaction, ResPart.reaction, Blocks, ResponseSink.isStreamed]
    exact iff_of_true (.paused ran fun memory' _ =>
      .finished (unregister_resume memory' _) (reported runs _)) runs
  | oneShot found single reacts =>
    obtain ⟨item, reacts | reacts⟩ := reacts
    all_goals
      refine iff_of_false (Program.not_ensures_of_panicked ran) (not_not.mpr ?_)
      exact (stalls_iff_blocks rfl found).mpr
        (by simpa [Server.reaction, reacts, Blocks] using single)
  | stalled found reacts =>
    refine iff_of_false (Program.not_ensures_of_deadlocked ran) (not_not.mpr ?_)
    exact (stalls_iff_blocks rfl found).mpr (by simp [Server.reaction, reacts, Blocks])
  | crashed found reacts =>
    refine iff_of_false (Program.not_ensures_of_panicked ran) (not_not.mpr ?_)
    exact (stalls_iff_blocks rfl found).mpr (by simp [Server.reaction, reacts, Blocks])

/-- A query response without a `res` field, sent for a registered query: the failing branch
asks for the write guard while the read guard of its own scrutinee is alive. -/
theorem collect_stalls_on_undecodable :
    ¬ Program.Ensures .poisonedLock Registers
      (ReportsFailure Chrono.documented (({} : Collector).register ⟨[1]⟩ (.streamed 0))
        ⟨some (.resPart ⟨[1], some (.queryRes ⟨none⟩)⟩)⟩)
      (collect Chrono.documented ⟨some (.resPart ⟨[1], some (.queryRes ⟨none⟩)⟩)⟩) {}
      (({} : Collector).register ⟨[1]⟩ (.streamed 0)) :=
  Program.not_ensures_of_deadlocked rfl

end ResponseCollector

end TypeDBDriver
