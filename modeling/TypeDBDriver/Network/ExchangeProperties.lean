import TypeDBDriver.Network.TransmitterInvariant

/-! How long a sink stays in the map after the exchange it serves is over. -/

namespace TypeDBDriver

open Library
open Proto.Transaction (Server Res)
open ResponseCollector (Begins Completes)
open ListenPhase (inHand stuckOn)
open TransactionResponse (tryFromProto tryFromProtoPart)

namespace Proto.Transaction.Server

/-- The messages after which a request awaits nothing more: an initial response that is an
error or has no stream, the end of a stream, a message that does not decode, the response
to a commit or a rollback. -/
def concludes (chrono : Chrono) (message : Server) : Bool :=
  match message.server with
  | some (.res res) =>
    match tryFromProto res with
    | .ok (.query (.ok _)) | .ok (.query (.error _)) => true
    | .ok .commit | .ok .rollback => true
    | .error _ | .panicked => true
    | .ok _ => false
  | some (.resPart part) =>
    match part.resPart with
    | some (.queryRes queryRes) =>
      match tryFromProtoPart chrono queryRes with
      | .ok _ => false
      | .error _ | .panicked => true
    | some (.streamRes (some .done)) | some (.streamRes (some (.error _))) => true
    | _ => false
  | none => false

/-- The concluding messages that leave the sink in the map: an initial response that is an
error or has no stream, a part that does not decode, and an error of a stream that the
request never had. -/
def lingers (chrono : Chrono) (sink : ResponseSink) (message : Server) : Bool :=
  match message.server with
  | some (.res res) =>
    match tryFromProto res with
    | .ok (.query (.ok _)) | .ok (.query (.error _)) => true
    | _ => false
  | some (.resPart part) =>
    match part.resPart with
    | some (.queryRes queryRes) =>
      match tryFromProtoPart chrono queryRes with
      | .ok _ => false
      | .error _ | .panicked => true
    | some (.streamRes (some (.error _))) => !sink.isStreamed
    | _ => false
  | none => false

variable {chrono : Chrono}

theorem concludes_cases {message : Server} (sink : ResponseSink)
    (concludes : message.concludes chrono = true) :
    message.lingers chrono sink = true ∨ (message.reaction chrono).ends = true := by
  rcases message with ⟨_ | res | ⟨reqId, _ | queryRes | (_ | _ | _ | error)⟩⟩
  · simp [Server.concludes] at concludes
  · cases decoded : tryFromProto res with
    | panicked => exact absurd decoded (TransactionResponse.tryFromProto_ne_panicked res)
    | error cause => exact .inr (by simp [reaction, Res.reaction, decoded, Reaction.ends])
    | ok response =>
      cases response with
      | «open» | close => simp [Server.concludes, decoded] at concludes
      | commit | rollback =>
        exact .inr (by simp [reaction, Res.reaction, decoded, Reaction.ends])
      | query response =>
        cases response with
        | ok | error => exact .inl (by simp [lingers, decoded])
        | conceptRowsHeader | conceptDocumentsHeader | streamConceptRows
          | streamConceptDocuments => simp [Server.concludes, decoded] at concludes
  · simp [Server.concludes] at concludes
  · cases decoded : tryFromProtoPart chrono queryRes with
    | ok response => simp [Server.concludes, decoded] at concludes
    | error cause => exact .inl (by simp [lingers, decoded])
    | panicked => exact .inl (by simp [lingers, decoded])
  · simp [Server.concludes] at concludes
  · simp [Server.concludes] at concludes
  · exact .inr rfl
  · exact .inr rfl

theorem lingers_of_fail {part : ResPart} {sink : ResponseSink}
    {item : StreamResponse TransactionResponse} (reacts : part.reaction chrono = .fail item) :
    lingers chrono sink ⟨some (.resPart part)⟩ = !sink.isStreamed := by
  rcases part with ⟨reqId, _ | queryRes | (_ | _ | _ | error)⟩
  · cases reacts
  · simp only [ResPart.reaction] at reacts
    split at reacts <;> cases reacts
  · cases reacts
  · cases reacts
  · cases reacts
  · rfl

end Proto.Transaction.Server

namespace Transmitter

variable {env : Environment} {state next : State} {label : Label}

def processed (state : State) : List Server := state.collected ++ state.listen.stuckOn

def isOver (env : Environment) (state : State) (requestId : RequestID) : Bool :=
  (processed state).any fun message =>
    message.requestId == some requestId && message.concludes env.chrono

def awaiting (env : Environment) (state : State) : List Ticket :=
  (List.range state.calls.length).filter fun ticket =>
    (state.assigned ticket).any fun requestId => !isOver env state requestId

/-- The message at hand does not conclude an exchange and leave its sink behind. -/
def clears (env : Environment) (state : State) : Label → Bool
  | .listen _ =>
    (currentMessage state).all fun message => message.requestId.all fun requestId =>
      (state.collector.callbacks.lookup requestId).all fun sink =>
        !message.lingers env.chrono sink
  | _ => true

variable {choice : Nat} {message : Server} {sink : ResponseSink} {requestId : RequestID}

theorem not_lingers_of_clears (clears : clears env state (.listen choice) = true)
    (current : currentMessage state = some message) (named : message.requestId = some requestId)
    (found : state.collector.callbacks.lookup requestId = some sink) :
    message.lingers env.chrono sink = false := by
  simpa [Transmitter.clears, current, named, found] using clears

def Clean (env : Environment) (state : State) : Prop :=
  ∀ requestId sink, state.collector.callbacks.lookup requestId = some sink →
    ∀ message ∈ processed state, message.requestId = some requestId →
      message.concludes env.chrono = false

theorem Arrival.processed_subset (arrival : Arrival state) : processed state ⊆ state.sent := by
  intro message member
  refine arrival.ordered.subset (List.mem_append_left _ ?_)
  refine (List.mem_append.mp member).elim (List.mem_append_left _) fun stuck => ?_
  refine List.mem_append_right _ ?_
  cases phase : state.listen with
  | deadlocked held => simpa [phase, stuckOn, inHand] using stuck
  | panicked cause held =>
    cases held with
    | none => simp [phase, stuckOn] at stuck
    | some held => simpa [phase, stuckOn, inHand] using stuck
  | _ => simp [phase, stuckOn] at stuck

section

variable (clean : Clean env state)
    (callbacks : ∀ requestId sink, next.collector.callbacks.lookup requestId = some sink →
      state.collector.callbacks.lookup requestId = some sink)

include clean callbacks

theorem Clean.shrink (same : processed next = processed state) : Clean env next := by
  intro requestId sink found
  rw [same]
  exact clean requestId sink (callbacks requestId sink found)

theorem Clean.extend (same : processed next = state.collected ++ [message])
    (concluded : ∀ requestId sink, message.requestId = some requestId →
      next.collector.callbacks.lookup requestId = some sink →
      message.concludes env.chrono = false) : Clean env next := by
  intro requestId sink found held member named
  rw [same] at member
  rcases List.mem_append.mp member with member | member
  · exact clean requestId sink (callbacks requestId sink found) held
      (List.mem_append_left _ member) named
  · cases List.mem_singleton.mp member
    exact concluded requestId sink named found

end

theorem concludes_eq_false (lingers : message.lingers env.chrono sink = false)
    (ends : (message.reaction env.chrono).ends = false) : message.concludes env.chrono = false := by
  by_contra concludes
  rcases Server.concludes_cases sink (Bool.not_eq_false _ ▸ concludes) with lingering | ending
  · simp [lingers] at lingering
  · simp [ends] at ending

section

variable (clean : Clean env state) (clears : clears env state (.listen choice) = true)
    (current : currentMessage state = some message)

include clean clears current

theorem Clean.finished {memory : Collector}
    (subset : ∀ requestId sink, memory.callbacks.lookup requestId = some sink →
      state.collector.callbacks.lookup requestId = some sink)
    (updates : ResponseCollector.Updates env.chrono state.collector message memory)
    (same : next.collected = state.collected ++ [message]) (collector : next.collector = memory)
    (phase : next.listen = .receiving) : Clean env next := by
  have listed : processed next = state.collected ++ [message] := by
    simp [processed, same, phase, stuckOn]
  refine clean.extend (collector ▸ subset) listed ?_
  intro requestId sink named found
  rw [collector] at found
  refine concludes_eq_false
    (not_lingers_of_clears clears current named (subset requestId sink found)) ?_
  by_contra ends
  simp [updates.removes requestId named (by simpa using ends)] at found

theorem Clean.stuck (callbacks : next.collector.callbacks = state.collector.callbacks)
    (same : processed next = state.collected ++ [message])
    (ends : ∀ requestId sink, message.requestId = some requestId →
      state.collector.callbacks.lookup requestId = some sink →
      message.lingers env.chrono sink = false → (message.reaction env.chrono).ends = false) :
    Clean env next := by
  refine clean.extend (fun requestId sink found => callbacks ▸ found) same ?_
  intro requestId sink named found
  rw [callbacks] at found
  have lingers := not_lingers_of_clears clears current named found
  exact concludes_eq_false lingers (ends requestId sink named found lingers)

end

variable {progress : Progress Collector PanicCause Unit}

theorem Clean.begins (clean : Clean env state) {rest : List Server}
    (clears : clears env state (.listen choice) = true) (phase : state.listen = .receiving)
    (incoming : state.incoming = message :: rest)
    (collects : Begins env.chrono state.collector message progress) :
    Clean env (endSection { state with incoming := rest } message progress) := by
  have current := currentMessage_of_receiving phase incoming
  cases progress with
  | finished _ lock memory =>
    exact clean.finished clears current (fun _ _ => collects.lookup_subset) collects.updates
      rfl rfl rfl
  | paused rest lock memory =>
    refine clean.shrink (fun _ _ => collects.lookup_subset) ?_
    simp [processed, endSection, phase, stuckOn]
  | deadlocked lock memory =>
    refine clean.stuck clears current (collects.unfinished_callbacks (by rintro _ _ _ ⟨⟩)) rfl ?_
    intro requestId sink named found lingers
    cases collects with
    | stalled found reacts => simp [Server.reaction, reacts, Reaction.ends]
  | panicked cause lock memory =>
    refine clean.stuck clears current (collects.unfinished_callbacks (by rintro _ _ _ ⟨⟩)) rfl ?_
    intro requestId sink named found lingers
    cases collects with
    | crashed found reacts => simp [Server.reaction, reacts, Reaction.ends]
    | oneShot held single reacts =>
      obtain ⟨item, reacts | reacts⟩ := reacts
      · simp [Server.reaction, reacts, Reaction.ends]
      · cases named
        obtain rfl := Option.some.inj (held.symm.trans found)
        simp [Server.lingers_of_fail reacts, single] at lingers

theorem Clean.completes (clean : Clean env state) (locking : Locking state) {rest : Action Unit}
    (clears : clears env state (.listen choice) = true)
    (phase : state.listen = .collecting message rest)
    (collects : Completes state.collector message progress) :
    Clean env (endSection state message progress) := by
  have current := currentMessage_of_collecting phase
  cases progress with
  | finished _ lock memory =>
    exact clean.finished clears current (fun _ _ => collects.lookup_subset) collects.updates
      rfl rfl rfl
  | paused _ lock memory | deadlocked lock memory => cases collects
  | panicked cause lock memory =>
    cases collects with
    | missing absent =>
      obtain ⟨sink, found⟩ := locking.registered _ _ phase
      simp [found] at absent
    | oneShot found single reacts =>
      refine clean.stuck clears current rfl rfl fun _ _ _ _ _ => ?_
      simp [Server.reaction, reacts, Reaction.ends]

theorem Transition.clean (sound : Sound env state) (clean : Clean env state)
    (clears : clears env state label = true) (move : Transition env state label next) :
    Clean env next := by
  cases move with
  | registered phase =>
    intro requestId sink found message member named
    dsimp only at found
    rw [Collector.register_lookup] at found
    split_ifs at found with same
    · exact absurd (same ▸ named)
        (not_named_of_registering sound.wiring sound.secrecy phase
          (sound.arrival.processed_subset member))
    · exact clean requestId sink found message member named
  | begins phase incoming collects => exact clean.begins clears phase incoming collects
  | completes phase collects => exact clean.completes sound.locking clears phase collects
  | listenersTaken phase =>
    intro requestId sink found
    simp at found
  | closing phase | closingWithError phase | errorStored phase | listenersDone phase
    | listenerFinished phase | callbacksTaken phase | callbacksDone phase | callbackSent phase
    | handlerGone phase | callbackAnswered phase | signalled phase =>
      refine clean.shrink (fun _ _ => id) ?_
      simp [processed, phase, stuckOn, signalShutdown]
  | aborted phase =>
    refine clean.shrink (fun _ _ => id) ?_
    rcases phase with phase | ⟨error, callback, rest, phase⟩ <;>
      simp [processed, phase, stuckOn]
  | _ => exact clean.shrink (fun _ _ => id) rfl

theorem Clean.isOver_eq_false (clean : Clean env state)
    (found : state.collector.callbacks.lookup requestId = some sink) :
    isOver env state requestId = false := by
  simp only [isOver, List.any_eq_false, Bool.and_eq_true, beq_iff_eq, not_and, Bool.not_eq_true]
  exact clean requestId sink found

theorem callbacks_length_le (sound : Sound env state) (clean : Clean env state) :
    state.collector.callbacks.entries.length ≤ (awaiting env state).length := by
  have owner : ∀ entry ∈ state.collector.callbacks.entries,
      ∃ user, Dispatched state entry.2.ticket user entry.1 := by
    intro given member
    obtain ⟨requestId, sink⟩ := given
    obtain ⟨ticket, user, dispatched, rfl⟩ :=
      sound.wiring.callbacks requestId sink (AList.mem_lookup_iff.mpr member)
    exact ⟨user, by simpa using dispatched⟩
  have distinct : (state.collector.callbacks.entries.map (·.2.ticket)).Nodup := by
    refine state.collector.callbacks.nodupKeys.nodup.map_on ?_
    intro first firstMember second secondMember same
    obtain ⟨_, dispatched⟩ := owner first firstMember
    obtain ⟨_, dispatched'⟩ := owner second secondMember
    rw [same] at dispatched
    exact state.collector.callbacks.nodupKeys.eq_of_fst_eq firstMember secondMember
      (Option.some.inj (dispatched.2.symm.trans dispatched'.2))
  have subset : state.collector.callbacks.entries.map (·.2.ticket) ⊆ awaiting env state := by
    intro ticket member
    obtain ⟨⟨requestId, sink⟩, entry, rfl⟩ := List.mem_map.mp member
    obtain ⟨user, called, assigned⟩ := owner _ entry
    have running := clean.isOver_eq_false (AList.mem_lookup_iff.mpr entry)
    refine List.mem_filter.mpr ⟨List.mem_range.mpr (List.getElem?_eq_some_iff.mp called).1, ?_⟩
    simp [assigned, running]
  simpa using (List.subperm_of_subset distinct subset).length_le

/-- If no message concludes an exchange and leaves its sink behind, the map never holds a
sink of a finished exchange, and is no larger than the number of awaiting requests. -/
theorem callbacks_hold_no_finished_sink (env : Environment) {labels : List Label} {state : State}
    (meets : (system env).Meets (fun state label => clears env state label = true) {} labels)
    (ran : (system env).run {} labels = some state) :
    (∀ requestId sink, state.collector.callbacks.lookup requestId = some sink →
      isOver env state requestId = false) ∧
    state.collector.callbacks.entries.length ≤ (awaiting env state).length := by
  obtain ⟨sound, clean⟩ := sound_run_invariant
    (fun sound clean clears move => move.clean sound clean clears)
    (fun _ _ found => by cases found) meets ran
  exact ⟨fun _ _ found => clean.isOver_eq_false found, callbacks_length_le sound clean⟩

theorem callbacks_hold_no_finished_sink_commit :
    ∃ state, (system Environment.basic).run {} commitRun = some state ∧
      isOver Environment.basic state ⟨[7]⟩ = true ∧
      state.collector.callbacks.entries.length ≤ (awaiting Environment.basic state).length := by
  have meets : (system Environment.basic).Meets
      (fun state label => clears Environment.basic state label = true) {} commitRun := by decide
  exact ⟨_, rfl, rfl, (callbacks_hold_no_finished_sink Environment.basic meets rfl).2⟩

def doneQueryRun : List Label :=
  requestRun 0 (.query ⟨"define entity person;", {}⟩) ⟨[7]⟩ ++
    [.serverSend ⟨some (.res ⟨[7], some (.queryInitialRes ⟨some (.ok (some (.done 2)))⟩)⟩)⟩,
      .listen 0, .listen 0]

theorem callbacks_keep_done_query :
    ∃ state, (system Environment.basic).run {} doneQueryRun = some state ∧
      state.isOpen = true ∧ isOver Environment.basic state ⟨[7]⟩ = true ∧
      state.collector.callbacks.lookup ⟨[7]⟩ = some (.streamed 0) ∧
      state.collector.callbacks.entries.length = 1 ∧
      awaiting Environment.basic state = [] :=
  ⟨_, rfl, rfl, rfl, rfl, rfl, rfl⟩

end Transmitter

end TypeDBDriver
