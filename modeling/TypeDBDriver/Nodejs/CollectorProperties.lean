import TypeDBDriver.Nodejs.SettlementProperties

/-! What the collectors of responses hold. A queue is made for each request, and
`ResponseCollector.remove` is called by nobody. -/

namespace TypeDBDriver.Nodejs.BidirectionalStream

open Library

variable {Content : Type} {stream : BidirectionalStream Content}

def Holds (stream : BidirectionalStream Content) (requestId : RequestId) : Prop :=
  (stream.responseCollector requestId).isSome = true ∨
    (stream.responsePartCollector requestId).isSome = true

/-- The exchange of the request is over: the promise of `single` is settled, or the iterator has
told its consumer that the stream is done. -/
inductive Finished (stream : BidirectionalStream Content) (requestId : RequestId) : Prop where
  | single {call promise : Nat} (called : stream.singles[call]? = some ⟨requestId, promise⟩)
      (settled : stream.settlement (.single call) ≠ none)
  | stream {iterator : ResponsePartIterator Content}
      (created : stream.iterators requestId = some iterator) (ended : iterator.phase = .ended)

def Released (stream : BidirectionalStream Content) : Prop :=
  ∀ requestId, stream.Holds requestId → ¬ stream.Finished requestId

theorem holds_of_finished {labels : List (Label Content)}
    (ran : (system Content).run {} labels = some stream) {requestId : RequestId}
    (finished : stream.Finished requestId) : stream.Holds requestId := by
  cases finished with
  | single called settled =>
    obtain ⟨added, -, ⟨queue, found, -⟩, -⟩ :=
      singlesCalled_of_run ran _ (List.mem_of_getElem? called)
    exact .inl (Option.isSome_iff_exists.mpr ⟨queue, found⟩)
  | stream created ended =>
    obtain ⟨consumed, rest, -, follows⟩ := follows_of_run ran created
    obtain ⟨queue, iterator, closes, taken, found, -⟩ := follows
    exact .inr (Option.isSome_iff_exists.mpr ⟨queue, found⟩)

/-- In a reachable state the queues are released exactly as long as no exchange has finished. -/
theorem released_iff {labels : List (Label Content)}
    (ran : (system Content).run {} labels = some stream) :
    stream.Released ↔ ∀ requestId, ¬ stream.Finished requestId := by
  constructor
  · intro released requestId finished
    exact released requestId (holds_of_finished ran finished) finished
  · intro none requestId _
    exact none requestId

/-- A request that waits for its response. -/
theorem released_iff_pending :
    ∃ stream, (system String).run {} [.rpcExecute 0] = some stream ∧ stream.Holds 0 ∧
      stream.Released := by
  have ran : (system String).run {} [.rpcExecute 0] = some _ := rfl
  refine ⟨_, ran, .inl rfl, (released_iff ran).mpr ?_⟩
  intro requestId finished
  cases finished with
  | @single call promise called settled =>
    cases call with
    | zero => exact settled rfl
    | succ call => cases called
  | stream created ended => cases created

/-- The queues of a request that was answered and of a stream that is done are still there. -/
theorem finished_queues_held :
    ∃ stream, (system String).run {} [.rpcExecute 0, .rpcStream 1, .pull 1,
          .dataEvent (.res ⟨0, "answer"⟩), .dataEvent (.resPart ⟨1, some .done, ""⟩), .resume 1] =
        some stream ∧
      stream.isOpen = true ∧ (stream.Finished 0 ∧ (stream.responseCollector 0).isSome = true) ∧
      stream.Finished 1 ∧ (stream.responsePartCollector 1).isSome = true := by
  have ran : (system String).run {} [.rpcExecute 0, .rpcStream 1, .pull 1,
      .dataEvent (.res ⟨0, "answer"⟩), .dataEvent (.resPart ⟨1, some .done, ""⟩), .resume 1] =
    some _ := rfl
  refine ⟨_, ran, rfl, ⟨@Finished.single String _ 0 0 0 rfl ?_, rfl⟩, ?_, rfl⟩
  · exact Option.some_ne_none _
  · exact @Finished.stream String _ 1 ⟨.ended, []⟩ rfl rfl

end TypeDBDriver.Nodejs.BidirectionalStream
