
/-! The network latency of a session in the Node.js driver: `openAt` measures it, and the open
request of every transaction carries it to the server. -/

namespace TypeDBDriver.Nodejs.Latency

/-- `Date.getMilliseconds`, of an instant in milliseconds since the epoch. The offset of the local
zone is a whole number of seconds. -/
def getMilliseconds (instant : Int) : Int := instant % 1000

structure SessionOpenRes where
  sessionId : List UInt8
  serverDurationMillis : Nat

structure Exchange where
  start : Int
  «end» : Int
  res : SessionOpenRes

/-- `_id` is a hexadecimal text and goes by its bytes. -/
structure TypeDBSessionImpl where
  id : List UInt8 := []
  serverDriver : Option String := none
  isOpen : Bool := false
  networkLatencyMillis : Option Int := none

structure TransactionOpenReq (Options : Type) where
  sessionId : List UInt8
  write : Bool
  options : Options
  networkLatencyMillis : Option Int

namespace TypeDBSessionImpl

variable {Options : Type}

def openAt (serverDriver : String) (exchange : Exchange) (session : TypeDBSessionImpl) :
    TypeDBSessionImpl :=
  let start := getMilliseconds exchange.start
  let «end» := getMilliseconds exchange.end
  { session with
    networkLatencyMillis := some (max («end» - start - exchange.res.serverDurationMillis) 1)
    id := exchange.res.sessionId
    serverDriver := some serverDriver
    isOpen := true }

def openReq (write : Bool) (options : Options) (session : TypeDBSessionImpl) :
    TransactionOpenReq Options :=
  ⟨session.id, write, options, session.networkLatencyMillis⟩

inductive Event (Options : Type) where
  | transaction (write : Bool) (options : Options)
  | close

def step (session : TypeDBSessionImpl) :
    Event Options → TypeDBSessionImpl × List (TransactionOpenReq Options)
  | .transaction write options =>
    if session.isOpen then (session, [session.openReq write options]) else (session, [])
  | .close => ({ session with isOpen := false }, [])

def run (session : TypeDBSessionImpl) :
    List (Event Options) → TypeDBSessionImpl × List (TransactionOpenReq Options)
  | [] => (session, [])
  | event :: events =>
    let (session, sent) := session.step event
    let (session, requests) := session.run events
    (session, sent ++ requests)

theorem step_latency (session : TypeDBSessionImpl) (event : Event Options) :
    (session.step event).1.networkLatencyMillis = session.networkLatencyMillis ∧
      ∀ request ∈ (session.step event).2,
        request.networkLatencyMillis = session.networkLatencyMillis := by
  cases event with
  | transaction write options =>
    cases opened : session.isOpen with
    | false => simp [step, opened]
    | true => simp [step, opened, openReq]
  | close => simp [step]

theorem run_latency (session : TypeDBSessionImpl) (events : List (Event Options)) :
    (session.run events).1.networkLatencyMillis = session.networkLatencyMillis ∧
      ∀ request ∈ (session.run events).2,
        request.networkLatencyMillis = session.networkLatencyMillis := by
  induction events generalizing session with
  | nil => simp [run]
  | cons event events ih =>
    obtain ⟨stored, carried⟩ := step_latency session event
    obtain ⟨storedLater, carriedLater⟩ := ih (session.step event).1
    refine ⟨storedLater.trans stored, fun request sent => ?_⟩
    rcases List.mem_append.mp sent with first | later
    · exact carried request first
    · exact (carriedLater request later).trans stored

end TypeDBSessionImpl

def Exchange.latency (exchange : Exchange) : Int :=
  max (exchange.end - exchange.start - exchange.res.serverDurationMillis) 1

/-- Both instants lie in one second of the clock, or the exchange was so short that the latency is
the least one. -/
def Exchange.Measurable (exchange : Exchange) : Prop :=
  exchange.start / 1000 = exchange.end / 1000 ∨
    exchange.end - exchange.start - exchange.res.serverDurationMillis ≤ 1

theorem Exchange.measured_iff {exchange : Exchange} (ordered : exchange.start ≤ exchange.end) :
    max (getMilliseconds exchange.end - getMilliseconds exchange.start -
      exchange.res.serverDurationMillis) 1 = exchange.latency ↔ exchange.Measurable := by
  unfold getMilliseconds Exchange.latency Exchange.Measurable
  omega

/-- What a session stores and sends until it is opened again is the latency of the exchange that
opened it exactly if the milliseconds of the clock suffice to measure it. -/
theorem TypeDBSessionImpl.latency_carried_iff {Options : Type} (session : TypeDBSessionImpl)
    (serverDriver : String) (exchange : Exchange) (ordered : exchange.start ≤ exchange.end)
    (events : List (Event Options)) :
    (((session.openAt serverDriver exchange).run events).1.networkLatencyMillis =
        some exchange.latency ∧
      ∀ request ∈ ((session.openAt serverDriver exchange).run events).2,
        request.networkLatencyMillis = some exchange.latency) ↔
      exchange.Measurable := by
  obtain ⟨stored, carried⟩ := run_latency (session.openAt serverDriver exchange) events
  have measured : (session.openAt serverDriver exchange).networkLatencyMillis =
      some exchange.latency ↔ exchange.Measurable := by
    rw [← Exchange.measured_iff ordered]
    exact Option.some_inj
  rw [← measured]
  constructor
  · rintro ⟨kept, -⟩
    exact stored.symm.trans kept
  · intro kept
    exact ⟨stored.trans kept, fun request sent => (carried request sent).trans kept⟩

theorem TypeDBSessionImpl.latency_carried_iff_within_second :
    (((({} : TypeDBSessionImpl).openAt "server" ⟨1700000000100, 1700000000150, ⟨[1], 20⟩⟩).run
          [.transaction true ()]).1.networkLatencyMillis = some 30 ∧
      ∀ request ∈ ((({} : TypeDBSessionImpl).openAt "server"
          ⟨1700000000100, 1700000000150, ⟨[1], 20⟩⟩).run [.transaction true ()]).2,
        request.networkLatencyMillis = some 30) :=
  (latency_carried_iff {} "server" ⟨1700000000100, 1700000000150, ⟨[1], 20⟩⟩ (by decide)
    [.transaction true ()]).mpr (.inl (by decide))

/-- A call that takes a second and a half at a server that needs a tenth of a second. -/
theorem TypeDBSessionImpl.latency_lost_across_seconds :
    (({} : TypeDBSessionImpl).openAt "server"
        ⟨1700000000800, 1700000002300, ⟨[1], 100⟩⟩).networkLatencyMillis = some 1 ∧
      (⟨1700000000800, 1700000002300, ⟨[1], 100⟩⟩ : Exchange).latency = 1400 := by
  decide

end TypeDBDriver.Nodejs.Latency
