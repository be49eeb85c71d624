import TypeDBDriver.Library.LockProgram
import TypeDBDriver.Network.DecodingProperties
import TypeDBDriver.Network.ResponseSink

/-! The collector that hands each server message to the sink of its request. The map of
sinks is behind a lock, and the guards are written out where the source keeps them
alive: to the end of the statement for a method chain, to the end of the whole `match`
for a guard made in its scrutinee. -/

namespace TypeDBDriver

open Library

inductive PanicCause where
  | poisonedLock
  | missingEntry
  | streamOverOneShot
  | decoding
  | callbackHandlerGone
  | requestSinkClosed
  deriving DecidableEq, Repr

structure Collector where
  callbacks : HashMap RequestID ResponseSink := ∅
  receivers : Receivers TransactionResponse := {}
  log : List Error := []

namespace Collector

def register (collector : Collector) (requestId : RequestID) (sink : ResponseSink) : Collector :=
  { collector with callbacks := collector.callbacks.insert requestId sink }

def remove (collector : Collector) (requestId : RequestID) : Collector :=
  { collector with callbacks := collector.callbacks.erase requestId }

def deliver (collector : Collector)
    (send : Receivers TransactionResponse → Receivers TransactionResponse) : Collector :=
  { collector with receivers := send collector.receivers }

def logError (collector : Collector) (error : Error) : Collector :=
  { collector with log := collector.log ++ [error] }

theorem register_lookup (collector : Collector) (requestId other : RequestID)
    (sink : ResponseSink) :
    (collector.register requestId sink).callbacks.lookup other =
      if other = requestId then some sink else collector.callbacks.lookup other := by
  by_cases same : other = requestId
  · subst same
    simp [register]
  · simp [register, same, AList.lookup_insert_ne same]

theorem remove_lookup (collector : Collector) (requestId other : RequestID) :
    (collector.remove requestId).callbacks.lookup other =
      if other = requestId then none else collector.callbacks.lookup other := by
  by_cases same : other = requestId
  · subst same
    simp [remove]
  · simp [remove, same, AList.lookup_erase_ne same]

end Collector

abbrev Action := Program Collector PanicCause

namespace Action

def logError (error : Error) : Action Unit := Program.update fun memory => memory.logError error

def get (requestId : RequestID) : Action (Option ResponseSink) :=
  Program.inspect fun memory => memory.callbacks.lookup requestId

def remove (requestId : RequestID) : Action (Option ResponseSink) :=
  .access (fun memory => memory.remove requestId) fun memory =>
    .pure (memory.callbacks.lookup requestId)

def unwrap : Option ResponseSink → Action ResponseSink
  | some sink => .pure sink
  | none => .panic .missingEntry

/-- A send over a stream; `none` is the `unreachable!` branch of the sink. -/
def stream : Option (Receivers TransactionResponse → Receivers TransactionResponse) → Action Unit
  | some send => Program.update fun memory => memory.deliver send
  | none => .panic .streamOverOneShot

end Action

def Proto.Transaction.Server.requestId (message : Proto.Transaction.Server) : Option RequestID :=
  match message.server with
  | some (.res res) => some ⟨res.reqId⟩
  | some (.resPart part) => some ⟨part.reqId⟩
  | none => none

def unknownRequestId (requestId : RequestID) : Error := .connection (.unknownRequestId requestId)

namespace ResponseCollector

/-- `let sink = self.callbacks.write().unwrap().remove(&request_id).unwrap();` and then the
answer, which is sent when the guard of the statement is gone. -/
def settle (requestId : RequestID)
    (answer : ResponseSink → Receivers TransactionResponse → Receivers TransactionResponse) :
    Action Unit := do
  Program.take .write
  let sink ← Action.remove requestId >>= Action.unwrap
  Program.drop .write
  Program.update fun memory => memory.deliver (answer sink)

def completeRes (res : Proto.Transaction.Res) : Action Unit :=
  let requestId : RequestID := ⟨res.reqId⟩
  match TransactionResponse.tryFromProto res with
  | .panicked => .panic .decoding
  | .error err => settle requestId fun sink => sink.error err
  | .ok (.query response) => do
      Program.take .write
      let sink ← Action.get requestId >>= Action.unwrap
      Action.stream (sink.sendResult (.ok (.query response)))
      Program.drop .write
  | .ok okResponse => settle requestId fun sink => sink.finish (.ok okResponse)

/-- `collect_res`. The read guard ends with the condition of the `if`. -/
def collectRes (res : Proto.Transaction.Res) : Action Unit := do
  let requestId : RequestID := ⟨res.reqId⟩
  Program.take .read
  let sink ← Action.get requestId
  Program.drop .read
  if sink.isNone then Action.logError (unknownRequestId requestId) else completeRes res

/-- `self.callbacks.write().unwrap().remove(&request_id);` as a statement. -/
def unregister (requestId : RequestID) : Action Unit := do
  Program.take .write
  let _ ← Action.remove requestId
  Program.drop .write

/-- The branch for rows and documents. The read guard of the scrutinee is alive in
every branch of the match. -/
def collectQueryRes (chrono : Chrono) (requestId : RequestID) (queryRes : Proto.Query.ResPart) :
    Action Unit := do
  Program.take .read
  match ← Action.get requestId with
  | some sink =>
    match TransactionResponse.tryFromProtoPart chrono queryRes with
    | .panicked => .panic .decoding
    | .error err =>
      unregister requestId
      Action.logError err
      Action.stream (sink.sendResult (.error err))
      Program.drop .read
    | .ok response =>
      Action.stream (sink.sendResult (.ok response))
      Program.drop .read
  | none =>
    Action.logError (unknownRequestId requestId)
    Program.drop .read

/-- `match self.callbacks.read().unwrap().get(&request_id)` around a send, with the guard
dropped at the end of the match. -/
def signal (requestId : RequestID)
    (send : ResponseSink → Option (Receivers TransactionResponse → Receivers TransactionResponse)) :
    Action Unit := do
  Program.take .read
  match ← Action.get requestId with
  | some sink =>
    Action.stream (send sink)
    Program.drop .read
  | none =>
    Action.logError (unknownRequestId requestId)
    Program.drop .read

def collectStreamRes (requestId : RequestID) : Option Proto.Transaction.StreamState → Action Unit
  | none => do
      unregister requestId
      Action.logError (missingResponseField "transaction.res_part.res_part.stream_res.state")
  | some .continue => signal requestId fun sink => sink.sendContinuable requestId
  | some .done => unregister requestId
  | some (.error error) => do
      signal requestId fun sink => sink.sendResult (.ok (.query (QueryResponse.fromProto error)))
      unregister requestId

def collectResPart (chrono : Chrono) (resPart : Proto.Transaction.ResPart) : Action Unit :=
  let requestId : RequestID := ⟨resPart.reqId⟩
  match resPart.resPart with
  | some (.queryRes queryRes) => collectQueryRes chrono requestId queryRes
  | some (.streamRes state) => collectStreamRes requestId state
  | none => do
      unregister requestId
      Action.logError (missingResponseField "transaction.res_part.res_part")

def collect (chrono : Chrono) (message : Proto.Transaction.Server) : Action Unit :=
  match message.server with
  | some (.res res) => collectRes res
  | some (.resPart resPart) => collectResPart chrono resPart
  | none => Action.logError (missingResponseField "server")

end ResponseCollector

end TypeDBDriver
