import TypeDBDriver.Library.HashMap
import TypeDBDriver.Network.MessageDecoding

/-! The sending ends of the channels that answer a request, and what has arrived at
their receiving ends. A channel is named by the number of the call that created it.
Receiving ends keep everything that was ever sent; a consumer remembers how far it read.
A send to a receiver that is gone only writes a log line, so dropping a receiver and
never reading it again are the same thing here. -/

namespace TypeDBDriver

open Library

abbrev Ticket := Nat

inductive ResponseSink where
  | immediateOneShot (handler : Ticket)
  | asyncOneShot (sender : Ticket)
  | blockingOneShot (sender : Ticket)
  | streamed (sender : Ticket)
  deriving DecidableEq, Repr

inductive StreamResponse (α : Type) where
  | result (result : Result α)
  | continue (requestId : RequestID)

structure Receivers (α : Type) where
  oneShots : Ticket → Option (Result α) := fun _ => none
  streams : Ticket → List (StreamResponse α) := fun _ => []
  handled : Ticket → List (Result α) := fun _ => []

namespace Receivers

variable {α : Type}

def sendOneShot (receivers : Receivers α) (ticket : Ticket) (response : Result α) : Receivers α :=
  { receivers with oneShots := Function.update receivers.oneShots ticket (some response) }

def sendStream (receivers : Receivers α) (ticket : Ticket) (response : StreamResponse α) :
    Receivers α :=
  { receivers with
    streams := Function.update receivers.streams ticket (receivers.streams ticket ++ [response]) }

def runHandler (receivers : Receivers α) (ticket : Ticket) (response : Result α) : Receivers α :=
  { receivers with
    handled := Function.update receivers.handled ticket (receivers.handled ticket ++ [response]) }

section

variable (receivers : Receivers α)

include receivers

@[simp] theorem sendOneShot_streams (ticket : Ticket) (response : Result α) :
    (receivers.sendOneShot ticket response).streams = receivers.streams :=
  rfl

@[simp] theorem sendStream_oneShots (ticket : Ticket) (response : StreamResponse α) :
    (receivers.sendStream ticket response).oneShots = receivers.oneShots := rfl

@[simp] theorem runHandler_oneShots (ticket : Ticket) (response : Result α) :
    (receivers.runHandler ticket response).oneShots = receivers.oneShots :=
  rfl

@[simp] theorem runHandler_streams (ticket : Ticket) (response : Result α) :
    (receivers.runHandler ticket response).streams = receivers.streams :=
  rfl

theorem sendOneShot_oneShots_apply (ticket other : Ticket) (response : Result α) :
    (receivers.sendOneShot ticket response).oneShots other =
      if other = ticket then some response else receivers.oneShots other :=
  Function.update_apply ..

theorem sendStream_streams_apply (ticket other : Ticket) (response : StreamResponse α) :
    (receivers.sendStream ticket response).streams other =
      if other = ticket then receivers.streams ticket ++ [response]
      else receivers.streams other :=
  Function.update_apply ..

end

end Receivers

namespace ResponseSink

variable {α : Type}

def ticket : ResponseSink → Ticket
  | .immediateOneShot ticket => ticket
  | .asyncOneShot ticket => ticket
  | .blockingOneShot ticket => ticket
  | .streamed ticket => ticket

def isStreamed : ResponseSink → Bool
  | .streamed _ => true
  | _ => false

def finish (sink : ResponseSink) (response : Result α) (receivers : Receivers α) : Receivers α :=
  match sink with
  | .immediateOneShot handler => receivers.runHandler handler response
  | .asyncOneShot sender => receivers.sendOneShot sender response
  | .blockingOneShot sender => receivers.sendOneShot sender response
  | .streamed sender => receivers.sendStream sender (.result response)

def sendResult (sink : ResponseSink) (response : Result α) :
    Option (Receivers α → Receivers α) :=
  match sink with
  | .streamed sender => some fun receivers => receivers.sendStream sender (.result response)
  | _ => none

def sendContinuable (sink : ResponseSink) (requestId : RequestID) :
    Option (Receivers α → Receivers α) :=
  match sink with
  | .streamed sender => some fun receivers => receivers.sendStream sender (.continue requestId)
  | _ => none

def error (sink : ResponseSink) (error : Error) (receivers : Receivers α) : Receivers α :=
  match sink with
  | .asyncOneShot sender => receivers.sendOneShot sender (.error error)
  | .blockingOneShot sender => receivers.sendOneShot sender (.error error)
  | .streamed sender => receivers.sendStream sender (.result (.error error))
  | .immediateOneShot _ => receivers

end ResponseSink

end TypeDBDriver
