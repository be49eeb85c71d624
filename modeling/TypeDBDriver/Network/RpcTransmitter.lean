import Mathlib.Data.List.Perm.Subperm
import TypeDBDriver.Common.Error
import TypeDBDriver.Library.Transition

/-! Requests outside transactions. The dispatcher starts a task for each request it receives, and
the task answers the caller. Tasks end in any order, and all of it ends with the runtime. -/

namespace TypeDBDriver

open Library

/-- A call is a request with the number of requests that were sent before it. -/
structure RPCTransmitter (Request Response : Type) where
  isListening : Bool := true
  requestSource : List (Request × Nat) := []
  shutdownSignals : Nat := 0
  tasks : List (Request × Nat) := []
  sent : List Request := []
  replies : List ((Request × Nat) × Result Response) := []

namespace RPCTransmitter

variable {Request Response : Type} {rpc next : RPCTransmitter Request Response}

inductive Label (Request Response : Type) where
  | request (request : Request)
  | receive
  | shutdown
  /-- The last sender is gone. -/
  | disconnect
  | forceClose
  | reply (task : Nat) (response : Result Response)
  | stopRuntime

/-- The loop drops its receivers, with the sinks of the requests it has not received. -/
def leaveLoop (rpc : RPCTransmitter Request Response) : RPCTransmitter Request Response :=
  { rpc with isListening := false, requestSource := [], shutdownSignals := 0 }

def step (rpc : RPCTransmitter Request Response) :
    Label Request Response → Option (RPCTransmitter Request Response)
  | .request request =>
    if rpc.isListening then
      some { rpc with
        requestSource := rpc.requestSource ++ [(request, rpc.sent.length)]
        sent := rpc.sent ++ [request] }
    -- the caller has its `SendError` at once
    else some rpc
  | .receive =>
    match rpc.requestSource with
    | [] => none
    | call :: rest => some { rpc with requestSource := rest, tasks := rpc.tasks ++ [call] }
  | .shutdown => if rpc.shutdownSignals = 0 then none else some rpc.leaveLoop
  | .disconnect => if rpc.requestSource.isEmpty then some rpc.leaveLoop else none
  | .forceClose =>
    some { rpc with shutdownSignals := rpc.shutdownSignals + if rpc.isListening then 1 else 0 }
  | .reply task response =>
    rpc.tasks[task]?.map fun call =>
      { rpc with tasks := rpc.tasks.eraseIdx task, replies := rpc.replies ++ [(call, response)] }
  | .stopRuntime => some { rpc.leaveLoop with tasks := [] }

def system : TransitionSystem (RPCTransmitter Request Response) (Label Request Response) where
  step := step

/-- Every call that is not lost: answered, at a task, or not received yet. -/
def calls (rpc : RPCTransmitter Request Response) : List (Request × Nat) :=
  rpc.replies.map (·.1) ++ rpc.tasks ++ rpc.requestSource

structure Tracked (rpc : RPCTransmitter Request Response) : Prop where
  once : rpc.calls.Subperm rpc.sent.zipIdx
  kept : rpc.isListening = true → rpc.calls.Perm rpc.sent.zipIdx
  drained : rpc.isListening = false → rpc.requestSource = []

theorem Tracked.dropped (held : Tracked rpc) (calls : next.calls.Sublist rpc.calls)
    (sent : next.sent = rpc.sent) (gone : next.isListening = false)
    (drained : next.requestSource = []) : Tracked next where
  once := sent ▸ calls.subperm.trans held.once
  kept listening := by simp [gone] at listening
  drained _ := drained

theorem Tracked.moved (held : Tracked rpc) (calls : next.calls.Perm rpc.calls)
    (sent : next.sent = rpc.sent) (same : next.isListening = rpc.isListening)
    (drained : rpc.requestSource = [] → next.requestSource = []) : Tracked next where
  once := sent ▸ calls.subperm.trans held.once
  kept listening := sent ▸ calls.trans (held.kept (same ▸ listening))
  drained gone := drained (held.drained (same ▸ gone))

theorem Tracked.step {label : Label Request Response} (held : Tracked rpc)
    (took : rpc.step label = some next) : Tracked next := by
  have left : rpc.leaveLoop.calls.Sublist rpc.calls :=
    (List.nil_sublist rpc.requestSource).append_left _
  cases label with
  | request request =>
    simp only [RPCTransmitter.step] at took
    split at took
    case isTrue listening =>
      cases took
      have grown : (rpc.calls ++ [(request, rpc.sent.length)]).Perm
          (rpc.sent ++ [request]).zipIdx := by
        rw [List.zipIdx_append, Nat.zero_add]
        exact (held.kept listening).append_right _
      rw [calls, List.append_assoc] at grown
      exact ⟨grown.subperm, fun _ => grown, fun gone => by cases listening.symm.trans gone⟩
    case isFalse =>
      cases took
      exact held
  | receive =>
    simp only [RPCTransmitter.step] at took
    split at took
    case h_1 => cases took
    case h_2 call rest queue =>
      cases took
      exact held.moved (.of_eq (by simp [calls, queue])) rfl rfl (by simp [queue])
  | shutdown | disconnect =>
    simp only [RPCTransmitter.step] at took
    split at took <;> cases took
    exact held.dropped left rfl rfl rfl
  | forceClose =>
    cases took
    exact held.moved (.refl _) rfl rfl id
  | reply task response =>
    obtain ⟨call, found, rfl⟩ := Option.map_eq_some_iff.mp took
    obtain ⟨bound, rfl⟩ := List.getElem?_eq_some_iff.mp found
    refine held.moved ?_ rfl rfl id
    simp only [calls, List.map_append, List.map_cons, List.map_nil, List.append_assoc]
    exact ((List.getElem_cons_eraseIdx_perm bound).append_right _).append_left _
  | stopRuntime =>
    cases took
    refine held.dropped (.trans ?_ left) rfl rfl rfl
    exact ((List.nil_sublist rpc.tasks).append_left _).append_right _

def shutdownRun : List (Label Nat Nat) :=
  [.request 5, .receive, .request 6, .reply 0 (.ok 7), .forceClose, .shutdown]

end RPCTransmitter

end TypeDBDriver
