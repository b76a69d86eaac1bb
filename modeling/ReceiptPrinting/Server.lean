import ReceiptPrinting.Http
import ReceiptPrinting.Registry
import ReceiptPrinting.Session

/-!
# The server: sessions, their registry, and the way to the end

The server runs until it is cancelled. Then every session is asked to close, connections that are
not sessions are finished, and the server waits until no session is open; but it waits no longer
than the time that is set for this, and then leaves the sessions that are still there. The time runs
from the cancelling, so where it is short it may be up before sessions are asked to close.

`Server.step` is one event: something arrives, a session moves, or the server itself does. An event
that cannot happen in a state has no successor. Sessions move one at a time and in any order, which
is all that running side by side can come to.

A server that cannot begin says why (`StartError`). One that has begun ends in no other way than by
`ServerPhase.stopped` or `ServerPhase.timedOut`.
-/

namespace ReceiptPrinting

/-- Why a server did not begin. -/
inductive StartError where
  /-- It cannot listen on its address. -/
  | bind (address reason : String)
  /-- It listens, and cannot tell on which address. -/
  | io (reason : String)
deriving DecidableEq, Repr

/-- The error in words. -/
def StartError.message : StartError → String
  | bind address reason => "Failed to bind " ++ address ++ ": " ++ reason
  | io reason => "IO error: " ++ reason

/-- What the server itself is at. -/
inductive ServerPhase where
  /-- Taking connections. -/
  | serving
  /-- Every session has been asked to close; connections are being finished. -/
  | draining
  /-- Waiting until no session is open, as the waiter at an index of the registry. -/
  | waiting (waiter : Nat)
  /-- Stopped, with no session open. -/
  | stopped
  /-- Stopped because the time was up. -/
  | timedOut
deriving DecidableEq, Repr

/-- The server. -/
structure Server where
  settings : Settings
  outlets : Outlets
  registry : Registry
  /-- All sessions there have been, by their ids. -/
  sessions : List (Nat × Session)
  /-- What has reached printers, in order, each with the session whose job it was. -/
  log : List (Nat × Delivered)
  /-- Has the server been cancelled? -/
  cancelled : Bool
  phase : ServerPhase

/-- What can happen. -/
inductive Event where
  /-- A client's connection becomes a session. -/
  | connect
  | arrive (session : Nat) (f : Incoming)
  | poll (session : Nat) (ping : Keepalive) (jobId : String)
  | work (session : Nat) (jobId : String)
  | answer (session : Nat) (delivered : Bool)
  /-- A session that has ended leaves the registry. -/
  | leave (session : Nat)
  | cancel
  /-- Every session is asked to close, since the server has been cancelled. This happens once, and
      may come after the time is up. -/
  | closeAll
  /-- The connections that are not sessions are finished. -/
  | drained
  /-- The server looks whether it can stop. -/
  | look
  /-- The time is up. -/
  | deadline
deriving DecidableEq, Repr

namespace Server

/-- A server that has just begun. -/
def start (settings : Settings) (outlets : Outlets) : Server :=
  ⟨settings, outlets, .empty, [], [], false, .serving⟩

/-- The session of an id. -/
def session? (v : Server) (id : Nat) : Option Session :=
  (v.sessions.find? (·.1 == id)).map (·.2)

/-- The server with the session of an id replaced. -/
def putSession (v : Server) (id : Nat) (s : Session) : Server :=
  { v with sessions := v.sessions.map fun p => if p.1 = id then (id, s) else p }

/-- Has the server stopped? -/
def hasStopped (v : Server) : Bool :=
  match v.phase with
  | .stopped | .timedOut => true
  | _ => false

/-- The number of open sessions, as it is reported. -/
def clients (v : Server) : UInt64 := UInt64.ofNat v.registry.count

/-- What a request leads to: an answer, or the event that opens a session. -/
def react (v : Server) (q : Http.Query) : Http.Reaction := Http.answer v.outlets v.clients q

/-- One event. -/
def step (v : Server) : Event → Option Server
  | .connect =>
    let id := v.sessions.length
    some { v with registry := v.registry.register id, sessions := v.sessions ++ [(id, .start)] }
  | .arrive id f => (v.session? id).map fun s => v.putSession id (s.arrive f)
  | .poll id ping jobId => do
    let s ← v.session? id
    let closing ← v.registry.closing? id
    pure (v.putSession id (s.poll closing ping jobId))
  | .work id jobId => (v.session? id).map fun s =>
    let (s, log) := s.work v.settings v.outlets jobId
    { v.putSession id s with log := v.log ++ log.map fun d => (id, d) }
  | .answer id delivered => (v.session? id).map fun s => v.putSession id (s.answer delivered)
  | .leave id => do
    let s ← v.session? id
    if s.phase = .ended then pure { v with registry := v.registry.remove id } else none
  | .cancel => some { v with cancelled := true }
  | .closeAll =>
    if v.cancelled ∧ ¬ v.registry.closed then
      match v.phase with
      | .serving => some { v with registry := v.registry.closeAll, phase := .draining }
      | .timedOut => some { v with registry := v.registry.closeAll }
      | .draining | .waiting _ | .stopped => none
    else none
  | .drained =>
    if v.phase = .draining then
      some
        { v with
          phase := .waiting v.registry.waiters.length
          registry := v.registry.wait }
    else none
  | .look =>
    match v.phase with
    | .waiting i =>
      let r := v.registry.stepWaiter i (Waiter.poll v.registry.count)
      let done := (r.waiters[i]?).any Waiter.hasReturned
      some { v with registry := r, phase := if done then .stopped else .waiting i }
    | _ => none
  | .deadline => if v.cancelled && !v.hasStopped then some { v with phase := .timedOut } else none

/-- The servers that events lead to from the beginning, the events in their order. -/
inductive Reaches (settings : Settings) (outlets : Outlets) : List Event → Server → Prop
  | start : Reaches settings outlets [] (start settings outlets)
  | step {es : List Event} {e : Event} {v w : Server} :
    Reaches settings outlets es v → v.step e = some w → Reaches settings outlets (es ++ [e]) w

end Server

end ReceiptPrinting
