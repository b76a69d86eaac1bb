import ReceiptPrinting.Agent

/-!
# Sessions: one client's connection

A session takes frames in the order they arrive, and answers each text or binary frame with one
reply before it takes the next. It ends when the client closes or is gone, when a reply or a ping
cannot be sent, or when it is asked to close.

Each time a session looks what to do next, being asked to close comes first, then the ping that
keeps the connection alive, and then the next frame (`Session.choose`): a session that has been
asked to close takes no further frame. A job in hand is run to its end all the same.
-/

namespace ReceiptPrinting

/-- What arrives from a client. -/
inductive Incoming where
  | text (s : String)
  | binary (data : Bytes)
  | ping (data : Bytes)
  | pong (data : Bytes)
  | close
  /-- The connection has ended. -/
  | ended
  /-- What arrived is no frame. -/
  | broken
deriving DecidableEq, Repr

/-- What is sent to a client. -/
inductive Outgoing where
  | reply (r : Reply)
  | ping
  | close (code : Nat) (reason : String)
deriving DecidableEq, Repr

/-- The ping that keeps a quiet connection alive. -/
inductive Keepalive where
  | notDue
  /-- It is time for one. `delivered`: the connection took it. -/
  | due (delivered : Bool)
deriving DecidableEq, Repr

/-- What a session is at. -/
inductive Phase where
  /-- Looking what to do next. -/
  | open
  /-- Running the job of a text. -/
  | working (text : String)
  /-- About to send a reply. -/
  | answering (r : Reply)
  | ended
deriving DecidableEq, Repr

/-- A session. -/
structure Session where
  /-- The frames that have arrived and not been taken, the next one first. -/
  inbox : List Incoming
  /-- The frames that have been taken, in order. -/
  taken : List Incoming
  /-- What has been sent, in order. -/
  sent : List Outgoing
  phase : Phase
deriving DecidableEq, Repr

namespace Session

/-- A session that has just begun. -/
def start : Session := ⟨[], [], [], .open⟩

/-- The frame that tells a client that the agent is going away. -/
def goodbye : Outgoing := .close 1001 "Server shutting down"

/-- What a session does next. -/
inductive Choice where
  | sayGoodbye
  | sendPing (delivered : Bool)
  | take (f : Incoming)
  | wait
deriving DecidableEq, Repr

/-- The choice, with being asked to close first and frames last. -/
def choose (closing : Bool) (ping : Keepalive) (next : Option Incoming) : Choice :=
  if closing then .sayGoodbye
  else
    match ping, next with
    | .due delivered, _ => .sendPing delivered
    | .notDue, some f => .take f
    | .notDue, none => .wait

/-- What a session is at once it has taken a frame. `jobId` names the attempt. -/
def phaseAfter (jobId : String) : Incoming → Phase
  | .text s => .working s
  | .binary _ => .answering (Agent.reject jobId .invalidFormat)
  | .ping _ | .pong _ => .open
  | .close | .ended | .broken => .ended

/-- A frame arrives. -/
def arrive (s : Session) (f : Incoming) : Session := { s with inbox := s.inbox ++ [f] }

/-- The session looks what to do next, and does it. Only an open session looks. -/
def poll (closing : Bool) (ping : Keepalive) (jobId : String) (s : Session) : Session :=
  match s.phase with
  | .open =>
    match choose closing ping s.inbox.head? with
    | .sayGoodbye => { s with sent := s.sent ++ [goodbye], phase := .ended }
    | .sendPing true => { s with sent := s.sent ++ [.ping] }
    | .sendPing false => { s with phase := .ended }
    | .take f =>
      { s with inbox := s.inbox.tail, taken := s.taken ++ [f], phase := phaseAfter jobId f }
    | .wait => s
  | _ => s

/-- The job in hand ends: the session with its reply, and what reached a printer. -/
def work (settings : Settings) (o : Outlets) (jobId : String) (s : Session) :
    Session × List Delivered :=
  match s.phase with
  | .working t =>
    let (r, log) := Agent.process settings o jobId t
    ({ s with phase := .answering r }, log)
  | _ => (s, [])

/-- The reply is sent. The session goes on if it could be, and ends if not. -/
def answer (delivered : Bool) (s : Session) : Session :=
  match s.phase with
  | .answering r =>
    if delivered then { s with sent := s.sent ++ [.reply r], phase := .open }
    else { s with phase := .ended }
  | _ => s

end Session

end ReceiptPrinting
