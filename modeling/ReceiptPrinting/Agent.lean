import ReceiptPrinting.Delivery
import ReceiptPrinting.Job

/-!
# The agent: one text in, one reply out

The agent takes a text, makes a job of it, renders it and delivers it. It answers every text with
one reply, whatever goes wrong on the way; what reached a printer is the list beside the reply.

Reading, rendering and delivering each come to an end on every input. Only a call to the spooler can
crash; this happens in a task of its own, and is one of the answers there are (`Answer.crash`). So
the reply to a crash of the job itself, which would be `Error:` and what it said, is never given,
and `JobError` has no case for it.
-/

namespace ReceiptPrinting.Agent

/-- What is said of a job that was delivered. -/
def doneMessage (kind : JobKind) (t : Target) : String :=
  match kind with
  | .drawer => "Cash drawer opened via " ++ t.text
  | _ => "Printed to " ++ t.text

/-- Processes one text: the reply, and what reached a printer. -/
def process (s : Settings) (o : Outlets) (jobId text : String) : Reply × List Delivered :=
  match Job.parse text with
  | .error e => (.failed jobId e.message, [])
  | .ok j =>
    match o.deliver (j.render s) j.target with
    | (.ok t, log) => (.done jobId (doneMessage j.content.kind t), log)
    | (.error e, log) => (.failed jobId e.message, log)

/-- Answers what is no job at all. -/
def reject (jobId : String) (e : JobError) : Reply := .failed jobId e.message

end ReceiptPrinting.Agent
