import ReceiptPrinting.Layout.KitchenCopy
import ReceiptPrinting.Layout.TestPage
import ReceiptPrinting.Request
import ReceiptPrinting.Settings

/-!
# Jobs: from a request to the bytes for the printer

A text becomes a job in stages, and the first stage that fails says why: the text is JSON; the value
is a request; the kind is known; what needs a ticket has data; the data is a ticket.

* `Job.parse` is these stages in order;
* `Job.render` lays a job out and gives the bytes. A ticket is printed on the width that the request
  names, or the one that is set; the test page always on the one that is set.

A job has a ticket exactly if its kind needs one (`Content.isSome_ticket?`). Where it has none, the
empty ticket stands in its place, and is not looked at (`JobKind.content_eq`).
-/

namespace ReceiptPrinting

/-- How far a job has come. -/
inductive Stage where
  | received
  | validated
  | rendered
  | dispatched
  | completed
  | failed
deriving DecidableEq, Repr

/-- The stage, as it is reported. -/
def Stage.name : Stage → String
  | received => "received"
  | validated => "validated"
  | rendered => "rendered"
  | dispatched => "dispatched"
  | completed => "completed"
  | failed => "failed"

/-- The stages in the order a job reaches them; the last two are its two ends. -/
def Stage.all : List Stage := [received, validated, rendered, dispatched, completed, failed]

/-- Why a text is no job. What can go wrong with a job later is a `DeliveryError`. -/
inductive JobError where
  /-- The text is not JSON. -/
  | invalidJson (text : String) (f : Json.Failure)
  /-- The value is no request, or the data no ticket. -/
  | invalidFormat
  /-- The kind is unknown; it is named as it was written. -/
  | unknownKind (kind : String)
  /-- The kind needs a ticket, and there is no data. -/
  | missingData
deriving DecidableEq, Repr

/-- The error in words. -/
def JobError.message : JobError → String
  | invalidJson text f => "Invalid JSON: " ++ f.message text
  | invalidFormat => "Invalid print job format"
  | unknownKind kind => "Unknown print job type: " ++ kind
  | missingData => "Missing print data"

/-- What there is to print: a kind, with a ticket if it needs one. -/
inductive Content where
  | receipt (t : Ticket)
  | kitchen (t : Ticket)
  | test
  | drawer
deriving DecidableEq, Repr

/-- The kind of a content. -/
def Content.kind : Content → JobKind
  | receipt _ => .receipt
  | kitchen _ => .kitchen
  | test => .test
  | drawer => .drawer

/-- The ticket of a content. -/
def Content.ticket? : Content → Option Ticket
  | receipt t | kitchen t => some t
  | test | drawer => none

/-- What a kind prints, given a ticket. -/
def JobKind.content : JobKind → Ticket → Content
  | receipt, t => .receipt t
  | kitchen, t => .kitchen t
  | test, _ => .test
  | drawer, _ => .drawer

/-- The test page and the drawer do without a ticket: whichever stands there is not printed. -/
theorem JobKind.content_eq {k : JobKind} (h : k.needsTicket = false) (t u : Ticket) :
    k.content t = k.content u := by
  cases k with
  | receipt | kitchen => cases h
  | test | drawer => rfl

/-- A content has a ticket exactly if its kind needs one. -/
theorem Content.isSome_ticket? (c : Content) : c.ticket?.isSome = c.kind.needsTicket := by
  cases c <;> rfl

/-- A content is told by its kind and its ticket, the empty one standing for none. -/
theorem Content.content_kind (c : Content) : c.kind.content (c.ticket?.getD .empty) = c := by
  cases c <;> rfl

/-- A job. -/
structure Job where
  content : Content
  /-- The printer it names. -/
  target : Option String
  /-- The width of paper it names. -/
  paperWidth : Option UInt16
deriving DecidableEq, Repr

namespace Job

/-! ## 1. Validation -/

/-- The ticket in the data of a request. -/
def ticketOf (data : Option Json.Value) : Except JobError Ticket :=
  match data with
  | none | some .null => .error .missingData
  | some v =>
    match Ticket.decoder.convert v with
    | .ok t => .ok t
    | .error _ => .error .invalidFormat

/-- What a request of a kind wants printed. Its data are read only if the kind needs a ticket. -/
def contentOf (data : Option Json.Value) (k : JobKind) : Except JobError Content :=
  if k.needsTicket then (ticketOf data).map k.content else .ok (k.content .empty)

/-- The job that a request asks for. -/
def ofRequest (r : Request) : Except JobError Job :=
  match JobKind.ofName? r.kind with
  | none => .error (.unknownKind r.kind)
  | some k => (contentOf r.data k).map fun c => ⟨c, r.target, r.paperWidth⟩

/-- The job that a text asks for. -/
def parse (text : String) : Except JobError Job :=
  match Json.parse text with
  | .error f => .error (.invalidJson text f)
  | .ok v =>
    match Request.decoder.convert v with
    | .error _ => .error .invalidFormat
    | .ok r => ofRequest r

/-! ## 2. Rendering -/

/-- The paper a job is printed on. -/
def paper (s : Settings) (j : Job) : Paper :=
  match j.content with
  | .receipt _ | .kitchen _ => ⟨j.paperWidth.getD s.paperWidth⟩
  | .test | .drawer => ⟨s.paperWidth⟩

/-- The bytes that open the drawer. -/
def drawerPulse : Bytes := Escpos.Command.pulse.spell

/-- The layout of a content on paper; a drawer has none. -/
def layout (s : Settings) (p : Paper) : Content → Option (List Escpos.Instruction)
  | .receipt t => some (Receipt.layout p s.texts t)
  | .kitchen t => some (KitchenCopy.layout t)
  | .test => some (TestPage.layout p s.page)
  | .drawer => none

/-- The bytes of a job. -/
def render (s : Settings) (j : Job) : Bytes :=
  let p := j.paper s
  match layout s p j.content with
  | some is => (p.sheet s.page).print is
  | none => drawerPulse

end Job

end ReceiptPrinting
