import ReceiptPrinting.Json.Record
import ReceiptPrinting.Text.Blank

/-!
# Requests and replies: what client and agent tell each other

A client asks for one job with a `Request`, the agent answers each with a `Reply`, and whoever wants
to know whether the agent is up gets a `Health`. All three are JSON objects.

* `JobKind.ofName?` is the kind of job a request names;
* `Request.target` is the printer it names, if it names one;
* `decoder`, `toValue` and `text` read and write each of the three.
-/

namespace ReceiptPrinting

open Json (Decoder Record Value optionalMember)

/-! ## 1. Kinds of jobs -/

/-- What is to be printed. -/
inductive JobKind where
  /-- A receipt for the guest, with prices and payment. -/
  | receipt
  /-- A copy for the kitchen: lines and notes. -/
  | kitchen
  /-- A page that shows width, characters and styles of the printer. -/
  | test
  /-- Nothing is printed; the cash drawer opens. -/
  | drawer
deriving DecidableEq, Repr

namespace JobKind

/-- The name of a kind in requests. -/
def name : JobKind → String
  | receipt => "receipt"
  | kitchen => "kitchen"
  | test => "test"
  | drawer => "drawer"

/-- The kind of a small word. -/
def ofKeyword? : String → Option JobKind
  | "receipt" => some receipt
  | "kitchen" => some kitchen
  | "test" => some test
  | "drawer" => some drawer
  | _ => none

/-- The kind that `s` names; blanks around the name and the case of its letters do not matter. -/
def ofName? (s : String) : Option JobKind := ofKeyword? (Text.keyword s)

/-- Is there nothing to print without a ticket? -/
def needsTicket : JobKind → Bool
  | receipt | kitchen => true
  | test | drawer => false

end JobKind

/-! ## 2. Requests -/

/-- One job asked for. The kind is kept as it was written, for the answer to name it, and the data
    as it came, until the kind is known to need it. -/
structure Request where
  kind : String
  printerName : Option String
  data : Option Value
  /-- The width of the paper in millimetres. -/
  paperWidth : Option UInt16
deriving Repr

namespace Request

/-- A request being read. -/
structure Draft where
  kind : Option String := none
  printerName : Option (Option String) := none
  data : Option (Option Value) := none
  paperWidth : Option (Option UInt16) := none

/-- Reads a width of paper: a whole number of 16 bits. -/
def widthDecoder : Decoder UInt16 :=
  (Decoder.wholeWithin .width 0 0xFFFF).map fun n => UInt16.ofNat n.toNat

/-- How a request is read. -/
def record : Record Draft Request where
  name := "PrintRequest"
  fields := [
    .of "type" true .string (·.kind) fun s a => { s with kind := some a },
    .of "printerName" false (.optional .string) (·.printerName)
      fun s a => { s with printerName := some a },
    .of "data" false (.optional .value) (·.data) fun s a => { s with data := some a },
    .of "paperWidth" false (.optional widthDecoder) (·.paperWidth)
      fun s a => { s with paperWidth := some a }]
  blank := {}
  finish s :=
    { kind := s.kind.getD ""
      printerName := s.printerName.getD none
      data := s.data.getD none
      paperWidth := s.paperWidth.getD none }

/-- Reads a request. -/
def decoder : Decoder Request := record.decoder

/-- A request as a JSON value. What is absent is left out. -/
def toValue (r : Request) : Value :=
  .object (("type", .string r.kind) :: optionalMember "printerName" (r.printerName.map .string) ++
    optionalMember "data" r.data ++
    optionalMember "paperWidth" (r.paperWidth.map fun w => .number (.whole w.toNat)))

/-- A request as JSON text. -/
def text (r : Request) : String := r.toValue.text

/-- The printer a request names. A blank name is none. -/
def target (r : Request) : Option String := r.printerName.bind Text.printable

end Request

/-! ## 3. Replies -/

/-- The answer to one request. -/
structure Reply where
  success : Bool
  message : String
  /-- A name for the attempt, given to each anew. -/
  jobId : String
deriving DecidableEq, Repr

namespace Reply

/-- The job was done. -/
def done (jobId message : String) : Reply := ⟨true, message, jobId⟩

/-- The job was not done. -/
def failed (jobId message : String) : Reply := ⟨false, message, jobId⟩

/-- A reply being read. -/
structure Draft where
  success : Option Bool := none
  message : Option String := none
  jobId : Option String := none

/-- How a reply is read. -/
def record : Record Draft Reply where
  name := "PrintResult"
  fields := [
    .of "success" true .bool (·.success) fun s a => { s with success := some a },
    .of "message" true .string (·.message) fun s a => { s with message := some a },
    .of "printJobId" true .string (·.jobId) fun s a => { s with jobId := some a }]
  blank := {}
  finish s :=
    { success := s.success.getD false
      message := s.message.getD ""
      jobId := s.jobId.getD "" }

/-- Reads a reply. -/
def decoder : Decoder Reply := record.decoder

/-- A reply as a JSON value. -/
def toValue (r : Reply) : Value :=
  .object [("success", .bool r.success), ("message", .string r.message),
    ("printJobId", .string r.jobId)]

/-- A reply as JSON text. -/
def text (r : Reply) : String := r.toValue.text

end Reply

/-! ## 4. Health -/

/-- How the agent is. -/
structure Health where
  status : String
  connectedClients : UInt64
deriving DecidableEq, Repr

namespace Health

/-- All is well, with so many clients connected. -/
def healthy (clients : UInt64) : Health := ⟨"healthy", clients⟩

/-- A health being read. -/
structure Draft where
  status : Option String := none
  connectedClients : Option UInt64 := none

/-- Reads a count: a whole number of 64 bits. -/
def countDecoder : Decoder UInt64 :=
  (Decoder.wholeWithin .count 0 0xFFFFFFFFFFFFFFFF).map fun n => UInt64.ofNat n.toNat

/-- How a health is read. -/
def record : Record Draft Health where
  name := "HealthStatus"
  fields := [
    .of "status" true .string (·.status) fun s a => { s with status := some a },
    .of "connectedClients" true countDecoder (·.connectedClients)
      fun s a => { s with connectedClients := some a }]
  blank := {}
  finish s := ⟨s.status.getD "", s.connectedClients.getD 0⟩

/-- Reads a health. -/
def decoder : Decoder Health := record.decoder

/-- A health as a JSON value. -/
def toValue (h : Health) : Value :=
  .object [("status", .string h.status),
    ("connectedClients", .number (.whole h.connectedClients.toNat))]

/-- A health as JSON text. -/
def text (h : Health) : String := h.toValue.text

end Health

end ReceiptPrinting
