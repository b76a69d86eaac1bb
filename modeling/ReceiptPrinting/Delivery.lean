import ReceiptPrinting.Address
import ReceiptPrinting.Escpos.Command
import ReceiptPrinting.Text.Quoted

/-!
# Delivery: from a printer's name to the printer

A job goes to one printer. If a printer is named, the name decides how it is reached: one with a
colon in it is an address on the network, any other the queue of that name at the print spooler. If
none is named, the spooler's default printer is asked for, and its name decides.

The spooler and the network are outside. What they answer while one job is delivered is given
(`Outlets`), and what reaches them is a list of deliveries (`Delivered`).

* `resolve` finds the printer; it delivers nothing;
* `send` hands data to a printer that has been found;
* `deliver` does both. It makes one attempt.
-/

namespace ReceiptPrinting

/-! ## 1. What can go wrong -/

/-- Why a printer was not reached. -/
inductive PrinterError where
  | connection (detail : String)
  | io (detail : String)
  | timeout (address : String)
  | invalidConfig (detail : String)
  | notFound (printer : String)
  | spooler (detail : String)
  | unsupported
deriving DecidableEq, Repr

/-- The error in words. -/
def PrinterError.message : PrinterError → String
  | connection d => "Connection failed: " ++ d
  | io d => "IO error: " ++ d
  | timeout a => "Connection timeout: " ++ a
  | invalidConfig d => "Invalid config: " ++ d
  | notFound p => "Printer not found: " ++ p
  | spooler d => "Spooler error: " ++ d
  | unsupported => "Local printing not supported on this platform"

/-- A call to the spooler that did not come back: what became of its task. -/
inductive Crash where
  /-- It crashed, and may have said why. -/
  | panicked (task : String) (reason : Option String)
  /-- It was given up before it began. -/
  | cancelled (task : String)
deriving DecidableEq, Repr

/-- The crash in words. -/
def Crash.message : Crash → String
  | panicked task (some reason) =>
    "task " ++ task ++ " panicked with message " ++ Text.quoted reason
  | panicked task none => "task " ++ task ++ " panicked"
  | cancelled task => "task " ++ task ++ " was cancelled"

/-- What a call to the spooler comes to. -/
inductive Answer (α : Type) where
  | ok (a : α)
  | fault (e : PrinterError)
  | crash (c : Crash)
deriving Repr

/-- What an attempt to connect comes to. -/
inductive Connection where
  | accepted
  | refused (reason : String)
  | timedOut
deriving DecidableEq, Repr

/-- Why a job was not delivered. -/
inductive DeliveryError where
  /-- No printer is named, and there is no default printer. -/
  | noPrinter
  | printer (e : PrinterError)
  /-- The spooler was asked for its printers and did not come back. -/
  | task (c : Crash)
deriving DecidableEq, Repr

/-- The error in words. -/
def DeliveryError.message : DeliveryError → String
  | noPrinter => "No printer configured"
  | printer e => e.message
  | task c => "Spooler task failed: " ++ c.message

/-! ## 2. The outside -/

/-- What spooler and network answer while one job is delivered. A job that the spooler does not
    take leaves nothing there, and a connection that is accepted takes all that is sent. -/
structure Outlets where
  defaultPrinter : Answer (Option String)
  printers : Answer (List String)
  submit : (printer document : String) → Bytes → Answer Unit
  connect : Address → Connection

/-- What reached a printer. -/
inductive Delivered where
  | spooled (printer document : String) (data : Bytes)
  | sent (address : Address) (data : Bytes)
deriving DecidableEq, Repr

/-- A printer that has been found. -/
inductive Target where
  | network (a : Address)
  | queue (name : String)
deriving DecidableEq, Repr

namespace Target

/-- The printer as it is named in messages. -/
def text : Target → String
  | network a => a.text
  | queue name => name

/-- Is it reached over the network? -/
def isNetwork : Target → Bool
  | network _ => true
  | queue _ => false

/-- The printer of a name. -/
def ofName (name : String) : Except DeliveryError Target :=
  if ':' ∈ name.toList then
    match Address.ofText name with
    | .ok a => .ok (network a)
    | .error b => .error (.printer (.invalidConfig b.message))
  else .ok (queue name)

end Target

namespace Outlets

/-- The answer to a question about printers. -/
def asked {α : Type} : Answer α → Except DeliveryError α
  | .ok a => .ok a
  | .fault e => .error (.printer e)
  | .crash c => .error (.task c)

/-- The name of the default printer. A blank name is none. -/
def defaultName (o : Outlets) : Except DeliveryError (Option String) :=
  (asked o.defaultPrinter).map fun name => name.filter fun n => (Text.printable n).isSome

/-- The printers that the spooler knows. -/
def list (o : Outlets) : Except DeliveryError (List String) := asked o.printers

/-! ## 3. Finding and reaching a printer -/

/-- The printer for a job that names `target`, or none. -/
def resolve (o : Outlets) : (target : Option String) → Except DeliveryError Target
  | some name => Target.ofName name
  | none =>
    match o.defaultName with
    | .ok (some name) => Target.ofName name
    | .ok none => .error .noPrinter
    | .error e => .error e

/-- The name of every document at the spooler. -/
def documentName : String := "POS Ticket"

/-- Hands data to a printer: the outcome, and what reached it. -/
def send (o : Outlets) (data : Bytes) : Target → Except DeliveryError Unit × List Delivered
  | .network a =>
    match o.connect a with
    | .accepted => (.ok (), [.sent a data])
    | .refused reason => (.error (.printer (.connection (a.text ++ ": " ++ reason))), [])
    | .timedOut => (.error (.printer (.timeout a.text)), [])
  | .queue name =>
    match o.submit name documentName data with
    | .ok () => (.ok (), [.spooled name documentName data])
    | .fault e => (.error (.printer e), [])
    | .crash c => (.error (.printer (.spooler ("Task join failed: " ++ c.message))), [])

/-- Finds the printer and hands it the data: the printer, and what reached it. -/
def deliver (o : Outlets) (data : Bytes) (target : Option String) :
    Except DeliveryError Target × List Delivered :=
  match o.resolve target with
  | .error e => (.error e, [])
  | .ok t =>
    match o.send data t with
    | (.ok (), log) => (.ok t, log)
    | (.error e, log) => (.error e, log)

end Outlets

end ReceiptPrinting
