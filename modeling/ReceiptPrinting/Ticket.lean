import ReceiptPrinting.Json.Record
import ReceiptPrinting.Number.Decimal
import ReceiptPrinting.Text.Blank

/-!
# Order tickets

A ticket is an order as the till sends it. Its amounts are printed as they are given; nothing is
added up here.

* `Ticket.decoder` reads a ticket. Everything but the name and the quantity of a line may be absent.
* `Ticket.toValue` is the ticket as a JSON value, with its members in the order of the fields; what
  is absent and optional is left out, and amounts are binary numbers.
-/

namespace ReceiptPrinting

open Json (Decoder Found Mismatch Record Value optionalMember)

/-- One line of an order. -/
structure Line where
  name : String
  quantity : Int
  unitPrice : Decimal
  lineTotal : Decimal
  notes : Option String
deriving DecidableEq, Repr

/-- How an order was paid. -/
structure Payment where
  provider : String
  amount : Decimal
  change : Decimal
deriving DecidableEq, Repr

/-- An order. -/
structure Ticket where
  orderNumber : String
  tableNumber : String
  isTakeAway : Bool
  /-- When the order was taken, as the till wrote it. -/
  createdAt : String
  total : Decimal
  lines : List Line
  payment : Option Payment
deriving DecidableEq, Repr

/-- An order without anything in it. -/
def Ticket.empty : Ticket := ⟨"", "", false, "", .zero, [], none⟩

instance : Inhabited Ticket := ⟨.empty⟩

/-- The notes of a line, if there is anything to print. -/
def Line.printableNotes (l : Line) : Option String := l.notes.bind Text.printable

/-! ## 1. Amounts in JSON -/

/-- The amount that a value stands for. A binary number stands for its shortest decimal digits, all
    written out; a string for the amount it spells. -/
def Decimal.accept (f : Found) : Except Mismatch Decimal :=
  let amount (d : Option Decimal) : Except Mismatch Decimal :=
    match d with
    | some d => .ok d
    | none => .error (.range f .amount)
  match f with
  | .number (.whole n) => amount (Decimal.ofInt? n)
  | .number (.real x) => amount (Decimal.ofFixed? x.plainText)
  | .string s => amount (Decimal.parse? s)
  | _ => .error (.kind f .amount)

/-- Reads an amount. -/
def Decimal.decoder : Decoder Decimal := .anyScalar Decimal.accept

/-- An amount as a JSON value. -/
def Decimal.toValue (d : Decimal) : Value := .number (.real d.toBinary64)

/-! ## 2. Lines -/

/-- A line being read. -/
structure Line.Draft where
  name : Option String := none
  quantity : Option Int := none
  unitPrice : Option Decimal := none
  lineTotal : Option Decimal := none
  notes : Option (Option String) := none

/-- Reads a quantity: a whole number of 32 bits with a sign. -/
def Line.quantityDecoder : Decoder Int := .wholeWithin .quantity (-0x80000000) 0x7FFFFFFF

/-- How a line is read. -/
def Line.record : Record Line.Draft Line where
  name := "TicketLine"
  fields := [
    .of "name" true .string (·.name) fun s a => { s with name := some a },
    .of "quantity" true quantityDecoder (·.quantity) fun s a => { s with quantity := some a },
    .of "unitPrice" false Decimal.decoder (·.unitPrice) fun s a => { s with unitPrice := some a },
    .of "lineTotal" false Decimal.decoder (·.lineTotal) fun s a => { s with lineTotal := some a },
    .of "notes" false (.optional .string) (·.notes) fun s a => { s with notes := some a }]
  blank := {}
  finish s :=
    { name := s.name.getD ""
      quantity := s.quantity.getD 0
      unitPrice := s.unitPrice.getD .zero
      lineTotal := s.lineTotal.getD .zero
      notes := s.notes.getD none }

/-- A line as a JSON value. -/
def Line.toValue (l : Line) : Value :=
  .object ([("name", .string l.name), ("quantity", .number (.whole l.quantity)),
    ("unitPrice", l.unitPrice.toValue), ("lineTotal", l.lineTotal.toValue)] ++
    optionalMember "notes" (l.notes.map .string))

/-! ## 3. Payments -/

/-- A payment being read. -/
structure Payment.Draft where
  provider : Option String := none
  amount : Option Decimal := none
  change : Option Decimal := none

/-- How a payment is read. -/
def Payment.record : Record Payment.Draft Payment where
  name := "PaymentInfo"
  fields := [
    .of "provider" false .string (·.provider) fun s a => { s with provider := some a },
    .of "amount" false Decimal.decoder (·.amount) fun s a => { s with amount := some a },
    .of "change" false Decimal.decoder (·.change) fun s a => { s with change := some a }]
  blank := {}
  finish s :=
    { provider := s.provider.getD ""
      amount := s.amount.getD .zero
      change := s.change.getD .zero }

/-- A payment as a JSON value. -/
def Payment.toValue (p : Payment) : Value :=
  .object [("provider", .string p.provider), ("amount", p.amount.toValue),
    ("change", p.change.toValue)]

/-! ## 4. Tickets -/

/-- A ticket being read. -/
structure Ticket.Draft where
  orderNumber : Option String := none
  tableNumber : Option String := none
  isTakeAway : Option Bool := none
  createdAt : Option String := none
  total : Option Decimal := none
  lines : Option (List Line) := none
  payment : Option (Option Payment) := none

/-- How a ticket is read. -/
def Ticket.record : Record Ticket.Draft Ticket where
  name := "TicketData"
  fields := [
    .of "orderNumber" false .string (·.orderNumber) fun s a => { s with orderNumber := some a },
    .of "tableNumber" false .string (·.tableNumber) fun s a => { s with tableNumber := some a },
    .of "isTakeAway" false .bool (·.isTakeAway) fun s a => { s with isTakeAway := some a },
    .of "createdAt" false .string (·.createdAt) fun s a => { s with createdAt := some a },
    .of "total" false Decimal.decoder (·.total) fun s a => { s with total := some a },
    .of "lines" false (.list Line.record.decoder) (·.lines) fun s a => { s with lines := some a },
    .of "payment" false (.optional Payment.record.decoder) (·.payment)
      fun s a => { s with payment := some a }]
  blank := {}
  finish s :=
    { orderNumber := s.orderNumber.getD ""
      tableNumber := s.tableNumber.getD ""
      isTakeAway := s.isTakeAway.getD false
      createdAt := s.createdAt.getD ""
      total := s.total.getD .zero
      lines := s.lines.getD []
      payment := s.payment.getD none }

/-- Reads a ticket. -/
def Ticket.decoder : Decoder Ticket := Ticket.record.decoder

/-- A ticket as a JSON value. -/
def Ticket.toValue (t : Ticket) : Value :=
  .object ([("orderNumber", .string t.orderNumber), ("tableNumber", .string t.tableNumber),
    ("isTakeAway", .bool t.isTakeAway), ("createdAt", .string t.createdAt),
    ("total", t.total.toValue), ("lines", .array (t.lines.map Line.toValue))] ++
    optionalMember "payment" (t.payment.map Payment.toValue))

/-- A ticket as JSON text. -/
def Ticket.text (t : Ticket) : String := t.toValue.text

end ReceiptPrinting
