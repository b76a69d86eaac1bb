import ReceiptPrinting.Proofs.Layout.Receipt
import ReceiptPrinting.Proofs.Layout.Styles

/-!
# What stands on a kitchen copy

The rows of a kitchen copy are told from the ticket alone, as those of a receipt are: a row for each
dish with its whole name, one for its notes if there are any to print, and an empty one. Amounts
and the texts of the house do not occur in them, so no change of these can show in the stream.

* `KitchenCopy.headRows`, `KitchenCopy.dishRows`, `KitchenCopy.closingRows`: the rows of a ticket;
* `rows_layout`: the layout of a kitchen copy has these rows;
* `Ticket.unpriced`, `layout_unpriced`: the layout does not look at any amount;
* **`render_kitchen_rows`**: the stream of every kitchen copy is these rows, whatever the amounts.
-/

namespace ReceiptPrinting

/-! ## 1. Tickets without their amounts -/

/-- A line without its amounts. -/
def Line.unpriced (l : Line) : Line := { l with unitPrice := .zero, lineTotal := .zero }

/-- A ticket without its amounts: no total, no prices, no payment. -/
def Ticket.unpriced (o : Ticket) : Ticket :=
  { o with total := .zero, lines := o.lines.map Line.unpriced, payment := none }

namespace KitchenCopy

open Escpos (Instruction Sheet text?)
open Receipt (ruleRow fixedRow encodeChars_rule rows_optionalRow)

/-- The layout does not look at any amount. -/
theorem layout_unpriced (o : Ticket) : layout o.unpriced = layout o := by
  have hlines : o.unpriced.lines.flatMap lineRows = o.lines.flatMap lineRows := List.flatMap_map ..
  rw [layout, hlines]
  rfl

/-! ## 2. The rows of a ticket -/

section

variable (p : Paper) (page : CodePage) (o : Ticket) (l : Line)

/-- Where the dishes go to. -/
def placeText : String := if o.isTakeAway then "*** TAKEAWAY ***" else "TABLE: " ++ o.tableNumber

/-- The row of the time, if there is one to print. -/
def clockRow : List Bytes :=
  ((Stamp.ofText? o.createdAt).map fun s => fixedRow p page ("Time: " ++ s.time)).toList

/-- The rows above the dishes. -/
def headRows : List Bytes :=
  [page.encode "KITCHEN ORDER", page.encode o.orderNumber, page.encode (placeText o)] ++
    clockRow p page o ++ [ruleRow p 0x3D]

/-- The row of a dish: how many, and the whole name. -/
def dishRow : Bytes := page.encode (toString l.quantity ++ "x " ++ l.name)

/-- The row of the notes of a dish, if there are any to print. -/
def notesRow : List Bytes :=
  (l.printableNotes.map fun n => fixedRow p page ("   > " ++ n)).toList

/-- The rows of the dishes, in their order. -/
def dishRows : List Bytes :=
  o.lines.flatMap fun l => dishRow page l :: notesRow p page l ++ [[]]

/-- The rows below the dishes. -/
def closingRows : List Bytes := [ruleRow p 0x3D, page.encode "*** KITCHEN COPY ***", [], []]

/-! ## 3. The rows of the layout -/

theorem rows_heading :
    (p.sheet page).rows (heading o) =
      [page.encode "KITCHEN ORDER", page.encode o.orderNumber, page.encode (placeText o)] := by
  rw [heading, placeText]
  cases o.isTakeAway <;> rfl

theorem rows_timeRow : (p.sheet page).rows (timeRow o) = clockRow p page o := by
  rw [timeRow, clockRow, ← rows_optionalRow]
  rfl

theorem rows_rule : (p.sheet page).rows [.rule '='] = [ruleRow p 0x3D] := by
  rw [ruleRow, ← (encodeChars_rule page p.columns).1]
  rfl

theorem rows_lineRows :
    (p.sheet page).rows (lineRows l) = dishRow page l :: notesRow p page l ++ [[]] := by
  rw [lineRows, Receipt.quantityText_eq, Sheet.rows_append, Sheet.rows_append, rows_optionalRow]
  rfl

theorem rows_closing : (p.sheet page).rows closing = closingRows p page := by
  rw [closing, ← List.singleton_append, Sheet.rows_append, rows_rule]
  rfl

/-- **A kitchen copy has the rows of its ticket.** -/
theorem rows_layout :
    (p.sheet page).rows (layout o) =
      headRows p page o ++ dishRows p page o ++ closingRows p page := by
  simp only [layout, Sheet.rows_append, Sheet.rows_flatMap, rows_heading, rows_timeRow, rows_rule,
    rows_lineRows, rows_closing, headRows, dishRows]

/-- Every character of the name is there, as one byte, behind the quantity. -/
theorem dishRow_eq_append :
    dishRow page l =
      page.encode (toString l.quantity ++ "x ") ++ l.name.toList.map page.encodeChar := by
  rw [dishRow, page.encode_append]
  rfl

/-- A line has a row for its notes on the kitchen copy exactly if it has one on the receipt. -/
theorem length_rows_receipt (q : Paper) :
    ((q.sheet page).rows (Receipt.lineRows q l)).length = 1 + (notesRow p page l).length := by
  rw [Receipt.rows_lineRows, Receipt.notesRow, notesRow]
  cases l.printableNotes <;> rfl

end

/-! ## 4. The stream -/

/-- **What is printed on the kitchen copy of a ticket.** -/
structure Printed (p : Paper) (page : CodePage) (o : Ticket) (bs : Bytes) : Prop where
  /-- Without commands, the stream is these rows, each ended by a line feed; nothing follows the
      last line feed. -/
  rows : ∃ txt, text? bs = some txt ∧ txt.splitOn 0x0A =
    headRows p page o ++ dishRows p page o ++ closingRows p page ++ [[]]
  /-- There is a time to print exactly if the ticket's is not blank. -/
  timed : (Stamp.ofText? o.createdAt).isSome = true ↔ ¬ Text.Blank o.createdAt
  /-- A dish has its quantity and then its name, each character as one byte. -/
  named : ∀ l ∈ o.lines, dishRow page l =
    page.encode (toString l.quantity ++ "x ") ++ l.name.toList.map page.encodeChar
  /-- On the receipt of the ticket, a line takes as many rows for notes as here. -/
  noted : ∀ l ∈ o.lines, ∀ q : Paper,
    ((q.sheet page).rows (Receipt.lineRows q l)).length = 1 + (notesRow p page l).length

/-- **Every kitchen copy is printed so**, and two tickets that differ in their amounts only have one
    kitchen copy, whatever the texts of the house are. -/
theorem render_kitchen_rows (s : Settings) (o : Ticket) (target : Option String)
    (width : Option UInt16) :
    Printed ⟨width.getD s.paperWidth⟩ s.page o (Job.render s ⟨.kitchen o, target, width⟩) ∧
    ∀ (s' : Settings) (o' : Ticket) (target' : Option String) (width' : Option UInt16),
      s'.page = s.page → width'.getD s'.paperWidth = width.getD s.paperWidth →
      o'.unpriced = o.unpriced →
      Job.render s' ⟨.kitchen o', target', width'⟩ = Job.render s ⟨.kitchen o, target, width⟩ := by
  have hrender (s : Settings) (o : Ticket) (target : Option String) (width : Option UInt16) :
      Job.render s ⟨.kitchen o, target, width⟩ =
        (Paper.sheet ⟨width.getD s.paperWidth⟩ s.page).print (layout o) := Job.render_of_layout rfl
  refine ⟨?_, fun s' o' target' width' hpage hwidth ho => ?_⟩
  · constructor
    case rows =>
      rw [hrender, ← rows_layout]
      exact Sheet.splitOn_text_print _ (whole_layout o)
    case timed => rw [stamp_isSome, Text.printable_isSome_iff]
    case named => exact fun l _ => dishRow_eq_append _ l
    case noted => exact fun l _ q => length_rows_receipt _ _ l q
  · rw [hrender, hrender, hpage, hwidth, ← layout_unpriced o', ho, layout_unpriced]

/-- An amount, as a till would write it. -/
def price (text : String) : Decimal := (Decimal.parse? text).getD .zero

/-- A dish with notes, at a price. -/
def pricedTicket : Ticket where
  orderNumber := "A-7"
  tableNumber := "12"
  isTakeAway := false
  createdAt := "2024-03-05T18:42:00Z"
  total := price "12.50"
  lines := [⟨"Crème brûlée", 2, price "6.25", price "12.50", some " no nuts "⟩]
  payment := some ⟨"Cash", price "20", price "7.50"⟩

theorem render_kitchen_rows_pricedTicket :
    let s : Settings := { Settings.standard with
      paperWidth := 58
      texts := ⟨"Bistro", "", "Merci", "EUR"⟩ }
    pricedTicket.unpriced.unpriced = pricedTicket.unpriced ∧
    Printed ⟨80⟩ .western pricedTicket (Job.render .standard ⟨.kitchen pricedTicket, none, none⟩) ∧
    Job.render s ⟨.kitchen pricedTicket.unpriced, some "Kitchen", some 80⟩ =
      Job.render .standard ⟨.kitchen pricedTicket, none, none⟩ := by
  intro s
  obtain ⟨hprinted, hsame⟩ := render_kitchen_rows .standard pricedTicket none none
  exact ⟨rfl, hprinted, hsame s pricedTicket.unpriced (some "Kitchen") (some 80) rfl rfl rfl⟩

end KitchenCopy

end ReceiptPrinting
