import ReceiptPrinting.Proofs.Escpos.Rows
import ReceiptPrinting.Proofs.Layout.Columns
import ReceiptPrinting.Proofs.Layout.Shape
import ReceiptPrinting.Proofs.Number.Money
import ReceiptPrinting.Proofs.Text.Trim

/-!
# What stands on a receipt

Without its commands and taken apart at its line feeds, the stream of a receipt is a list of rows.
They are written down here from the ticket and the texts of the house, in bytes: the rows above the
table of items, a row for each line and one for its notes if there are any to print, and the rows
below. Two rules of dashes stand around the lines, and no row between them is such a rule, whatever
names and notes hold.

* `Receipt.upperRows`, `Receipt.tableRows`, `Receipt.lowerRows`: the rows of a ticket;
* `rows_layout`: the layout of a receipt has these rows;
* **`render_receipt_rows`**: the stream of every receipt is these rows, then the cut.
-/

namespace ReceiptPrinting.Receipt

open Escpos (Instruction Sheet Whole Framed text? whole_append whole_flatMap)

/-! ## 1. The rows of a ticket -/

section

variable (p : Paper) (page : CodePage) (t : ReceiptTexts) (o : Ticket)

/-- One byte over the whole row. -/
def ruleRow (b : UInt8) : Bytes := List.replicate p.columns b

/-- A text at the left of a whole row. -/
def fixedRow (s : String) : Bytes := Column.left (page.encode s) p.columns

/-- A text at each end of a whole row. -/
def endsRow (left right : String) : Bytes :=
  Column.ends (page.encode left) (page.encode right) p.columns

/-- Four columns: the name takes what 3, 7 and 8 columns leave. -/
def columnsRow (name quantity price total : String) : Bytes :=
  Column.left (page.encode name) (p.columns - 18) ++ Column.right (page.encode quantity) 3 ++
    Column.right (page.encode price) 7 ++ Column.right (page.encode total) 8

/-- The row of a line of the order. -/
def orderedRow (l : Line) : Bytes :=
  columnsRow p page l.name (toString l.quantity) l.unitPrice.money l.lineTotal.money

/-- The row of the notes of a line, if there are any to print. -/
def notesRow (l : Line) : List Bytes :=
  (l.printableNotes.map fun n => fixedRow p page ("   * " ++ n)).toList

/-- The row of the time, if there is one to print. -/
def dateRow : List Bytes :=
  ((Stamp.ofText? o.createdAt).map fun s => fixedRow p page ("Date: " ++ s.dateTime)).toList

/-- The rows of a payment. -/
def paidRows (x : Payment) : List Bytes :=
  [endsRow p page "Payment:" x.provider, endsRow p page "Paid:" (t.money x.amount)] ++
    if 0 < x.change.value then [endsRow p page "Change:" (t.money x.change)] else []

/-- The rows above the lines, the rule of dashes excepted. -/
def upperRows : List Bytes :=
  [page.encode t.brand, page.encode t.subtitle, fixedRow p page ("Order: " ++ o.orderNumber),
    fixedRow p page (if o.isTakeAway then "TAKEAWAY" else "Table: " ++ o.tableNumber)] ++
  dateRow p page o ++ [ruleRow p 0x3D, columnsRow p page "Item" "Qty" "Price" "Total"]

/-- The rows of the lines, in their order. -/
def tableRows : List Bytes := o.lines.flatMap fun l => orderedRow p page l :: notesRow p page l

/-- The rows below the lines, the rule of dashes excepted. -/
def lowerRows : List Bytes :=
  [page.encode ("TOTAL: " ++ t.money o.total)] ++ (o.payment.map (paidRows p page t)).getD [] ++
    [page.encode t.footer, [], []]

end

/-! ## 2. The rows of the layout -/

section

variable (p : Paper) (page : CodePage) (t : ReceiptTexts) (o : Ticket)

theorem encodeChars_rule (n : Nat) :
    page.encodeChars (List.replicate n '=') = List.replicate n 0x3D ∧
    page.encodeChars (List.replicate n '-') = List.replicate n 0x2D := by
  constructor <;> cases page <;> exact List.map_replicate

theorem encode_itemRow (name quantity price total : String) :
    page.encode (itemRow p name quantity price total) =
      columnsRow p page name quantity price total := by
  simp only [itemRow, CodePage.encode_append, CodePage.encode_fitLeft, CodePage.encode_fitRight]
  rfl

theorem encodeChars_fitLeftChars (s : String) :
    page.encodeChars (Text.fitLeftChars s.toList p.columns) = fixedRow p page s :=
  page.encodeChars_fitLeft _ _

/-- A row that may be left out is a row of what is there. -/
theorem rows_optionalRow {α : Type} (x : Option α) (f : α → String) :
    (p.sheet page).rows (x.map fun a => Instruction.fixed (f a)).toList =
      (x.map fun a => fixedRow p page (f a)).toList := by
  cases x with
  | none => rfl
  | some a => exact congrArg ([·]) (encodeChars_fitLeftChars p page (f a))

theorem rows_heading :
    (p.sheet page).rows (heading t) = [page.encode t.brand, page.encode t.subtitle] := rfl

theorem rows_orderRows :
    (p.sheet page).rows (orderRows o) =
      [fixedRow p page ("Order: " ++ o.orderNumber),
        fixedRow p page (if o.isTakeAway then "TAKEAWAY" else "Table: " ++ o.tableNumber)] ++
      dateRow p page o := by
  rw [orderRows, Sheet.rows_append, rows_optionalRow, dateRow, ← encodeChars_fitLeftChars,
    ← encodeChars_fitLeftChars]
  rfl

theorem rows_lineRows (l : Line) :
    (p.sheet page).rows (lineRows p l) = orderedRow p page l :: notesRow p page l := by
  rw [lineRows, quantityText_eq, ← List.singleton_append, Sheet.rows_append, rows_optionalRow,
    orderedRow, ← encode_itemRow]
  rfl

theorem rows_itemTable :
    (p.sheet page).rows (itemTable p o) =
      [ruleRow p 0x3D, columnsRow p page "Item" "Qty" "Price" "Total", ruleRow p 0x2D] ++
        tableRows p page o ++ [ruleRow p 0x2D] := by
  obtain ⟨heq, hdash⟩ := encodeChars_rule page p.columns
  rw [itemTable, Sheet.rows_append, Sheet.rows_append, Sheet.rows_flatMap, ← encode_itemRow,
    ruleRow, ruleRow, ← heq, ← hdash]
  simp only [rows_lineRows]
  rfl

theorem rows_totalRow :
    (p.sheet page).rows (totalRow t o) = [page.encode ("TOTAL: " ++ t.money o.total)] := rfl

theorem rows_paymentRows (x : Payment) :
    (p.sheet page).rows (paymentRows t x) = paidRows p page t x := by
  have hends (l r : String) : page.encodeChars (Sheet.endsRow p.columns l r) =
      endsRow p page l r := page.encodeChars_endsRow _ _ _
  rw [paymentRows, paidRows, Sheet.rows_append, ← hends, ← hends, ← hends]
  by_cases h : x.change.isPositive = true
  · rw [if_pos h, if_pos (x.change.isPositive_iff.mp h)]
    rfl
  · rw [if_neg h, if_neg (mt x.change.isPositive_iff.mpr h)]
    rfl

theorem rows_closing : (p.sheet page).rows (closing t) = [page.encode t.footer, [], []] := rfl

/-- **A receipt has the rows of its ticket.** -/
theorem rows_layout :
    (p.sheet page).rows (layout p t o) =
      upperRows p page t o ++ [ruleRow p 0x2D] ++ tableRows p page o ++ [ruleRow p 0x2D] ++
        lowerRows p page t o := by
  have hpay : (p.sheet page).rows ((o.payment.map (paymentRows t)).getD []) =
      (o.payment.map (paidRows p page t)).getD [] := by
    cases o.payment with
    | none => rfl
    | some x => exact rows_paymentRows p page t x
  simp only [layout, Sheet.rows_append, rows_heading, rows_orderRows, rows_itemTable,
    rows_totalRow, hpay, rows_closing, upperRows, lowerRows, List.append_assoc, List.cons_append,
    List.nil_append]

/-- Every text of a receipt stands on a row that is printed. -/
theorem whole_layout : Whole (layout p t o) := by
  have hdate : Whole (orderRows o) := by
    rw [orderRows, whole_append]
    refine ⟨rfl, ?_⟩
    cases Stamp.ofText? o.createdAt <;> rfl
  have hline (l : Line) : Whole (lineRows p l) := by
    rw [lineRows]
    cases l.printableNotes <;> rfl
  have hpay : Whole ((o.payment.map (paymentRows t)).getD []) := by
    cases o.payment with
    | none => rfl
    | some x =>
      rw [Option.map_some, Option.getD_some, paymentRows]
      split <;> rfl
  simp only [layout, itemTable, whole_append]
  exact ⟨⟨⟨⟨⟨rfl, hdate⟩, ⟨rfl, whole_flatMap hline _⟩, rfl⟩, rfl⟩, hpay⟩, rfl⟩

end

/-! ## 3. The rows of the lines -/

/-- **The columns of a row**: the name of a line, its quantity, its price and its total, each fitted
    to its column. -/
structure Columns (p : Paper) (page : CodePage) (l : Line) (row : Bytes) : Prop where
  width : row.length = p.columns
  name : row.take (p.columns - 18) = Column.left (page.encode l.name) (p.columns - 18)
  quantity : (row.drop (p.columns - 18)).take 3 =
    Column.right (page.encode (toString l.quantity)) 3
  price : (row.drop (p.columns - 15)).take 7 = Column.right (page.encode l.unitPrice.money) 7
  total : row.drop (p.columns - 8) = Column.right (page.encode l.lineTotal.money) 8

section

variable (p : Paper) (page : CodePage) (o : Ticket) (l : Line)

theorem le_columns : 32 ≤ p.columns := by
  unfold Paper.columns
  split <;> omega

theorem columns_orderedRow : Columns p page l (orderedRow p page l) := by
  have hp := le_columns p
  have hname := Column.left_length (page.encode l.name) (p.columns - 18)
  have hq := Column.right_length (page.encode (toString l.quantity)) 3
  have hu := Column.right_length (page.encode l.unitPrice.money) 7
  have ht := Column.right_length (page.encode l.lineTotal.money) 8
  have h15 : p.columns - 15 = p.columns - 18 + 3 := by omega
  have h8 : p.columns - 8 = p.columns - 18 + 3 + 7 := by omega
  unfold orderedRow columnsRow
  constructor
  case width =>
    simp only [List.length_append, hname, hq, hu, ht]
    omega
  case name => rw [List.append_assoc, List.append_assoc, List.take_left' hname]
  case quantity =>
    rw [List.append_assoc, List.append_assoc, List.drop_left' hname, List.take_left' hq]
  case price =>
    rw [h15, List.append_assoc _ _ (Column.right (page.encode l.lineTotal.money) 8),
      List.drop_left' (by rw [List.length_append, hname, hq]), List.take_left' hu]
  case total =>
    rw [h8, List.drop_left' (by rw [List.length_append, List.length_append, hname, hq, hu])]

/-- A rule of dashes is not the row of a line: there is a point in its price. -/
theorem orderedRow_ne_ruleRow : orderedRow p page l ≠ ruleRow p 0x2D := by
  intro h
  have hmoney : 0x2E ∈ page.encode l.unitPrice.money := by
    rw [← page.encodeChar_point]
    exact List.mem_map_of_mem l.unitPrice.point_mem_money
  have hrow : 0x2E ∈ orderedRow p page l :=
    List.mem_append_left _ (List.mem_append_right _ (Column.point_mem_right (by decide) hmoney))
  rw [h] at hrow
  exact absurd (List.eq_of_mem_replicate hrow) (by decide)

/-- Nor is it a row of notes: that starts with a space. -/
theorem ruleRow_not_mem_notesRow : ruleRow p 0x2D ∉ notesRow p page l := by
  intro h
  obtain ⟨n, -, hn⟩ := Option.map_eq_some_iff.mp (Option.mem_toList.mp h)
  have hp := le_columns p
  have hrule : (ruleRow p 0x2D).head? = some 0x2D := by
    rw [ruleRow, List.head?_replicate, if_neg (by omega)]
  have hspace : (page.encode ("   * " ++ n)).head? = some 0x20 := by
    rw [CodePage.encode_append, List.head?_append]
    exact congrArg some page.encodeChar_space
  rw [← hn, fixedRow, Column.left_head? (by omega) hspace] at hrule
  cases hrule

theorem ruleRow_not_mem_tableRows : ruleRow p 0x2D ∉ tableRows p page o := by
  intro h
  obtain ⟨l, -, hl⟩ := List.mem_flatMap.mp h
  rcases List.mem_cons.mp hl with hl | hl
  · exact orderedRow_ne_ruleRow p page l hl.symm
  · exact ruleRow_not_mem_notesRow p page l hl

/-- One row for each line, and one for the notes of each line that has any to print. -/
theorem length_tableRows :
    (tableRows p page o).length =
      o.lines.length + o.lines.countP fun l => l.printableNotes.isSome := by
  unfold tableRows
  induction o.lines with
  | nil => rfl
  | cons l ls ih =>
    have hnotes : (notesRow p page l).length = if l.printableNotes.isSome then 1 else 0 := by
      rw [notesRow]
      cases l.printableNotes <;> rfl
    rw [List.flatMap_cons, List.length_append, ih, List.length_cons, hnotes, List.countP_cons,
      List.length_cons]
    omega

end

/-! ## 4. The stream -/

/-- **What is printed on the receipt of a ticket.** -/
structure Printed (p : Paper) (page : CodePage) (t : ReceiptTexts) (o : Ticket) (bs : Bytes) :
    Prop where
  /-- Without commands, the stream is these rows, each ended by a line feed; nothing follows the
      last line feed. -/
  rows : ∃ txt, text? bs = some txt ∧ txt.splitOn 0x0A =
    upperRows p page t o ++ [ruleRow p 0x2D] ++ tableRows p page o ++ [ruleRow p 0x2D] ++
      lowerRows p page t o ++ [[]]
  /-- Of the commands, the first resets and the last cuts, and no other does. -/
  framed : Framed bs
  /-- There is a time to print exactly if the ticket's is not blank. -/
  dated : (Stamp.ofText? o.createdAt).isSome = true ↔ ¬ Text.Blank o.createdAt
  /-- There are notes to print exactly if a line has notes that are not blank. -/
  noted : ∀ l ∈ o.lines, ∀ n, l.printableNotes = some n ↔
    ∃ notes, l.notes = some notes ∧ ¬ Text.Blank notes ∧ n = Text.trim notes
  /-- Between the rules of dashes, no row is such a rule. -/
  apart : ruleRow p 0x2D ∉ tableRows p page o
  /-- Between them is a row for each line, and one more for each that has notes to print. -/
  count : (tableRows p page o).length =
    o.lines.length + o.lines.countP fun l => l.printableNotes.isSome
  columns : ∀ l ∈ o.lines, Columns p page l (orderedRow p page l)

/-- **Every receipt is printed so**, on whatever paper, in whatever code page, and whatever texts
    the ticket and the house hold. -/
theorem render_receipt_rows (s : Settings) (o : Ticket) (target : Option String)
    (width : Option UInt16) :
    Printed ⟨width.getD s.paperWidth⟩ s.page s.texts o
      (Job.render s ⟨.receipt o, target, width⟩) := by
  have hrender : Job.render s ⟨.receipt o, target, width⟩ =
      (Paper.sheet ⟨width.getD s.paperWidth⟩ s.page).print
        (layout ⟨width.getD s.paperWidth⟩ s.texts o) := Job.render_of_layout rfl
  constructor
  case rows =>
    rw [hrender, ← rows_layout]
    exact Sheet.splitOn_text_print _ (whole_layout _ _ _)
  case framed => exact Job.framed_render rfl
  case dated => rw [stamp_isSome, Text.printable_isSome_iff]
  case noted =>
    intro l _ n
    simp only [Line.printableNotes, Option.bind_eq_some_iff, Text.printable_eq_some_iff]
  case apart => exact ruleRow_not_mem_tableRows _ _ _
  case count => exact length_tableRows _ _ _
  case columns => exact fun l _ => columns_orderedRow _ _ l

end ReceiptPrinting.Receipt
