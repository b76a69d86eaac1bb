import ReceiptPrinting.Layout.Paper
import ReceiptPrinting.Ticket
import ReceiptPrinting.WallClock

/-!
# The receipt for the guest

From top to bottom: the name of the house, the order, the table of items with a row for each line
and one for its notes, the total, the payment if there is one, and the closing line; then the cut.

Rows printed at the left in normal size are fitted to the paper. The others, which are the name of
the house, the line under it, the total and the closing line, are printed as they are.
-/

namespace ReceiptPrinting

open Escpos (Instruction)

/-- The texts of the house. -/
structure ReceiptTexts where
  brand : String
  subtitle : String
  footer : String
  /-- What stands before an amount. -/
  currency : String
deriving DecidableEq, Repr

/-- The texts of a house that has not chosen any. -/
def ReceiptTexts.standard : ReceiptTexts :=
  { brand := "RESTAURANT"
    subtitle := "Order Receipt"
    footer := "Thank you for your visit!"
    currency := "$" }

/-- An amount with its currency. -/
def ReceiptTexts.money (t : ReceiptTexts) (d : Decimal) : String := t.currency ++ " " ++ d.money

namespace Receipt

/-- One row of the table of items. -/
def itemRow (p : Paper) (name quantity price total : String) : String :=
  Text.fitLeft name p.nameWidth ++ Text.fitRight quantity Paper.quantityWidth ++
    Text.fitRight price Paper.priceWidth ++ Text.fitRight total Paper.totalWidth

/-- A quantity, as it is printed. -/
def quantityText (n : Int) : String := String.ofList (Json.wholeChars n)

/-- A quantity is printed as the number it is. -/
theorem quantityText_eq (n : Int) : quantityText n = toString n := by
  rw [quantityText, ← Json.toList_toString, String.ofList_toList]

/-- The rows of one line of the order. -/
def lineRows (p : Paper) (l : Line) : List Instruction :=
  .line (itemRow p l.name (quantityText l.quantity) l.unitPrice.money l.lineTotal.money) ::
    (l.printableNotes.map fun n => Instruction.fixed ("   * " ++ n)).toList

/-- The name of the house and the line under it. -/
def heading (t : ReceiptTexts) : List Instruction :=
  [.align .center, .bold true, .size .double, .line t.brand, .size .normal, .bold false,
    .line t.subtitle]

/-- Order, table and time. -/
def orderRows (o : Ticket) : List Instruction :=
  ([.align .left, .bold true, .fixed ("Order: " ++ o.orderNumber), .bold false,
    .fixed (if o.isTakeAway then "TAKEAWAY" else "Table: " ++ o.tableNumber)] :
      List Instruction) ++
    ((Stamp.ofText? o.createdAt).map fun s => Instruction.fixed ("Date: " ++ s.dateTime)).toList

/-- The table of items. -/
def itemTable (p : Paper) (o : Ticket) : List Instruction :=
  ([.rule '=', .line (itemRow p "Item" "Qty" "Price" "Total"), .rule '-'] : List Instruction) ++
    o.lines.flatMap (lineRows p) ++ [.rule '-']

/-- The total. -/
def totalRow (t : ReceiptTexts) (o : Ticket) : List Instruction :=
  [.align .right, .bold true, .size .tall, .line ("TOTAL: " ++ t.money o.total), .size .normal,
    .bold false, .align .left]

/-- How it was paid, and the change if there was any. -/
def paymentRows (t : ReceiptTexts) (p : Payment) : List Instruction :=
  [.ends "Payment:" p.provider, .ends "Paid:" (t.money p.amount)] ++
    if p.change.isPositive then [.ends "Change:" (t.money p.change)] else []

/-- The closing line and the cut. -/
def closing (t : ReceiptTexts) : List Instruction :=
  [.align .center, .line t.footer, .align .left, .feed, .feed, .cut]

/-- The receipt of an order. -/
def layout (p : Paper) (t : ReceiptTexts) (o : Ticket) : List Instruction :=
  heading t ++ orderRows o ++ itemTable p o ++ totalRow t o ++
    (o.payment.map (paymentRows t)).getD [] ++ closing t

end Receipt

end ReceiptPrinting
