import ReceiptPrinting.Layout.Receipt

/-!
# The copy for the kitchen

Order, table and time, then for each line the quantity and the whole name in tall characters with
its notes below; no prices, and nothing of the house.
-/

namespace ReceiptPrinting.KitchenCopy

open Escpos (Instruction)

/-- Order and table. -/
def heading (o : Ticket) : List Instruction :=
  ([.align .center, .bold true, .size .double, .line "KITCHEN ORDER", .line o.orderNumber,
    .size .normal] : List Instruction) ++
    (if o.isTakeAway then [.size .double, .line "*** TAKEAWAY ***"]
      else [.size .tall, .line ("TABLE: " ++ o.tableNumber)]) ++
    ([.size .normal, .bold false] : List Instruction)

/-- The time. -/
def timeRow (o : Ticket) : List Instruction :=
  .align .left ::
    ((Stamp.ofText? o.createdAt).map fun s => Instruction.fixed ("Time: " ++ s.time)).toList

/-- The rows of one line of the order. -/
def lineRows (l : Line) : List Instruction :=
  ([.bold true, .size .tall, .line (Receipt.quantityText l.quantity ++ "x " ++ l.name),
    .size .normal, .bold false] : List Instruction) ++
    (l.printableNotes.map fun n => Instruction.fixed ("   > " ++ n)).toList ++ [.feed]

/-- The closing line and the cut. -/
def closing : List Instruction :=
  [.rule '=', .align .center, .line "*** KITCHEN COPY ***", .align .left, .feed, .feed, .cut]

/-- The kitchen's copy of an order. -/
def layout (o : Ticket) : List Instruction :=
  heading o ++ timeRow o ++ [.rule '='] ++ o.lines.flatMap lineRows ++ closing

end ReceiptPrinting.KitchenCopy
