import ReceiptPrinting.Proofs.Escpos.Framing
import ReceiptPrinting.Proofs.Layout.Receipt

/-!
# Rows with a text at each end

Such a row has exactly the width of the sheet. The text at the right comes first: as long as the row
has room for it, it stands there whole, and the text at the left takes the columns that remain. A
text at the right that is too long for the row is cut, and nothing of the other is printed.

* `Text.less?`, `Sheet.endsRow?`: the row with every difference checked; `Sheet.endsRow?_eq`: no
  check ever fails;
* `Column.AtLeft`, `AtEnds`: what stands on the row, told without differences;
* **`ends_fill_row`**: every row with two ends is so, and an amount that was paid is printed whole
  wherever the paper has room for it.
-/

namespace ReceiptPrinting

open Escpos (Instruction Sheet spell text?)

/-! ## 1. Differences -/

namespace Text

/-- `n` less `k`, if there is as much. -/
def less? (n k : Nat) : Option Nat := if k ≤ n then some (n - k) else none

theorem less?_of_le {n k : Nat} (h : k ≤ n) : less? n k = some (n - k) := if_pos h

/-- `cs` cut to `w` columns. -/
def cut? (cs : List Char) (w : Nat) : Option (List Char) :=
  if w = 0 then some [] else (less? w 1).map fun n => cs.take n ++ ['.']

/-- `cs` at the left of a field of `w` columns. -/
def fitLeft? (cs : List Char) (w : Nat) : Option (List Char) :=
  if w < cs.length then cut? cs w else (less? w cs.length).map fun n => cs ++ spaces n

/-- `cs` at the right of a field of `w` columns. -/
def fitRight? (cs : List Char) (w : Nat) : Option (List Char) :=
  if w < cs.length then cut? cs w else (less? w cs.length).map fun n => spaces n ++ cs

section

variable (cs : List Char) (w : Nat)

theorem cut?_eq : cut? cs w = some (cut cs w) := by
  cases w with
  | zero => rfl
  | succ w =>
    have hone : less? (w + 1) 1 = some w := less?_of_le (Nat.succ_pos w)
    rw [cut?, if_neg (Nat.succ_ne_zero w), hone]
    rfl

theorem fitLeft?_eq : fitLeft? cs w = some (fitLeftChars cs w) := by
  unfold fitLeft? fitLeftChars
  split
  case isTrue h => exact cut?_eq cs w
  case isFalse h => rw [less?_of_le (Nat.le_of_not_lt h), Option.map_some]

theorem fitRight?_eq : fitRight? cs w = some (fitRightChars cs w) := by
  unfold fitRight? fitRightChars
  split
  case isTrue h => exact cut?_eq cs w
  case isFalse h => rw [less?_of_le (Nat.le_of_not_lt h), Option.map_some]

end

end Text

/-- The row with `left` and `right` at its two ends, if all its differences are. -/
def Escpos.Sheet.endsRow? (w : Nat) (left right : String) : Option (List Char) := do
  let r := min (Text.width right) w
  let rightField ← Text.fitRight? right.toList r
  let free ← Text.less? w r
  let leftField ← Text.fitLeft? left.toList free
  return leftField ++ rightField

/-- **No more is ever taken from the width than there is.** -/
theorem Escpos.Sheet.endsRow?_eq (w : Nat) (left right : String) :
    endsRow? w left right = some (endsRow w left right) := by
  simp only [endsRow?, Text.fitRight?_eq, Text.less?_of_le (Nat.min_le_right _ w),
    Text.fitLeft?_eq]
  rfl

/-! ## 2. What stands on the row -/

namespace Column

/-- Bytes at the left of columns: filled up with spaces, or cut, with a point in the last column.
    Without columns nothing is printed. -/
inductive AtLeft (bs : Bytes) : Nat → Bytes → Prop where
  | padded (n : Nat) : AtLeft bs (bs.length + n) (bs ++ List.replicate n 0x20)
  | cut {n : Nat} (long : n + 1 < bs.length) : AtLeft bs (n + 1) (bs.take n ++ [0x2E])
  | gone (long : 0 < bs.length) : AtLeft bs 0 []

theorem atLeft_left (bs : Bytes) (w : Nat) : AtLeft bs w (left bs w) := by
  unfold left
  split
  case isTrue h =>
    obtain ⟨n, rfl⟩ := Nat.exists_eq_add_of_le h
    rw [Nat.add_sub_cancel_left]
    exact .padded n
  case isFalse h =>
    have hlong : w < bs.length := Nat.lt_of_not_le h
    cases w with
    | zero => exact .gone hlong
    | succ n => exact .cut hlong

end Column

/-- **What stands on a row of `w` columns** with a text at each end. A text at the right that fits
    is whole, and the other is fitted into the columns before it; one that does not fit is cut, with
    a point in the last column, and the other is not printed. -/
inductive AtEnds (page : CodePage) (left right : String) : Nat → Bytes → Prop where
  | whole {free : Nat} {front : Bytes} (fitted : Column.AtLeft (page.encode left) free front) :
    AtEnds page left right (free + right.toList.length) (front ++ page.encode right)
  | cut {n : Nat} (long : n + 1 < right.toList.length) :
    AtEnds page left right (n + 1) ((page.encode right).take n ++ [0x2E])
  | gone (long : 0 < right.toList.length) : AtEnds page left right 0 []

theorem atEnds_ends (page : CodePage) (left right : String) (w : Nat) :
    AtEnds page left right w (Column.ends (page.encode left) (page.encode right) w) := by
  have hlength : (page.encode right).length = right.toList.length := page.encode_length right
  rw [Column.ends]
  by_cases hfits : right.toList.length ≤ w
  · obtain ⟨free, rfl⟩ := Nat.exists_eq_add_of_le' hfits
    have hwhole : Column.right (page.encode right) right.toList.length = page.encode right := by
      rw [Column.right, if_pos hlength.le, hlength, Nat.sub_self]
      rfl
    rw [hlength, Nat.min_eq_left hfits, Nat.add_sub_cancel, hwhole]
    exact .whole (Column.atLeft_left _ free)
  · have hlong : w < right.toList.length := Nat.lt_of_not_le hfits
    have hnone : Column.left (page.encode left) 0 = [] :=
      List.length_eq_zero_iff.mp (Column.left_length _ 0)
    rw [hlength, Nat.min_eq_right hlong.le, Nat.sub_self, hnone, Column.right,
      if_neg (by rwa [hlength, Nat.not_le]), List.nil_append]
    cases w with
    | zero => exact .gone hlong
    | succ n => exact .cut hlong

/-- A text at the right that fits is the last that is printed. -/
theorem AtEnds.suffix {page : CodePage} {left right : String} {w : Nat} {row : Bytes}
    (h : AtEnds page left right w row) (hfits : right.toList.length ≤ w) :
    page.encode right <:+ row := by
  cases h with
  | whole fitted => exact List.suffix_append _ _
  | cut long => exact absurd hfits (Nat.not_le_of_lt long)
  | gone long => exact absurd hfits (Nat.not_le_of_lt long)

/-! ## 3. Rows of a stream -/

/-- **A row with two ends**, as it is added to a stream: as many bytes as the sheet has columns,
    none of them a line feed, and one line feed. -/
structure EndsRow (s : Sheet) (left right : String) (row : Bytes) : Prop where
  added : ∀ is : List Instruction, s.print (is ++ [.ends left right]) = s.print is ++ row ++ [0x0A]
  width : row.length = s.width
  unbroken : 0x0A ∉ row
  stands : AtEnds s.page left right s.width row
  whole : right.toList.length ≤ s.width → s.page.encode right <:+ row

theorem endsRow_ends (s : Sheet) (left right : String) :
    EndsRow s left right (s.page.encodeChars (Sheet.endsRow s.width left right)) := by
  have hstands : AtEnds s.page left right s.width
      (s.page.encodeChars (Sheet.endsRow s.width left right)) := by
    rw [CodePage.encodeChars_endsRow]
    exact atEnds_ends _ _ _ _
  constructor
  case added =>
    intro is
    have hrow : spell (s.tokensOf (.ends left right)) =
        s.page.encodeChars (Sheet.endsRow s.width left right) ++ [0x0A] := by
      rw [Sheet.tokensOf, Escpos.spell_append, Escpos.spell_glyphs]
      rfl
    rw [Sheet.print, Sheet.print, Sheet.tokens, Sheet.tokens, List.flatMap_append,
      ← List.append_assoc, Escpos.spell_append, List.flatMap_singleton, hrow, List.append_assoc]
  case width => rw [CodePage.encodeChars_length, Sheet.endsRow_length]
  case unbroken => exact Escpos.feed_not_mem_encodeChars _ _
  case stands => exact hstands
  case whole => exact hstands.suffix

/-- The rows of a payment: one for the provider, one for the amount, and one for the change if there
    was any. No amount that fits the row is cut. -/
structure PaymentRows (page : CodePage) (w : Nat) (t : ReceiptTexts) (x : Payment)
    (provider paid : Bytes) (change : List Bytes) : Prop where
  named : AtEnds page "Payment:" x.provider w provider
  counted : AtEnds page "Paid:" (t.money x.amount) w paid
  whole : (t.money x.amount).toList.length ≤ w → page.encode (t.money x.amount) <:+ paid
  changeless : x.change.value ≤ 0 → change = []
  changed : 0 < x.change.value → ∃ row, change = [row] ∧
    AtEnds page "Change:" (t.money x.change) w row ∧
    ((t.money x.change).toList.length ≤ w → page.encode (t.money x.change) <:+ row)

/-- **How a payment stands on a receipt**: its rows, then the closing line and the feeds. -/
def ShowsPayment (p : Paper) (page : CodePage) (t : ReceiptTexts) (x : Payment) (bs : Bytes) :
    Prop :=
  ∃ txt above provider paid change, text? bs = some txt ∧
    txt.splitOn 0x0A =
      above ++ [provider, paid] ++ change ++ [page.encode t.footer, [], [], []] ∧
    PaymentRows page p.columns t x provider paid change

theorem paymentRows_endsRow (p : Paper) (page : CodePage) (t : ReceiptTexts) (x : Payment) :
    PaymentRows page p.columns t x (Receipt.endsRow p page "Payment:" x.provider)
      (Receipt.endsRow p page "Paid:" (t.money x.amount))
      (if 0 < x.change.value then [Receipt.endsRow p page "Change:" (t.money x.change)]
        else []) := by
  have hends (l r : String) : AtEnds page l r p.columns (Receipt.endsRow p page l r) :=
    atEnds_ends page l r p.columns
  constructor
  case named => exact hends _ _
  case counted => exact hends _ _
  case whole => exact (hends _ _).suffix
  case changeless => exact fun h => if_neg (not_lt_of_ge h)
  case changed => exact fun h => ⟨_, if_pos h, hends _ _, (hends _ _).suffix⟩

theorem showsPayment_receipt (p : Paper) (page : CodePage) (t : ReceiptTexts) (o : Ticket)
    (x : Payment) :
    ShowsPayment p page t x
      ((p.sheet page).print (Receipt.layout p t { o with payment := some x })) := by
  let o' : Ticket := { o with payment := some x }
  obtain ⟨txt, htxt, hrows⟩ :=
    Sheet.splitOn_text_print (p.sheet page) (Receipt.whole_layout p t o')
  let above : List Bytes := Receipt.upperRows p page t o' ++ [Receipt.ruleRow p 0x2D] ++
    Receipt.tableRows p page o' ++ [Receipt.ruleRow p 0x2D] ++
    [page.encode ("TOTAL: " ++ t.money o.total)]
  refine ⟨txt, above, _, _, _, htxt, ?_, paymentRows_endsRow p page t x⟩
  have hlower : Receipt.lowerRows p page t o' =
      [page.encode ("TOTAL: " ++ t.money o.total)] ++ Receipt.paidRows p page t x ++
        [page.encode t.footer, [], []] := rfl
  rw [hrows, Receipt.rows_layout, hlower, Receipt.paidRows]
  simp only [above, List.append_assoc, List.cons_append, List.nil_append]

/-- **A row with a text at each end fills the paper and keeps the text at its right.** Nothing is
    ever taken from less than it. As many columns are printed as the sheet has, and one line feed;
    the text at the right is whole as long as there is room for it, and cut only where it is longer
    than the row, which then has nothing of the other. So no amount on a receipt is cut that fits
    the paper, however long the text before it or the name of the provider. -/
theorem ends_fill_row :
    (∀ w left right, Sheet.endsRow? w left right = some (Sheet.endsRow w left right)) ∧
    (∀ (s : Sheet) (left right : String), ∃ row, EndsRow s left right row) ∧
    ∀ (s : Settings) (o : Ticket) (x : Payment) (target : Option String) (width : Option UInt16),
      ShowsPayment ⟨width.getD s.paperWidth⟩ s.page s.texts x
        (Job.render s ⟨.receipt { o with payment := some x }, target, width⟩) := by
  refine ⟨Sheet.endsRow?_eq, fun s left right => ⟨_, endsRow_ends s left right⟩, ?_⟩
  intro s o x target width
  exact showsPayment_receipt _ _ _ _ _

/-- A long text at the left gives way; a text that leaves no room is cut itself. -/
theorem ends_fill_row_narrow :
    (∃ row, EndsRow ⟨10, .western⟩ "Payment provider" "CARD" row ∧
      "CARD".toList.length ≤ 10 ∧ CodePage.western.encode "CARD" <:+ row) ∧
    Sheet.endsRow 10 "Payment provider" "CARD" = "Payme.CARD".toList ∧
    Sheet.endsRow 4 "Paid:" "$ 10.00" = "$ 1.".toList := by
  obtain ⟨row, hrow⟩ := ends_fill_row.2.1 ⟨10, .western⟩ "Payment provider" "CARD"
  exact ⟨⟨row, hrow, by decide, hrow.whole (by decide)⟩, by decide, by decide⟩

end ReceiptPrinting
