import ReceiptPrinting.Escpos.Sheet

/-!
# Paper: columns of a width in millimetres

Paper of 80 mm has rows of 48 columns; any other paper is taken for the narrow one, with 32. The
table of ordered items has four columns: the name takes what quantity, price and total leave.
-/

namespace ReceiptPrinting

open Escpos (Sheet)

/-- Paper of a width in millimetres. -/
structure Paper where
  millimetres : UInt16
deriving DecidableEq, Repr

namespace Paper

/-- The columns of a row. -/
def columns (p : Paper) : Nat := if p.millimetres = 80 then 48 else 32

/-- The columns of a quantity. -/
def quantityWidth : Nat := 3

/-- The columns of a unit price. -/
def priceWidth : Nat := 7

/-- The columns of the total of a line. -/
def totalWidth : Nat := 8

/-- The columns of the name of an item. -/
def nameWidth (p : Paper) : Nat := p.columns - (quantityWidth + priceWidth + totalWidth)

/-- The paper as a sheet in a code page. -/
def sheet (p : Paper) (page : CodePage) : Sheet := ⟨p.columns, page⟩

/-- All papers but that of 80 mm are alike. -/
theorem columns_eq_iff (p q : Paper) :
    p.columns = q.columns ↔ (p.millimetres = 80 ↔ q.millimetres = 80) := by
  unfold columns
  split <;> split <;> simp_all

end Paper

end ReceiptPrinting
