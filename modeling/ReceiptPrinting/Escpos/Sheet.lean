import ReceiptPrinting.CodePage
import ReceiptPrinting.Escpos.Command
import ReceiptPrinting.Text.Field

/-!
# Sheets: what is laid out, and the stream that prints it

A sheet has a width in columns and a code page. What stands on it is a list of instructions; each
instruction has its tokens on that sheet, whatever stands before or after it, and the stream of the
sheet is the opening commands followed by the tokens of the instructions in order.

Every text passes the code page on its way (`glyphs`), so no text can hold a command or a line feed.
-/

namespace ReceiptPrinting.Escpos

/-- One step of a layout. -/
inductive Instruction where
  /-- Text that stays on the row. -/
  | text (s : String)
  /-- Text, and the row is printed. -/
  | line (s : String)
  /-- The row is printed as it is. -/
  | feed
  | align (a : Align)
  | bold (on : Bool)
  | size (s : Size)
  /-- A row of one character over the whole width. -/
  | rule (c : Char)
  /-- A row of exactly the width of the sheet, with the text at the left. -/
  | fixed (s : String)
  /-- A row of exactly the width of the sheet, with one text at each end. -/
  | ends (left right : String)
  | cut
deriving DecidableEq, Repr

/-- The paper a layout is printed on. -/
structure Sheet where
  /-- The columns of a row. -/
  width : Nat
  page : CodePage
deriving DecidableEq, Repr

namespace Sheet

/-- The sheet of the wide paper with the standard code page. -/
def standard : Sheet := ⟨48, CodePage.standard⟩

/-- The tokens that print `cs`: one character each. -/
def glyphs (p : CodePage) (cs : List Char) : List Token := (p.encodeChars cs).map .glyph

/-- The row with `left` and `right` at its two ends. The right text keeps its width as long as the
    row has room for it; the left text is fitted into the columns that remain. -/
def endsRow (w : Nat) (left right : String) : List Char :=
  let r := min (Text.width right) w
  Text.fitLeftChars left.toList (w - r) ++ Text.fitRightChars right.toList r

/-- The tokens of one instruction. -/
def tokensOf (s : Sheet) : Instruction → List Token
  | .text t => glyphs s.page t.toList
  | .line t => glyphs s.page t.toList ++ [.feed]
  | .feed => [.feed]
  | .align a => [.command (.align a)]
  | .bold on => [.command (.bold on)]
  | .size z => [.command (.size z)]
  | .rule c => glyphs s.page (List.replicate s.width c) ++ [.feed]
  | .fixed t => glyphs s.page (Text.fitLeftChars t.toList s.width) ++ [.feed]
  | .ends l r => glyphs s.page (endsRow s.width l r) ++ [.feed]
  | .cut => [.command .cut]

/-- What every stream starts with: the style is reset and the code page chosen. -/
def opening (s : Sheet) : List Token := [.command .reset, .command (.page s.page.table)]

/-- The tokens of a layout. -/
def tokens (s : Sheet) (is : List Instruction) : List Token := s.opening ++ is.flatMap s.tokensOf

/-- The stream that prints a layout. -/
def print (s : Sheet) (is : List Instruction) : Bytes := spell (s.tokens is)

/-! ## Widths of rows -/

@[simp] theorem endsRow_length (w : Nat) (l r : String) : (endsRow w l r).length = w := by
  simp only [endsRow, List.length_append, Text.fitLeftChars_length, Text.fitRightChars_length]
  omega

end Sheet

end ReceiptPrinting.Escpos
