import ReceiptPrinting.Layout.Paper

/-!
# The test page

A page that shows how the printer is set up: width, columns and code page, a ruler over the whole
row, the characters of ASCII, and the styles.
-/

namespace ReceiptPrinting.TestPage

open Escpos (Instruction)

/-- The digits 1, 2, …, 9, 0, 1, … over `n` columns. -/
def ruler (n : Nat) : String :=
  String.ofList ((List.range n).map fun i => Char.ofNat ('0'.toNat + (i + 1) % 10))

/-- The set-up of the printer. -/
def setup (p : Paper) (page : CodePage) : List Instruction :=
  [.ends "Paper width:" (toString p.millimetres.toNat ++ "mm"),
    .ends "Chars per line:" (toString p.columns),
    .ends "Code page:" page.name]

/-- The page. -/
def layout (p : Paper) (page : CodePage) : List Instruction :=
  ([.align .center, .bold true, .size .double, .line "PRINTER TEST", .size .normal, .bold false,
    .line "Print Agent", .align .left, .rule '='] : List Instruction) ++
    setup p page ++
    ([.rule '-', .line (ruler p.columns), .line "ABCDEFGHIJKLMNOPQRSTUVWXYZ",
      .line "abcdefghijklmnopqrstuvwxyz", .line "0123456789 !\"#$%&'()*+,-./:;<=>?@",
      .bold true, .line "Bold text", .bold false, .size .tall, .line "Double height",
      .size .normal, .rule '-',
      .align .center, .line "Test page OK", .align .left, .feed, .feed, .cut] : List Instruction)

end ReceiptPrinting.TestPage
