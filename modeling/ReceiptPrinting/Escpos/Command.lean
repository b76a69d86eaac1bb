/-!
# The ESC/POS byte stream: commands, characters, line feeds

A receipt printer is driven by one stream of bytes in which text and commands alternate. The stream
is described here as a list of tokens, each of which has one spelling in bytes:

* a `Command` starts with `ESC` (`0x1B`) or `GS` (`0x1D`) and has a fixed length;
* a line feed (`0x0A`) prints the row collected so far;
* any other byte is one character of the row, in the printer's code page.

The order of tokens is the order of bytes: `spell` of a list is the spellings one after another.
-/

namespace ReceiptPrinting

/-- Bytes for a printer. -/
abbrev Bytes := List UInt8

namespace Escpos

/-- Where a row stands on the paper. -/
inductive Align where
  | left
  | center
  | right
deriving DecidableEq, Repr, Inhabited

/-- The size of the characters. -/
inductive Size where
  /-- One column wide, one row high. -/
  | normal
  /-- One column wide, two rows high. -/
  | tall
  /-- Two columns wide, two rows high. -/
  | double
deriving DecidableEq, Repr, Inhabited

/-- What a printer is told besides the text. -/
inductive Command where
  /-- Back to the style a printer has when it is switched on. -/
  | reset
  /-- The code page, by its number. -/
  | page (table : UInt8)
  | align (a : Align)
  | bold (on : Bool)
  | size (s : Size)
  /-- Cut the paper and leave a small bridge. -/
  | cut
  /-- Open the cash drawer: a pulse of 50 ms on pin 2, then 500 ms of rest. -/
  | pulse
deriving DecidableEq, Repr

/-- One unit of the stream. -/
inductive Token where
  | command (c : Command)
  /-- A character, as its byte in the printer's code page. -/
  | glyph (b : UInt8)
  | feed
deriving DecidableEq, Repr

/-! ## The spelling in bytes -/

/-- The argument of the alignment command. -/
def Align.code : Align → UInt8
  | left => 0
  | center => 1
  | right => 2

/-- The argument of the size command: the upper half says how wide, the lower how high. -/
def Size.code : Size → UInt8
  | normal => 0x00
  | tall => 0x01
  | double => 0x11

/-- The argument of a switch. -/
def switchCode (on : Bool) : UInt8 := if on then 1 else 0

/-- A command in bytes. -/
def Command.spell : Command → Bytes
  | reset => [0x1B, 0x40]
  | page t => [0x1B, 0x74, t]
  | align a => [0x1B, 0x61, a.code]
  | bold on => [0x1B, 0x45, switchCode on]
  | size s => [0x1D, 0x21, s.code]
  | cut => [0x1D, 0x56, 0x01]
  | pulse => [0x1B, 0x70, 0x00, 25, 250]

/-- A token in bytes. -/
def Token.spell : Token → Bytes
  | command c => c.spell
  | glyph b => [b]
  | feed => [0x0A]

/-- Tokens in bytes, one after another. -/
def spell (ts : List Token) : Bytes := ts.flatMap Token.spell

@[simp] theorem spell_nil : spell [] = [] := rfl

@[simp] theorem spell_cons (t : Token) (ts : List Token) :
    spell (t :: ts) = t.spell ++ spell ts := rfl

@[simp] theorem spell_append (a b : List Token) : spell (a ++ b) = spell a ++ spell b := by
  simp [spell]

end Escpos

end ReceiptPrinting
