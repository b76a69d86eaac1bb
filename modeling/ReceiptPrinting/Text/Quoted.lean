import ReceiptPrinting.Text.Hidden

/-!
# Quoted texts in messages

A message shows a text between double quotes, on one row and without ambiguity: the quote, the
backslash and the usual control characters are written with a backslash, and every other character
that cannot be seen as its code point, as in `\u{200b}`.
-/

namespace ReceiptPrinting.Text

/-- The code point of a character between braces, in hexadecimal. -/
def codePoint (c : Char) : List Char :=
  ['\\', 'u', '\x7b'] ++ Nat.toDigits 16 c.toNat ++ ['\x7d']

/-- A character as it stands in a quoted text. -/
def quotedChar (c : Char) : List Char :=
  if c = '"' then ['\\', '"']
  else if c = '\\' then ['\\', '\\']
  else if c = '\n' then ['\\', 'n']
  else if c = '\r' then ['\\', 'r']
  else if c = '\t' then ['\\', 't']
  else if c = '\x00' then ['\\', '0']
  else if c.toNat < 0x20 || c.toNat == 0x7F then codePoint c
  else if 0x80 ≤ c.toNat && isHidden c then codePoint c
  else [c]

/-- A text between quotes. -/
def quoted (s : String) : String :=
  String.ofList ('"' :: s.toList.flatMap quotedChar ++ ['"'])

end ReceiptPrinting.Text
