import ReceiptPrinting.Json.Numeral
import ReceiptPrinting.Json.StringLiteral

/-!
# The head of a value

Every value shows by its first character what it is. A scalar is read to its end at once; of a list
or an object only the opening bracket is read, and what follows is up to whoever asked.
-/

namespace ReceiptPrinting.Json

/-- What stands next in a text. -/
inductive Head where
  /-- A value without parts, and the text behind it. -/
  | scalar (f : Found) (c : Cursor)
  /-- A list, and the text behind its bracket. -/
  | list (c : Cursor)
  /-- An object, and the text behind its brace. -/
  | object (c : Cursor)
deriving DecidableEq, Repr

/-- Reads the head of the next value. -/
def head (c : Cursor) : Except Failure Head :=
  let c := c.skipBlanks
  match c.rest with
  | [] => faultAt c.offset .endOfValue
  | x :: r =>
    let d : Cursor := ⟨r, c.offset + 1⟩
    if x = 'n' then do
      pure (.scalar .null (← word ['u', 'l', 'l'] d))
    else if x = 't' then do
      pure (.scalar (.bool true) (← word ['r', 'u', 'e'] d))
    else if x = 'f' then do
      pure (.scalar (.bool false) (← word ['a', 'l', 's', 'e'] d))
    else if x = '"' then do
      let (s, d) ← readString d
      pure (.scalar (.string s) d)
    else if x = '-' then do
      let (n, d) ← readNumber true d
      pure (.scalar (.number n) d)
    else if isDigit x then do
      let (n, d) ← readNumber false c
      pure (.scalar (.number n) d)
    else if x = '[' then .ok (.list d)
    else if x = '\x7b' then .ok (.object d)
    else faultAt c.ahead .valueExpected

/-- The most brackets and braces that may be open at once, and one more. -/
def maxDepth : Nat := 128

/-- Goes one level down, with `depth` levels left, at a bracket that ends at offset `n`. -/
def enter (depth n : Nat) : Except Failure Nat :=
  if depth ≤ 1 then faultAt n .tooDeep else .ok (depth - 1)

end ReceiptPrinting.Json
