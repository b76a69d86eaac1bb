import ReceiptPrinting.Json.Cursor

/-!
# Reading JSON strings

A string ends at the first quote that no backslash escapes. Behind a backslash stands one of eight
letters and signs, or `u` and four hexadecimal digits; a character beyond 16 bits is written as two
such escapes, a leading and a trailing surrogate.

* `readString` gives the characters a string stands for;
* `skipString` passes over a string whose characters nobody asks for. It looks at the form of each
  escape but not at what the escape stands for.
-/

namespace ReceiptPrinting.Json

/-- The value of a hexadecimal digit. -/
def hexValue? (c : Char) : Option Nat :=
  if '0' ≤ c ∧ c ≤ '9' then some (c.toNat - '0'.toNat)
  else if 'a' ≤ c ∧ c ≤ 'f' then some (c.toNat - 'a'.toNat + 10)
  else if 'A' ≤ c ∧ c ≤ 'F' then some (c.toNat - 'A'.toNat + 10)
  else none

/-- The bytes of a text. -/
def byteCount (cs : List Char) : Nat := cs.foldr (fun c n => c.utf8Size + n) 0

/-- Reads four hexadecimal digits at offset `n`. Four bytes are taken before they are looked at. -/
def hexQuad (cs : List Char) (n : Nat) : Except Failure Nat :=
  match cs.take 4 with
  | [a, b, c, d] =>
    match hexValue? a, hexValue? b, hexValue? c, hexValue? d with
    | some a, some b, some c, some d => .ok (((a * 16 + b) * 16 + c) * 16 + d)
    | _, _, _, _ => faultAt (n + 4) .badEscape
  | short =>
    if 4 ≤ byteCount short then faultAt (n + 4) .badEscape
    else faultAt (n + byteCount short) .endOfString

/-- The first half of a pair. -/
def isLeading (u : Nat) : Bool := 0xD800 ≤ u && u ≤ 0xDBFF

/-- The second half of a pair. -/
def isTrailing (u : Nat) : Bool := 0xDC00 ≤ u && u ≤ 0xDFFF

/-- The trailing surrogate that a leading one needs, at offset `n`. -/
def trailingHalf (cs : List Char) (n : Nat) : Except Failure Nat :=
  match cs with
  | [] => faultAt n .endOfString
  | '\\' :: [] => faultAt (n + 1) .endOfString
  | '\\' :: 'u' :: r => do
    let u ← hexQuad r (n + 2)
    if isTrailing u then pure u else faultAt (n + 6) .loneSurrogate
  | '\\' :: _ => faultAt (n + 2) .cutSurrogate
  | _ => faultAt (n + 1) .cutSurrogate

/-- Reads the escape behind a backslash, at offset `n`: the character it stands for, and how many
    characters it takes. -/
def readEscape (cs : List Char) (n : Nat) : Except Failure (Char × Nat) :=
  match cs with
  | [] => faultAt n .endOfString
  | '"' :: _ => .ok ('"', 1)
  | '\\' :: _ => .ok ('\\', 1)
  | '/' :: _ => .ok ('/', 1)
  | 'b' :: _ => .ok ('\x08', 1)
  | 'f' :: _ => .ok ('\x0c', 1)
  | 'n' :: _ => .ok ('\n', 1)
  | 'r' :: _ => .ok ('\r', 1)
  | 't' :: _ => .ok ('\t', 1)
  | 'u' :: r => do
    let u ← hexQuad r (n + 1)
    if isTrailing u then faultAt (n + 5) .loneSurrogate
    else if isLeading u then
      let v ← trailingHalf (r.drop 4) (n + 5)
      pure (Char.ofNat (0x10000 + (u - 0xD800) * 0x400 + (v - 0xDC00)), 11)
    else pure (Char.ofNat u, 5)
  | _ => faultAt (n + 1) .badEscape

/-- Reads a string up to its closing quote. The first `skip` characters belong to an escape that has
    been read already. -/
def readStringFrom : (skip : Nat) → List Char → Nat → Except Failure (List Char × Cursor)
  | _, [], n => faultAt n .endOfString
  | k + 1, c :: r, n => readStringFrom k r (n + c.utf8Size)
  | 0, c :: r, n =>
    if c = '"' then .ok ([], ⟨r, n + 1⟩)
    else if c = '\\' then do
      let (x, k) ← readEscape r (n + 1)
      let (xs, d) ← readStringFrom k r (n + 1)
      pure (x :: xs, d)
    else if c.toNat < 0x20 then faultAt (n + 1) .controlCharacter
    else do
      let (xs, d) ← readStringFrom 0 r (n + c.utf8Size)
      pure (c :: xs, d)

/-- Reads a string behind its opening quote. -/
def readString (c : Cursor) : Except Failure (String × Cursor) := do
  let (xs, d) ← readStringFrom 0 c.rest c.offset
  pure (String.ofList xs, d)

/-! ## Strings that nobody asks for -/

/-- How many characters an escape takes, whatever it stands for. -/
def skipEscape (cs : List Char) (n : Nat) : Except Failure Nat :=
  match cs with
  | [] => faultAt n .endOfString
  | 'u' :: r => do
    let _ ← hexQuad r (n + 1)
    pure 5
  | c :: _ =>
    if c ∈ ['"', '\\', '/', 'b', 'f', 'n', 'r', 't'] then .ok 1 else faultAt (n + 1) .badEscape

/-- Passes over a string, as `readStringFrom` reads one. -/
def skipStringFrom : (skip : Nat) → List Char → Nat → Except Failure Cursor
  | _, [], n => faultAt n .endOfString
  | k + 1, c :: r, n => skipStringFrom k r (n + c.utf8Size)
  | 0, c :: r, n =>
    if c = '"' then .ok ⟨r, n + 1⟩
    else if c = '\\' then do
      let k ← skipEscape r (n + 1)
      skipStringFrom k r (n + 1)
    else if c.toNat < 0x20 then faultAt n .controlCharacter
    else skipStringFrom 0 r (n + c.utf8Size)

/-- Passes over a string behind its opening quote. -/
def skipString (c : Cursor) : Except Failure Cursor := skipStringFrom 0 c.rest c.offset

end ReceiptPrinting.Json
