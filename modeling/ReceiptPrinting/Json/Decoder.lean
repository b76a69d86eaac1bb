import ReceiptPrinting.Json.Parser

/-!
# Decoders: reading what a value means

A decoder of a type reads it in two ways: straight from a text, or from a value that has been read
before. Both accept the same shapes, and they differ in three things only. Straight from a text a
failure has its place, the first failure in the order of the text is the one reported, and a member
that occurs twice is a failure; from a value the members come in the order of their names, and the
last of two members has already won.

* `scalar` decodes a value without parts by one function for both ways;
* `optional` reads `null` as absent; `list` reads a list item by item; `value` takes any value;
* `Decoder.read` and `Decoder.convert` run a decoder on a whole text and on a value.
-/

namespace ReceiptPrinting.Json

/-- How a type is read. -/
structure Decoder (α : Type) where
  /-- From the next value of a text, with so many levels of brackets left. -/
  fromText : (depth : Nat) → Cursor → Except Failure (α × Cursor)
  /-- From a value. -/
  fromValue : Value → Except Mismatch α

namespace Decoder

variable {α : Type}

/-- Decodes a value without parts. A list or an object is refused at its bracket. -/
def scalar (accept : Found → Except Mismatch α) : Decoder α where
  fromText _ c := do
    match ← head c with
    | .scalar f d =>
      match accept f with
      | .ok a => pure (a, d)
      | .error m => mismatchAt d.offset m
    | .list d =>
      match accept .list with
      | .ok a => pure (a, d)
      | .error m => mismatchAt (d.offset - 1) m
    | .object d =>
      match accept .object with
      | .ok a => pure (a, d)
      | .error m => mismatchAt (d.offset - 1) m
  fromValue v := accept v.found

/-- Decodes a value without parts that could have been any value. A list or an object is refused
    only when its end has been looked for. -/
def anyScalar (accept : Found → Except Mismatch α) : Decoder α where
  fromText depth c := do
    match ← head c with
    | .scalar f d =>
      match accept f with
      | .ok a => pure (a, d)
      | .error m => mismatchAt d.offset m
    | .list d =>
      let _ ← enter depth d.offset
      match accept .list with
      | .ok a => pure (a, ← closeList d)
      | .error m => mismatchAt (settleList d) m
    | .object d =>
      let _ ← enter depth d.offset
      match accept .object with
      | .ok a => pure (a, ← closeObject d)
      | .error m => mismatchAt (settleObject d) m
  fromValue v := accept v.found

/-- Any value. -/
def value : Decoder Value where
  fromText := readValue
  fromValue := .ok

/-- `null`, or what `d` decodes. -/
def optional (d : Decoder α) : Decoder (Option α) where
  fromText depth c := do
    let c := c.skipBlanks
    match c.rest with
    | 'n' :: r => pure (none, ← word ['u', 'l', 'l'] ⟨r, c.offset + 1⟩)
    | _ =>
      let (a, c) ← d.fromText depth c
      pure (some a, c)
  fromValue
    | .null => .ok none
    | v => (d.fromValue v).map some

/-- The items of a list in a text, up to its bracket. -/
def items (d : Decoder α) (depth : Nat) : (budget : Nat) → (first : Bool) → Cursor →
    Except Failure (List α × Cursor)
  | 0, _, c => faultAt c.offset .endOfList
  | k + 1, first, c => do
    match ← nextItem first c with
    | none => pure ([], ← closeList c)
    | some c =>
      let (a, c) ← d.fromText depth c
      let (as, c) ← items d depth k false c
      pure (a :: as, c)

/-- A list of what `d` decodes. -/
def list (d : Decoder α) : Decoder (List α) where
  fromText depth c := do
    match ← head c with
    | .scalar f e => mismatchAt e.offset (.kind f .list)
    | .list e =>
      let depth ← enter depth e.offset
      d.items depth e.budget true e
    | .object e => mismatchAt (e.offset - 1) (.kind .object .list)
  fromValue
    | .array vs => vs.mapM d.fromValue
    | v => .error (.kind v.found .list)

/-- Reads a whole text. -/
def read (d : Decoder α) (s : String) : Except Failure α := do
  let (a, c) ← d.fromText maxDepth (.start s)
  atEnd c
  pure a

/-- Reads a value. -/
def convert (d : Decoder α) (v : Value) : Except Mismatch α := d.fromValue v

/-! ## Values without parts -/

/-- A text. -/
def string : Decoder String := scalar fun
  | .string s => .ok s
  | f => .error (.kind f .string)

/-- A truth value. -/
def bool : Decoder Bool := scalar fun
  | .bool b => .ok b
  | f => .error (.kind f .bool)

/-- A whole number from `lo` up to `hi`. -/
def wholeWithin (wanted : Wanted) (lo hi : Int) : Decoder Int := scalar fun
  | .number (.whole n) =>
    if lo ≤ n ∧ n ≤ hi then .ok n else .error (.range (.number (.whole n)) wanted)
  | f => .error (.kind f wanted)

/-- What `d` decodes, seen through `f`. -/
def map {β : Type} (f : α → β) (d : Decoder α) : Decoder β where
  fromText depth c := do
    let (a, c) ← d.fromText depth c
    pure (f a, c)
  fromValue v := (d.fromValue v).map f

end Decoder

end ReceiptPrinting.Json
