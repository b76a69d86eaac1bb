import ReceiptPrinting.Json.Head

/-!
# Reading JSON values

* `parse` reads a text that is one value with nothing but blanks around it.
* `readValue` reads the next value of a text. Of members with one name the last counts.
* `skipValue` passes over a value that nobody asks for. It follows the same grammar, but it does not
  look at the range of numbers, the halves of surrogate pairs and the depth of brackets, and some
  faults are called by another name.

The recursion is bounded by a budget (`Cursor.budget`) that the text left to read never uses up:
reading a value, or an item of a list with its value, takes at least one character.
-/

namespace ReceiptPrinting.Json

/-! ## 1. Values -/

/-- The value of a scalar. -/
def Found.value : Found → Value
  | .null => .null
  | .bool b => .bool b
  | .number n => .number n
  | .string s => .string s
  | .list => .array []
  | .object => .object []

mutual

/-- Reads a value, with `depth` levels of brackets left. -/
def valueWithin : (budget depth : Nat) → Cursor → Except Failure (Value × Cursor)
  | 0, _, c => faultAt c.offset .endOfValue
  | k + 1, depth, c => do
    match ← head c with
    | .scalar f d => pure (f.value, d)
    | .list d =>
      let depth ← enter depth d.offset
      let (vs, d) ← itemsWithin k depth true d
      pure (.array vs, d)
    | .object d =>
      let depth ← enter depth d.offset
      let (ms, d) ← membersWithin k depth true [] d
      pure (.object ms, d)

/-- Reads the items of a list and the bracket that ends it. -/
def itemsWithin : (budget depth : Nat) → (first : Bool) → Cursor →
    Except Failure (List Value × Cursor)
  | 0, _, _, c => faultAt c.offset .endOfList
  | k + 1, depth, first, c => do
    match ← nextItem first c with
    | none => pure ([], ← closeList c)
    | some c =>
      let (v, c) ← valueWithin k depth c
      let (vs, c) ← itemsWithin k depth false c
      pure (v :: vs, c)

/-- Reads the members of an object and the brace that ends it, on top of the members `ms`. -/
def membersWithin : (budget depth : Nat) → (first : Bool) → Members → Cursor →
    Except Failure (Members × Cursor)
  | 0, _, _, _, c => faultAt c.offset .endOfObject
  | k + 1, depth, first, ms, c => do
    match ← nextName first c with
    | none => pure (ms, ← closeObject c)
    | some c =>
      let (name, c) ← readString c
      let c ← colon c
      let (v, c) ← valueWithin k depth c
      membersWithin k depth false (putMember name v ms) c

end

/-- Reads the next value, with `depth` levels of brackets left. -/
def readValue (depth : Nat) (c : Cursor) : Except Failure (Value × Cursor) :=
  valueWithin c.budget depth c

/-- Nothing but blanks is left. -/
def atEnd (c : Cursor) : Except Failure Unit :=
  let c := c.skipBlanks
  if c.rest.isEmpty then .ok () else faultAt c.ahead .trailingText

/-- The value that a text is. -/
def parse (s : String) : Except Failure Value := do
  let (v, c) ← readValue maxDepth (.start s)
  atEnd c
  pure v

/-! ## 2. Values that nobody asks for -/

/-- A list or an object whose end has not been reached. -/
inductive Open where
  | list
  | object
deriving DecidableEq, Repr

/-- The fault of a text that ends within a list or an object. -/
def Open.endFault : Open → Fault
  | list => .endOfList
  | object => .endOfObject

/-- The fault of a text that has neither a comma nor the end behind an item or a member. -/
def Open.commaFault : Open → Fault
  | list => .listCommaExpected
  | object => .objectCommaExpected

/-- The character that ends it. -/
def Open.close : Open → Char
  | list => ']'
  | object => '\x7d'

/-- Passes over the name of a member and the colon behind it. -/
def skipName (c : Cursor) : Except Failure Cursor := do
  let c := c.skipBlanks
  match c.rest with
  | '"' :: r => colon (← skipString ⟨r, c.offset + 1⟩)
  | [] => faultAt c.offset .endOfObject
  | _ => faultAt c.ahead .keyNotString

/-- What comes before the next value within a list or an object. -/
def skipToValue : Open → Cursor → Except Failure Cursor
  | .list, c => .ok c
  | .object, c => skipName c

mutual

/-- Passes over a value within the lists and objects of `stack`, the innermost first, and over all
    that follows it up to the end of the outermost. -/
def skipFrom : (budget : Nat) → List Open → Cursor → Except Failure Cursor
  | 0, _, c => faultAt c.offset .endOfValue
  | k + 1, stack, c => do
    let c := c.skipBlanks
    match c.rest with
    | [] => faultAt c.offset .endOfValue
    | x :: r =>
      let d : Cursor := ⟨r, c.offset + 1⟩
      if x = 'n' then skipBehind k stack true (← word ['u', 'l', 'l'] d)
      else if x = 't' then skipBehind k stack true (← word ['r', 'u', 'e'] d)
      else if x = 'f' then skipBehind k stack true (← word ['a', 'l', 's', 'e'] d)
      else if x = '"' then skipBehind k stack true (← skipString d)
      else if x = '-' then skipBehind k stack true (← skipNumber d)
      else if isDigit x then skipBehind k stack true (← skipNumber c)
      else if x = '[' then skipBehind k (.list :: stack) false d
      else if x = '\x7b' then skipBehind k (.object :: stack) false d
      else faultAt c.ahead .valueExpected

/-- Goes on behind a value (`comma`: one may follow) or behind an opening bracket. -/
def skipBehind : (budget : Nat) → List Open → (comma : Bool) → Cursor → Except Failure Cursor
  | _, [], _, c => .ok c
  | 0, _, _, c => faultAt c.offset .endOfValue
  | k + 1, o :: stack, comma, c => do
    let c := c.skipBlanks
    match c.rest with
    | [] => faultAt c.offset o.endFault
    | x :: r =>
      let d : Cursor := ⟨r, c.offset + 1⟩
      if x = ',' && comma then skipFrom k (o :: stack) (← skipToValue o d)
      else if x = o.close then skipBehind k stack true d
      else if comma then faultAt c.ahead o.commaFault
      else skipFrom k (o :: stack) (← skipToValue o c)

end

/-- Passes over the next value. -/
def skipValue (c : Cursor) : Except Failure Cursor := skipFrom c.budget [] c

end ReceiptPrinting.Json
