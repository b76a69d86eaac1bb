import ReceiptPrinting.Json.Value
import ReceiptPrinting.Text.Quoted

/-!
# What is wrong with a JSON text, and where

Reading fails in two ways. The text is not JSON (`Fault`), or it is, but not of the shape that was
asked for (`Mismatch`). A failure found while reading a text carries its place, given as row and
column: rows count from one, and the column is the number of bytes from the start of the row up to
the place.

* `Fault.message`, `Mismatch.message` are the two causes in words;
* `Place.of` finds the row and column of an offset;
* `Failure.message` joins cause and place.
-/

namespace ReceiptPrinting.Json

/-! ## 1. Texts that are not JSON -/

/-- Why a text is not JSON. -/
inductive Fault where
  | endOfValue
  | endOfList
  | endOfObject
  | endOfString
  | valueExpected
  | wordExpected
  | colonExpected
  | listCommaExpected
  | objectCommaExpected
  | keyNotString
  | trailingComma
  | trailingText
  | badNumber
  | numberOutOfRange
  | badEscape
  | controlCharacter
  | loneSurrogate
  | cutSurrogate
  | tooDeep
deriving DecidableEq, Repr

/-- The fault in words. -/
def Fault.message : Fault → String
  | endOfValue => "EOF while parsing a value"
  | endOfList => "EOF while parsing a list"
  | endOfObject => "EOF while parsing an object"
  | endOfString => "EOF while parsing a string"
  | valueExpected => "expected value"
  | wordExpected => "expected ident"
  | colonExpected => "expected `:`"
  | listCommaExpected => "expected `,` or `]`"
  | objectCommaExpected => "expected `,` or `\x7d`"
  | keyNotString => "key must be a string"
  | trailingComma => "trailing comma"
  | trailingText => "trailing characters"
  | badNumber => "invalid number"
  | numberOutOfRange => "number out of range"
  | badEscape => "invalid escape"
  | controlCharacter => "control character (\\u0000-\\u001F) found while parsing a string"
  | loneSurrogate => "lone leading surrogate in hex escape"
  | cutSurrogate => "unexpected end of hex escape"
  | tooDeep => "recursion limit exceeded"

/-! ## 2. Values of another shape -/

/-- What stands where something else was asked for. -/
inductive Found where
  | null
  | bool (b : Bool)
  | number (n : Number)
  | string (s : String)
  | list
  | object
deriving DecidableEq, Repr

/-- What is asked for. -/
inductive Wanted where
  | string
  | bool
  | list
  /-- A whole number of 32 bits with a sign. -/
  | quantity
  /-- A whole number of 16 bits. -/
  | width
  /-- A whole number of 64 bits. -/
  | count
  | amount
  /-- A record, by its name. -/
  | record (name : String)
deriving DecidableEq, Repr

/-- Why a value is not of the shape asked for. -/
inductive Mismatch where
  /-- A value of another kind. -/
  | kind (found : Found) (wanted : Wanted)
  /-- A value of the right kind that is not one of those allowed. -/
  | range (found : Found) (wanted : Wanted)
  /-- A record written as a list of `n` items, which has fewer than it must. -/
  | tooShort (n : Nat) (record : String) (fields : Nat)
  /-- A record written as a list of `n` items, which has more than it may. -/
  | tooLong (n : Nat)
  | missing (field : String)
  | duplicate (field : String)
deriving DecidableEq, Repr

/-- What was found, in words. -/
def Found.words : Found → String
  | null => "null"
  | bool b => "boolean `" ++ (if b then "true" else "false") ++ "`"
  | number (.whole n) => "integer `" ++ String.ofList (wholeChars n) ++ "`"
  | number (.real x) => "floating point `" ++ String.ofList x.text ++ "`"
  | string s => "string " ++ Text.quoted s
  | list => "sequence"
  | object => "map"

/-- What was asked for, in words. -/
def Wanted.words : Wanted → String
  | string => "a string"
  | bool => "a boolean"
  | list => "a sequence"
  | quantity => "i32"
  | width => "u16"
  | count => "usize"
  | amount => "a Decimal type representing a fixed-point number"
  | record name => "struct " ++ name

/-- The mismatch in words. -/
def Mismatch.message : Mismatch → String
  | kind f w => "invalid type: " ++ f.words ++ ", expected " ++ w.words
  | range f w => "invalid value: " ++ f.words ++ ", expected " ++ w.words
  | tooShort n record fields =>
    "invalid length " ++ toString n ++ ", expected struct " ++ record ++ " with " ++
      toString fields ++ " elements"
  | tooLong n => "invalid length " ++ toString n ++ ", expected fewer elements in array"
  | missing field => "missing field `" ++ field ++ "`"
  | duplicate field => "duplicate field `" ++ field ++ "`"

/-- What a value is, as far as messages tell. -/
def Value.found : Value → Found
  | .null => .null
  | .bool b => .bool b
  | .number n => .number n
  | .string s => .string s
  | .array _ => .list
  | .object _ => .object

/-! ## 3. Places -/

/-- A place in a text. -/
structure Place where
  row : Nat
  column : Nat
deriving DecidableEq, Repr

/-- The place `offset` bytes behind `p`, where `cs` is the text from `p` on. -/
def Place.advance (p : Place) : (cs : List Char) → (offset : Nat) → Place
  | [], _ => p
  | c :: r, offset =>
    if offset = 0 then p
    else if c = '\n' then Place.advance ⟨p.row + 1, 0⟩ r (offset - 1)
    else if c.utf8Size ≤ offset then
      Place.advance ⟨p.row, p.column + c.utf8Size⟩ r (offset - c.utf8Size)
    else ⟨p.row, p.column + offset⟩

/-- The place of an offset in a text. -/
def Place.of (text : String) (offset : Nat) : Place := Place.advance ⟨1, 0⟩ text.toList offset

/-- Why reading a text failed. -/
inductive Cause where
  | fault (f : Fault)
  | mismatch (m : Mismatch)
deriving DecidableEq, Repr

/-- The cause in words. -/
def Cause.message : Cause → String
  | fault f => f.message
  | mismatch m => m.message

/-- A failure to read a text, with the offset of its place in bytes. -/
structure Failure where
  cause : Cause
  offset : Nat
deriving DecidableEq, Repr

/-- The failure in words, with its place in the text that was read. -/
def Failure.message (text : String) (f : Failure) : String :=
  let p := Place.of text f.offset
  f.cause.message ++ " at line " ++ toString p.row ++ " column " ++ toString p.column

end ReceiptPrinting.Json
