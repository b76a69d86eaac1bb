import ReceiptPrinting.Json.Fault

/-!
# Cursors: how far a text has been read

Reading goes from left to right. A cursor is the text that is left, with the offset of its first
character in bytes, for the places of failures. A failure is placed either behind what was read or
one byte further, on the character that was only looked at (`Cursor.ahead`).

* `skipBlanks` passes over the four blanks that JSON allows between its words;
* `word` reads the rest of a fixed word;
* `closeList`, `closeObject` read the end of a list or an object.
-/

namespace ReceiptPrinting.Json

/-- The text left to read. -/
structure Cursor where
  rest : List Char
  offset : Nat
deriving DecidableEq, Repr

namespace Cursor

/-- Before the first character. -/
def start (s : String) : Cursor := ⟨s.toList, 0⟩

/-- The offset of a failure on the next character: one byte further, unless nothing is left. -/
def ahead (c : Cursor) : Nat := if c.rest.isEmpty then c.offset else c.offset + 1

/-- More recursive steps than reading what is left can take: every second step reads a character. -/
def budget (c : Cursor) : Nat := 2 * c.rest.length + 2

end Cursor

/-- A fault at an offset. -/
def faultAt {α : Type} (offset : Nat) (f : Fault) : Except Failure α := .error ⟨.fault f, offset⟩

/-- A mismatch at an offset. -/
def mismatchAt {α : Type} (offset : Nat) (m : Mismatch) : Except Failure α :=
  .error ⟨.mismatch m, offset⟩

/-- The blanks of JSON. -/
def isBlank (c : Char) : Bool := c == ' ' || c == '\n' || c == '\t' || c == '\r'

/-- Passes over blanks. -/
def skipBlanksFrom : List Char → Nat → Cursor
  | [], n => ⟨[], n⟩
  | c :: r, n => if isBlank c then skipBlanksFrom r (n + 1) else ⟨c :: r, n⟩

/-- Passes over blanks. -/
def Cursor.skipBlanks (c : Cursor) : Cursor := skipBlanksFrom c.rest c.offset

/-- Reads the letters of a word. -/
def word : List Char → Cursor → Except Failure Cursor
  | [], c => .ok c
  | w :: ws, c =>
    match c.rest with
    | [] => faultAt c.offset .endOfValue
    | x :: r => if x = w then word ws ⟨r, c.offset + 1⟩ else faultAt (c.offset + 1) .wordExpected

/-- Reads the colon between a name and its value. -/
def colon (c : Cursor) : Except Failure Cursor :=
  let c := c.skipBlanks
  match c.rest with
  | ':' :: r => .ok ⟨r, c.offset + 1⟩
  | [] => faultAt c.offset .endOfObject
  | _ => faultAt c.ahead .colonExpected

/-! ## The ends of lists and objects -/

/-- Reads the bracket that ends a list. -/
def closeList (c : Cursor) : Except Failure Cursor :=
  let c := c.skipBlanks
  match c.rest with
  | ']' :: r => .ok ⟨r, c.offset + 1⟩
  | ',' :: r =>
    let d := (Cursor.mk r (c.offset + 1)).skipBlanks
    match d.rest with
    | ']' :: _ => faultAt d.ahead .trailingComma
    | _ => faultAt d.ahead .trailingText
  | [] => faultAt c.offset .endOfList
  | _ => faultAt c.ahead .trailingText

/-- Reads the brace that ends an object. -/
def closeObject (c : Cursor) : Except Failure Cursor :=
  let c := c.skipBlanks
  match c.rest with
  | '\x7d' :: r => .ok ⟨r, c.offset + 1⟩
  | ',' :: _ => faultAt c.ahead .trailingComma
  | [] => faultAt c.offset .endOfObject
  | _ => faultAt c.ahead .trailingText

/-- How far reading gets at the end of a list, whether or not the list ends there. -/
def settleList (c : Cursor) : Nat :=
  let c := c.skipBlanks
  match c.rest with
  | ']' :: _ => c.offset + 1
  | ',' :: r => (Cursor.mk r (c.offset + 1)).skipBlanks.offset
  | _ => c.offset

/-- How far reading gets at the end of an object, whether or not the object ends there. -/
def settleObject (c : Cursor) : Nat :=
  let c := c.skipBlanks
  match c.rest with
  | '\x7d' :: _ => c.offset + 1
  | _ => c.offset

/-! ## The next item and the next member -/

/-- Goes to the next item of a list: `none` at the end of the list, the bracket still unread. -/
def nextItem (first : Bool) (c : Cursor) : Except Failure (Option Cursor) :=
  let c := c.skipBlanks
  match c.rest with
  | [] => faultAt c.offset .endOfList
  | ']' :: _ => .ok none
  | x :: r =>
    if first then .ok (some c)
    else if x = ',' then
      let d := (Cursor.mk r (c.offset + 1)).skipBlanks
      match d.rest with
      | ']' :: _ => faultAt d.ahead .trailingComma
      | [] => faultAt d.offset .endOfValue
      | _ => .ok (some d)
    else faultAt c.ahead .listCommaExpected

/-- Goes to the next name of an object, behind its opening quote: `none` at the end of the object,
    the brace still unread. -/
def nextName (first : Bool) (c : Cursor) : Except Failure (Option Cursor) :=
  let c := c.skipBlanks
  match c.rest with
  | [] => faultAt c.offset .endOfObject
  | '\x7d' :: _ => .ok none
  | x :: r =>
    if first then
      if x = '"' then .ok (some ⟨r, c.offset + 1⟩) else faultAt c.ahead .keyNotString
    else if x = ',' then
      let d := (Cursor.mk r (c.offset + 1)).skipBlanks
      match d.rest with
      | '"' :: r => .ok (some ⟨r, d.offset + 1⟩)
      | '\x7d' :: _ => faultAt d.ahead .trailingComma
      | [] => faultAt d.offset .endOfValue
      | _ => faultAt d.ahead .keyNotString
    else faultAt c.ahead .objectCommaExpected

end ReceiptPrinting.Json
