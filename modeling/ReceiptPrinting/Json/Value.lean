import ReceiptPrinting.Number.Shortest

/-!
# JSON values and their compact text

A value is what a JSON text says once blanks, the spelling of numbers and the order of members are
forgotten.

* A number is whole if it was written as a whole number of at most 64 bits, and binary otherwise.
* The members of an object are kept in the order of their names, each name once (`putMember`).
* `Value.text` writes a value without blanks; strings are escaped as `escapeChar` says, and members
  are written in the order they are held in.
-/

namespace ReceiptPrinting.Json

/-- A number. -/
inductive Number where
  | whole (n : Int)
  | real (x : Binary64)
deriving DecidableEq, Repr

/-- A JSON value. -/
inductive Value where
  | null
  | bool (b : Bool)
  | number (n : Number)
  | string (s : String)
  | array (items : List Value)
  | object (members : List (String × Value))
deriving Repr, Inhabited

/-- The members of an object. -/
abbrev Members := List (String × Value)

/-- The members with the one named `k` set to `v`, in the order of names. -/
def putMember (k : String) (v : Value) : Members → Members
  | [] => [(k, v)]
  | m :: r =>
    if k = m.1 then (k, v) :: r
    else if k < m.1 then (k, v) :: m :: r
    else m :: putMember k v r

/-- The member of a value that may be absent. -/
def optionalMember (name : String) : Option Value → Members
  | some v => [(name, v)]
  | none => []

/-! ## The compact text -/

/-- The digit of a number below 16. -/
def hexDigit (n : Nat) : Char :=
  if n < 10 then Char.ofNat ('0'.toNat + n) else Char.ofNat ('a'.toNat + (n - 10))

/-- A character as it stands in a JSON string: quote, backslash and control characters are escaped,
    everything else stands for itself. -/
def escapeChar (c : Char) : List Char :=
  if c = '"' then ['\\', '"']
  else if c = '\\' then ['\\', '\\']
  else if c = '\n' then ['\\', 'n']
  else if c = '\r' then ['\\', 'r']
  else if c = '\t' then ['\\', 't']
  else if c = '\x08' then ['\\', 'b']
  else if c = '\x0c' then ['\\', 'f']
  else if c.toNat < 0x20 then
    ['\\', 'u', '0', '0', hexDigit (c.toNat / 16), hexDigit (c.toNat % 16)]
  else [c]

/-- A JSON string. -/
def stringChars (s : String) : List Char := '"' :: s.toList.flatMap escapeChar ++ ['"']

/-- A whole number. -/
def wholeChars (n : Int) : List Char :=
  (if n < 0 then ['-'] else []) ++ Nat.toDigits 10 n.natAbs

/-- A whole number is written as it always is. -/
theorem toList_toString (n : Int) : (toString n).toList = wholeChars n := by
  rw [Int.toString_eq_repr]
  cases n with
  | ofNat m =>
    have hn : ¬ Int.ofNat m < 0 := by simp
    rw [wholeChars, if_neg hn]
    exact String.toList_ofList
  | negSucc m =>
    have hn : Int.negSucc m < 0 := Int.negSucc_lt_zero m
    rw [wholeChars, if_pos hn, Int.natAbs_negSucc]
    exact String.toList_append.trans (congrArg ('-' :: ·) String.toList_ofList)

/-- A number. -/
def Number.chars : Number → List Char
  | .whole n => wholeChars n
  | .real x => x.text

mutual

/-- A value without blanks. -/
def Value.chars : Value → List Char
  | .null => ['n', 'u', 'l', 'l']
  | .bool true => ['t', 'r', 'u', 'e']
  | .bool false => ['f', 'a', 'l', 's', 'e']
  | .number n => n.chars
  | .string s => stringChars s
  | .array items => '[' :: itemsChars items ++ [']']
  | .object members => '\x7b' :: membersChars members ++ ['\x7d']

/-- Items with commas between them. -/
def itemsChars : List Value → List Char
  | [] => []
  | [v] => v.chars
  | v :: r => v.chars ++ ',' :: itemsChars r

/-- Members with commas between them. -/
def membersChars : List (String × Value) → List Char
  | [] => []
  | [m] => memberChars m
  | m :: r => memberChars m ++ ',' :: membersChars r

/-- A name and its value with a colon between them. -/
def memberChars : String × Value → List Char
  | (k, v) => stringChars k ++ ':' :: v.chars

end

/-- A value without blanks. -/
def Value.text (v : Value) : String := String.ofList v.chars

end ReceiptPrinting.Json
