/-!
# Natural numbers in decimal

* `read? bound` reads decimal digits, with or without a plus sign before them, as a number below
  `bound`; `read16?` and `read64?` read words of 16 and 64 bits;
* `padded w` writes a number with at least `w` digits.
-/

namespace ReceiptPrinting.Natural

/-- The value of a decimal digit. -/
def digit? (c : Char) : Option Nat :=
  if '0' ≤ c ∧ c ≤ '9' then some (c.toNat - '0'.toNat) else none

/-- Reads digits behind the number `n`. -/
def readDigits? (n : Nat) : List Char → Option Nat
  | [] => some n
  | c :: r => (digit? c).bind fun d => readDigits? (n * 10 + d) r

/-- The text of a number without its plus sign. -/
def unsigned : List Char → List Char
  | '+' :: r => r
  | r => r

/-- Reads a number below `bound`. -/
def read? (bound : Nat) (cs : List Char) : Option (Fin bound) :=
  match unsigned cs with
  | [] => none
  | ds => (readDigits? 0 ds).bind fun n => if h : n < bound then some ⟨n, h⟩ else none

/-- Reads a number of 16 bits. -/
def read16? (cs : List Char) : Option UInt16 := (read? UInt16.size cs).map UInt16.ofFin

/-- Reads a number of 64 bits. -/
def read64? (cs : List Char) : Option UInt64 := (read? UInt64.size cs).map UInt64.ofFin

/-- A number with at least `w` digits. -/
def padded (w n : Nat) : List Char :=
  let ds := Nat.toDigits 10 n
  List.replicate (w - ds.length) '0' ++ ds

end ReceiptPrinting.Natural
