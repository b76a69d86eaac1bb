import ReceiptPrinting.Json.Cursor

/-!
# Reading JSON numbers

A number is a whole part without leading zeros, a fraction and an exponent, each of the last two
optional (`Numeral`).

* A whole number without fraction and exponent that fits 64 bits, with or without a sign, is kept as
  it is. `-0` is not one of these: it is the binary number with that sign.
* Any other number is binary. Its digits are read as one natural number of 64 bits (`significand`);
  digits for which there is no room are dropped, and the count of dropped digits before the point
  goes to the exponent. The significand is rounded to a binary number, and this is multiplied or
  divided by a power of ten, in one rounded step (`scaled`). The result can therefore lie one unit
  in the last place beside the nearest binary number.
* A number beyond the binary ones is a fault; one too small for them is zero.
-/

namespace ReceiptPrinting.Json

/-- A decimal digit. -/
def isDigit (c : Char) : Bool := '0' ≤ c && c ≤ '9'

/-- The value of a decimal digit. -/
def digitValue (c : Char) : Nat := c.toNat - '0'.toNat

/-- The values of the digits a text starts with, and the text behind them. -/
def digits (c : Cursor) : List Nat × Cursor :=
  let ds := c.rest.takeWhile isDigit
  (ds.map digitValue, ⟨c.rest.dropWhile isDigit, c.offset + ds.length⟩)

/-- An exponent as it is written. -/
structure Exponent where
  negative : Bool
  digits : List Nat
  /-- The offset of the first digit. -/
  offset : Nat
deriving DecidableEq, Repr

/-- A number as it is written. -/
structure Numeral where
  negative : Bool
  whole : List Nat
  fraction : Option (List Nat)
  exponent : Option Exponent
deriving DecidableEq, Repr

/-! ## 1. The form -/

/-- Reads the whole part. `atEnd` is the fault of a text that ends before a digit that must
    follow. -/
def wholePart (atEnd : Fault) (c : Cursor) : Except Failure (List Nat × Cursor) :=
  match c.rest with
  | [] => faultAt c.offset atEnd
  | x :: r =>
    if x = '0' then
      let d : Cursor := ⟨r, c.offset + 1⟩
      match r with
      | y :: _ => if isDigit y then faultAt d.ahead .badNumber else .ok ([0], d)
      | [] => .ok ([0], d)
    else if isDigit x then .ok (digits c)
    else faultAt (c.offset + 1) .badNumber

/-- Reads the fraction, if there is one. -/
def fractionPart (atEnd : Fault) (c : Cursor) : Except Failure (Option (List Nat) × Cursor) :=
  match c.rest with
  | '.' :: r =>
    let (ds, d) := digits ⟨r, c.offset + 1⟩
    if ds.isEmpty then
      if d.rest.isEmpty then faultAt d.offset atEnd else faultAt d.ahead .badNumber
    else .ok (some ds, d)
  | _ => .ok (none, c)

/-- Reads the digits of an exponent. -/
def exponentDigits (atEnd : Fault) (negative : Bool) (c : Cursor) :
    Except Failure (Option Exponent × Cursor) :=
  match c.rest with
  | [] => faultAt c.offset atEnd
  | x :: _ =>
    if isDigit x then
      let (ds, d) := digits c
      .ok (some ⟨negative, ds, c.offset⟩, d)
    else faultAt (c.offset + 1) .badNumber

/-- Reads the exponent, if there is one. -/
def exponentPart (atEnd : Fault) (c : Cursor) : Except Failure (Option Exponent × Cursor) :=
  match c.rest with
  | x :: r =>
    if x = 'e' || x = 'E' then
      match r with
      | '+' :: r => exponentDigits atEnd false ⟨r, c.offset + 2⟩
      | '-' :: r => exponentDigits atEnd true ⟨r, c.offset + 2⟩
      | r => exponentDigits atEnd false ⟨r, c.offset + 1⟩
    else .ok (none, c)
  | [] => .ok (none, c)

/-- Reads a number behind its sign. -/
def readNumeral (atEnd : Fault) (negative : Bool) (c : Cursor) :
    Except Failure (Numeral × Cursor) := do
  let (whole, c) ← wholePart atEnd c
  let (fraction, c) ← fractionPart atEnd c
  let (exponent, c) ← exponentPart atEnd c
  pure (⟨negative, whole, fraction, exponent⟩, c)

/-! ## 2. The value -/

/-- The largest significand. -/
def maxSignificand : Nat := Nat.pow 2 64 - 1

/-- The largest exponent that is read. -/
def maxExponent : Nat := Nat.pow 2 31 - 1

/-- Appends digits to a significand as long as it has room for them; the count of those taken. -/
def appendDigits (m : Nat) : List Nat → Nat × Nat
  | [] => (m, 0)
  | d :: r =>
    if m * 10 + d ≤ maxSignificand then
      let (m, k) := appendDigits (m * 10 + d) r
      (m, k + 1)
    else (m, 0)

/-- The significand of a number, and the power of ten it stands at. -/
def Numeral.significand (n : Numeral) : Nat × Int :=
  let (m, taken) := appendDigits 0 n.whole
  let dropped := n.whole.length - taken
  let (m, places) := appendDigits m (n.fraction.getD [])
  (m, (dropped : Int) - places)

/-- `m · 10 ^ e` as a binary number. Below the smallest power of ten the division is made in two
    steps; below the square of that power nothing is left of a significand of 64 bits. -/
def scaled (m : Nat) (e : Int) : Option Binary64 := do
  let f ← Binary64.ofNat m
  if m = 0 then pure f
  else if 308 < e then none
  else if 0 ≤ e then f.times (← Binary64.powTen e.toNat)
  else if -308 ≤ e then f.dividedBy (← Binary64.powTen (-e).toNat)
  else if -616 ≤ e then
    let g ← f.dividedBy (← Binary64.powTen 308)
    g.dividedBy (← Binary64.powTen (-e - 308).toNat)
  else pure (.zero false)

/-- The value of the digits of an exponent, or the count of digits after which it is too large. -/
def exponentValue (ds : List Nat) : Except Nat Nat :=
  let rec go (e taken : Nat) : List Nat → Except Nat Nat
    | [] => .ok e
    | d :: r =>
      if e * 10 + d ≤ maxExponent then go (e * 10 + d) (taken + 1) r else .error (taken + 1)
  go 0 0 ds

/-- A binary number with the sign of the numeral. -/
def Numeral.signed (n : Numeral) (x : Binary64) : Number := .real { x with negative := n.negative }

/-- The value of a number without fraction and exponent, if it is kept whole. -/
def Numeral.whole? (n : Numeral) : Option Int :=
  let (m, taken) := appendDigits 0 n.whole
  if n.fraction.isSome || n.exponent.isSome || taken < n.whole.length then none
  else if n.negative then
    if 1 ≤ m ∧ m ≤ Nat.pow 2 63 then some (-m) else none
  else some m

/-- The value of a number that ends at offset `n`. -/
def Numeral.value (x : Numeral) (n : Nat) : Except Failure Number :=
  match x.whole? with
  | some k => .ok (.whole k)
  | none =>
    let (m, e) := x.significand
    let finish (e : Int) : Except Failure Number :=
      match scaled m e with
      | some f => .ok (x.signed f)
      | none => faultAt n .numberOutOfRange
    match x.exponent with
    | none => finish e
    | some ex =>
      match exponentValue ex.digits with
      | .ok k => finish (if ex.negative then e - k else e + k)
      | .error taken =>
        if m ≠ 0 ∧ !ex.negative then faultAt (ex.offset + taken) .numberOutOfRange
        else .ok (x.signed (.zero false))

/-- Reads a number behind its sign and takes its value. -/
def readNumber (negative : Bool) (c : Cursor) : Except Failure (Number × Cursor) := do
  let (x, d) ← readNumeral .endOfValue negative c
  let v ← x.value d.offset
  pure (v, d)

/-- Passes over a number that nobody asks for. Its value may be out of range. -/
def skipNumber (c : Cursor) : Except Failure Cursor := do
  let (_, d) ← readNumeral .badNumber false c
  pure d

end ReceiptPrinting.Json
