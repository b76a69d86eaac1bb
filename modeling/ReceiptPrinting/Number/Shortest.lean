import ReceiptPrinting.Number.Binary64

/-!
# The shortest decimal text of a binary number

A binary number is written with the fewest decimal digits that read back as the same number, and
among those with the digits nearest to it. The numbers that read back as `x` are those between the
midpoints to its two neighbours, the midpoints themselves included if the significand of `x` is
even.

For each count of digits the two points of the decimal grid next to `x` are tried; if any point of
that grid reads back, one of these two does. Seventeen digits always suffice.

Two spellings of the digits are in use. They differ as well in what they do with two texts that are
as short and as near as each other (`Tie`):

* `text` writes small and large numbers with an exponent, whole ones with `.0`, and takes the even
  digit;
* `plainText` writes all digits out and never an exponent, whole numbers without a point, and takes
  the larger digit.
-/

namespace ReceiptPrinting.Binary64

/-- Decimal digits `d₁ d₂ … dₙ`, most significant first, read as `d₁.d₂…dₙ · 10 ^ exponent`. -/
structure Digits where
  digits : List Char
  exponent : Int
deriving DecidableEq, Repr

/-! ## 1. The digits -/

/-- `a ≤ b` for fractions, or `a < b` if the end does not count. -/
def within (closed : Bool) (a b : Ratio) : Bool :=
  if closed then a.num * b.den ≤ b.num * a.den else a.num * b.den < b.num * a.den

/-- The midpoint below a number. It is nearer where the significand is the first of its exponent:
    the numbers below are twice as close there. -/
def lowerMidpoint (x : Binary64) : Ratio :=
  if x.significand = Nat.pow 2 52 ∧ leastExponent < x.exponent then
    Ratio.shift ⟨4 * x.significand - 1, 4⟩ x.exponent
  else Ratio.shift ⟨2 * x.significand - 1, 2⟩ x.exponent

/-- The midpoint above a number. -/
def upperMidpoint (x : Binary64) : Ratio := Ratio.shift ⟨2 * x.significand + 1, 2⟩ x.exponent

/-- Does `r` read back as `x`? -/
def readsBack (x : Binary64) (r : Ratio) : Bool :=
  let even := x.significand % 2 == 0
  within even x.lowerMidpoint r && within even r x.upperMidpoint

/-- The place of the first decimal digit: the `p` with `10 ^ p ≤ r < 10 ^ (p + 1)`. -/
def decimalExponent (r : Ratio) : Int :=
  let guess : Int := (Nat.toDigits 10 r.num).length - (Nat.toDigits 10 r.den).length
  let s := r.shiftTen (-guess)
  if s.num < s.den then guess - 1 else guess

/-- Which of two grid points is taken that are as near as each other. -/
inductive Tie where
  | even
  | up
deriving DecidableEq, Repr

/-- The grid point nearest to a fraction, in units of the grid. -/
def Tie.round : Tie → Ratio → Nat
  | even, r => r.roundHalfEven
  | up, r => r.roundHalfUp

/-- Of the two grid points next to `r` on the grid `10 ^ q`, the one that reads back as `x`; if both
    do, the nearer. -/
def onGrid (tie : Tie) (x : Binary64) (r : Ratio) (q : Int) : Option Nat :=
  let s := r.shiftTen (-q)
  let down := s.num / s.den
  let point (n : Nat) : Ratio := Ratio.shiftTen ⟨n, 1⟩ q
  match 0 < down && readsBack x (point down), readsBack x (point (down + 1)) with
  | true, true => some (tie.round s)
  | true, false => some down
  | false, true => some (down + 1)
  | false, false => none

/-- The first count of digits, from `n` on, whose grid has a point that reads back. -/
def search (tie : Tie) (x : Binary64) (r : Ratio) (p : Int) : (tries n : Nat) → Nat × Int
  | 0, _ => (0, 0)
  | tries + 1, n =>
    let q := p - n
    match onGrid tie x r q with
    | some d => (d, q)
    | none => search tie x r p tries (n + 1)

/-- The shortest digits of a number other than zero. -/
def digits (tie : Tie) (x : Binary64) : Digits :=
  let r := x.ratio
  let (d, q) := search tie x r (decimalExponent r) 17 0
  let ds := Nat.toDigits 10 d
  let kept := (ds.reverse.dropWhile (· == '0')).reverse
  ⟨kept, q + ds.length - 1⟩

/-! ## 2. The spellings -/

/-- `n` zeros. -/
def zeros (n : Nat) : List Char := List.replicate n '0'

/-- The digits with the point in its place: `whole` before the point and `fraction` behind it. -/
def Digits.split (d : Digits) : List Char × List Char :=
  if d.exponent < 0 then (['0'], zeros (-d.exponent - 1).toNat ++ d.digits)
  else
    let n := d.exponent.toNat + 1
    (d.digits.take n ++ zeros (n - d.digits.length), d.digits.drop n)

/-- The digits written with an exponent: `d.ddde+x`. -/
def Digits.scientific (d : Digits) : List Char :=
  let mantissa := match d.digits with
    | [] => ['0']
    | [c] => [c]
    | c :: cs => c :: '.' :: cs
  let sign := if d.exponent < 0 then '-' else '+'
  mantissa ++ ['e', sign] ++ Nat.toDigits 10 d.exponent.natAbs

/-- The sign of a number, as it is written. -/
def signText (x : Binary64) : List Char := if x.negative then ['-'] else []

/-- The exponents that `text` writes out without one: from `0.00001` to below `10 ^ 16`. -/
def positional (e : Int) : Bool := -5 ≤ e && e < 16

/-- The shortest text, with an exponent for small and large numbers and `.0` for whole ones. -/
def text (x : Binary64) : List Char :=
  if x.isZero then x.signText ++ ['0', '.', '0'] else
    let d := x.digits .even
    if positional d.exponent then
      let (whole, fraction) := d.split
      x.signText ++ whole ++ '.' :: (if fraction.isEmpty then ['0'] else fraction)
    else x.signText ++ d.scientific

/-- The shortest text with all digits written out. -/
def plainText (x : Binary64) : List Char :=
  if x.isZero then x.signText ++ ['0'] else
    let (whole, fraction) := (x.digits .up).split
    x.signText ++ whole ++ (if fraction.isEmpty then [] else '.' :: fraction)

end ReceiptPrinting.Binary64
