/-!
# Binary floating-point numbers of 64 bits, exactly

A finite number of this format is `± significand · 2 ^ exponent` with a significand below `2 ^ 53`.
It is held as just that, in natural numbers and integers, so that rounding is an operation on
fractions and every result is the exact one rounded once, to nearest, ties to even.

* `ofRatio` rounds a fraction; a fraction beyond the largest number has no rounding.
* `times`, `dividedBy`, `plus` are the operations of the format: the exact result, rounded.
* `roundHalfAway` is the nearest whole number, halves away from zero.
-/

namespace ReceiptPrinting

/-- A finite number: `± significand · 2 ^ exponent`, with the exponent as small as it goes, so that
    each number but zero is written in one way. -/
structure Binary64 where
  negative : Bool
  significand : Nat
  exponent : Int
deriving DecidableEq, Repr, Inhabited

/-- A fraction of natural numbers. -/
structure Ratio where
  num : Nat
  den : Nat
deriving DecidableEq, Repr

namespace Ratio

/-- `num / den · 2 ^ e`. -/
def shift (r : Ratio) (e : Int) : Ratio :=
  if 0 ≤ e then ⟨r.num * Nat.pow 2 e.toNat, r.den⟩
  else ⟨r.num, r.den * Nat.pow 2 (-e).toNat⟩

/-- `num / den · 10 ^ e`. -/
def shiftTen (r : Ratio) (e : Int) : Ratio :=
  if 0 ≤ e then ⟨r.num * Nat.pow 10 e.toNat, r.den⟩
  else ⟨r.num, r.den * Nat.pow 10 (-e).toNat⟩

/-- The nearest whole number; of two that are as near, the even one. -/
def roundHalfEven (r : Ratio) : Nat :=
  let q := r.num / r.den
  let d := 2 * (r.num % r.den)
  if d < r.den then q
  else if d > r.den then q + 1
  else if q % 2 = 0 then q else q + 1

/-- The nearest whole number; of two that are as near, the larger one. -/
def roundHalfUp (r : Ratio) : Nat := (2 * r.num + r.den) / (2 * r.den)

end Ratio

namespace Binary64

/-- Zero with a sign. -/
def zero (negative : Bool) : Binary64 := ⟨negative, 0, 0⟩

/-- The smallest exponent of the format. -/
def leastExponent : Int := -1074

/-- The largest exponent of the format. -/
def greatestExponent : Int := 971

/-- The exponent at which a positive fraction has 53 significant binary digits, or the smallest one
    of the format if it has fewer there. -/
def exponentFor (r : Ratio) : Int :=
  let guess : Int := (Nat.log2 r.num : Int) - Nat.log2 r.den - 52
  let s := r.shift (-guess)
  let e := if s.num < s.den * Nat.pow 2 52 then guess - 1 else guess
  max e leastExponent

/-- The number nearest to `± num / den`, ties to even. There is none beyond the largest number. -/
def ofRatio (negative : Bool) (r : Ratio) : Option Binary64 :=
  if r.num = 0 then some (zero negative) else
    let e := exponentFor r
    let m := (r.shift (-e)).roundHalfEven
    let (m, e) := if m = Nat.pow 2 53 then (Nat.pow 2 52, e + 1) else (m, e)
    if greatestExponent < e then none
    else if m = 0 then some (zero negative)
    else some ⟨negative, m, e⟩

/-- The size of a number, as a fraction. -/
def ratio (x : Binary64) : Ratio := Ratio.shift ⟨x.significand, 1⟩ x.exponent

/-- Is this one of the two zeros? -/
def isZero (x : Binary64) : Bool := x.significand == 0

/-- The number nearest to a natural number. -/
def ofNat (n : Nat) : Option Binary64 := ofRatio false ⟨n, 1⟩

/-- The number nearest to a power of ten. -/
def powTen (k : Nat) : Option Binary64 := ofNat (Nat.pow 10 k)

/-- The rounded product. -/
def times (x y : Binary64) : Option Binary64 :=
  let a := x.ratio
  let b := y.ratio
  ofRatio (x.negative != y.negative) ⟨a.num * b.num, a.den * b.den⟩

/-- The rounded quotient by a number other than zero. -/
def dividedBy (x y : Binary64) : Option Binary64 :=
  let a := x.ratio
  let b := y.ratio
  ofRatio (x.negative != y.negative) ⟨a.num * b.den, a.den * b.num⟩

/-- The rounded sum of two numbers that are not negative. -/
def plus (x y : Binary64) : Option Binary64 :=
  let a := x.ratio
  let b := y.ratio
  ofRatio false ⟨a.num * b.den + b.num * a.den, a.den * b.den⟩

/-- The nearest whole number, halves away from zero. -/
def roundHalfAway (x : Binary64) : Option Binary64 := ofRatio x.negative ⟨x.ratio.roundHalfUp, 1⟩

end Binary64

end ReceiptPrinting
