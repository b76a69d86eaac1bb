import ReceiptPrinting.Number.Binary64
import ReceiptPrinting.Number.Natural

/-!
# Decimal amounts

An amount is `± mantissa / 10 ^ scale` with a mantissa of 96 bits and at most 28 decimal places. The
scale is kept as it was written: `7` and `7.00` are two amounts of one value. A zero that is written
has no sign; one that is left of a negative amount when places are given up keeps the sign
(`scaleDown?`).

* `text` writes all places; `money` writes the nearest hundredth, halves away from zero;
* `parse?` reads a text, with or without an exponent;
* `toBinary64` is the binary number an amount is sent as.
-/

namespace ReceiptPrinting

/-- An amount. -/
structure Decimal where
  negative : Bool
  mantissa : Nat
  scale : Nat
  mantissa_lt : mantissa < Nat.pow 2 96
  scale_le : scale ≤ 28
deriving DecidableEq, Repr

namespace Decimal

open Natural (digit?)

/-- The largest count of decimal places. -/
def maxScale : Nat := 28

/-- The first mantissa that does not fit. -/
def limit : Nat := Nat.pow 2 96

/-- `± mantissa / 10 ^ scale`, if it fits; a zero keeps its sign. -/
def signed? (negative : Bool) (mantissa scale : Nat) : Option Decimal :=
  if h : mantissa < Nat.pow 2 96 ∧ scale ≤ 28 then some ⟨negative, mantissa, scale, h.1, h.2⟩
  else none

/-- `± mantissa / 10 ^ scale`, if it fits; a zero loses its sign. -/
def ofParts? (negative : Bool) (mantissa scale : Nat) : Option Decimal :=
  signed? (negative && mantissa != 0) mantissa scale

/-- Nothing, without decimal places. -/
def zero : Decimal := ⟨false, 0, 0, by decide, by decide⟩

instance : Inhabited Decimal := ⟨zero⟩

/-- A whole amount, if it fits. -/
def ofInt? (n : Int) : Option Decimal := ofParts? (n < 0) n.natAbs 0

/-- More than nothing? -/
def isPositive (d : Decimal) : Bool := !d.negative && d.mantissa != 0

/-! ## 1. Text -/

/-- The sign, as it is written. -/
def signText (negative : Bool) : List Char := if negative then ['-'] else []

/-- `n / 10 ^ places` with all its places. -/
def fixedText (places n : Nat) : List Char :=
  Nat.toDigits 10 (n / Nat.pow 10 places) ++
    if places = 0 then [] else '.' :: Natural.padded places (n % Nat.pow 10 places)

/-- An amount with all its places. -/
def text (d : Decimal) : String :=
  String.ofList (signText d.negative ++ fixedText d.scale d.mantissa)

/-- The size of an amount in hundredths, the nearest one, halves up. -/
def hundredths (d : Decimal) : Nat :=
  if d.scale ≤ 2 then d.mantissa * Nat.pow 10 (2 - d.scale)
  else Ratio.roundHalfUp ⟨d.mantissa, Nat.pow 10 (d.scale - 2)⟩

/-- An amount as it is printed: the nearest hundredth, halves away from zero, with two places. What
    rounds to nothing has no sign, unless it was nothing before. -/
def money (d : Decimal) : String :=
  let h := d.hundredths
  String.ofList (signText (d.negative && (h != 0 || d.mantissa == 0)) ++ fixedText 2 h)

/-! ## 2. Reading

A text is a sign, digits with at most one point among them, and `_` between and behind the digits.
Digits are taken as long as the mantissa has room and the places do not exceed 28. The first digit
left over rounds the last place: from 5 on it rounds up. Whole digits that do not fit have no
amount. -/

/-- May `c` stand behind the last digit that is taken? -/
def isTail (c : Char) : Bool := (digit? c).isSome || c == '_'

/-- The mantissa and places after rounding by `d`, the first of the digits left over. If the
    mantissa has no room for the round-up, one place is given up. -/
def roundBy (m s d : Nat) : Option (Nat × Nat) :=
  if d < 5 then some (m, s)
  else if m + 1 < limit then some (m + 1, s)
  else if s = 0 then none
  else some ((m + 1 + 4) / 10, s - 1)

/-- What a mantissa without its last digit must be below for the whole to be read in 64 bits,
    whatever that digit is; 255 are kept in reserve. -/
def shortLimit : Nat := (Nat.pow 2 64 - 1) / 10 - 255

/-- Is this a mantissa that was read in 64 bits? -/
def isShort (m : Nat) : Bool := m / 10 < shortLimit

/-- The end of a text whose places are used up: nothing but digits and `_` may follow. -/
def endWith (r : List Char) (result : Option (Nat × Nat)) : Option (Nat × Nat) :=
  if r.all isTail then result else none

/-- Reads the digits behind the mantissa `m` with `s` places. `point`: the point has been read;
    `seen`: a digit has been read. Behind the last place a `_` is passed over as it is elsewhere,
    but not in a short mantissa: there the digits that count end with it, and nothing is rounded. -/
def scan (point seen : Bool) (m s : Nat) : List Char → Option (Nat × Nat)
  | [] => if seen then some (m, s) else none
  | c :: r =>
    match digit? c with
    | some d =>
      if point && (s == maxScale || limit ≤ m * 10 + d) then endWith r (roundBy m s d)
      else if limit ≤ m * 10 + d then none
      else scan point true (m * 10 + d) (if point then s + 1 else s) r
    | none =>
      if c = '.' && !point then scan true seen m s r
      else if c = '_' && seen then
        if point && s == maxScale && isShort m then endWith r (some (m, s))
        else scan point seen m s r
      else none

/-- Reads a text without an exponent. -/
def ofFixed? (cs : List Char) : Option Decimal :=
  let (negative, body) := match cs with
    | '-' :: r => (true, r)
    | '+' :: r => (false, r)
    | r => (false, r)
  (scan false false 0 0 body).bind fun (m, s) => ofParts? negative m s

/-- Is this the mark before an exponent? -/
def isMark (c : Char) : Bool := c == 'e' || c == 'E'

/-- `d` with its point moved to the left by at most 28 places. Of the places that would then be more
    than 28 the last are given up, and the first of these rounds, halves up. What is rounded to
    nothing keeps its sign. -/
def scaleDown? (d : Decimal) (k : Nat) : Option Decimal :=
  if maxScale < k then none
  else
    let excess := d.scale + k - maxScale
    signed? d.negative (Ratio.roundHalfUp ⟨d.mantissa, Nat.pow 10 excess⟩) (d.scale + k - excess)

/-- `d` with its point moved to the right. Where that takes up all places, zeros are added; no more
    than 28 are. -/
def scaleUp? (d : Decimal) (k : Nat) : Option Decimal :=
  if k ≤ d.scale then ofParts? d.negative d.mantissa (d.scale - k)
  else if k ≤ maxScale then ofParts? d.negative (d.mantissa * Nat.pow 10 (k - d.scale)) 0
  else none

/-- Reads a text with an exponent. -/
def ofScientific? (cs : List Char) : Option Decimal :=
  let base := cs.takeWhile (!isMark ·)
  match cs.dropWhile (!isMark ·) with
  | [] => none
  | _ :: exponent => (ofFixed? base).bind fun d =>
    match exponent with
    | '-' :: r => (Natural.read? (Nat.pow 2 32) r).bind fun k => d.scaleDown? k
    | r => (Natural.read? (Nat.pow 2 32) r).bind fun k => d.scaleUp? k

/-- Reads an amount. -/
def parseChars? (cs : List Char) : Option Decimal := (ofFixed? cs).or (ofScientific? cs)

/-- Reads an amount. -/
def parse? (s : String) : Option Decimal := parseChars? s.toList

/-! ## 3. The binary number an amount is sent as -/

/-- An amount as a binary number. A whole amount is rounded once. Otherwise whole part and fraction
    are rounded on their own and added, and what the addition adds beyond the places of the amount
    is rounded away again. -/
def toBinary64 (d : Decimal) : Binary64 :=
  let size : Option Binary64 :=
    if d.scale = 0 then Binary64.ofNat d.mantissa
    else do
      let unit := Nat.pow 10 d.scale
      let whole ← Binary64.ofNat (d.mantissa / unit)
      let part ← Binary64.ofNat (d.mantissa % unit)
      let unitRounded ← Binary64.ofNat unit
      let fraction ← part.dividedBy unitRounded
      if fraction.isZero then pure whole
      else
        let sum ← whole.plus fraction
        let scaled ← sum.times unitRounded
        let rounded ← scaled.roundHalfAway
        rounded.dividedBy unitRounded
  { size.getD (.zero false) with negative := d.negative }

end Decimal

end ReceiptPrinting
