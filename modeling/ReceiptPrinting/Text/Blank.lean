/-!
# Blank characters, trimming, and ASCII lower case

Texts that a client or the environment supplies are read with their blank ends dropped. Blank is
the Unicode property `White_Space`: 25 characters, the ASCII blanks among them.

* `trim` drops blanks at both ends and nothing between;
* `printable` is the reading of an optional text: a text of blanks alone counts as absent;
* `lower` maps `A`..`Z` and no other character, so that names are matched without regard to ASCII
  case.
-/

namespace ReceiptPrinting.Text

/-- A character with the Unicode property `White_Space`. -/
def isBlank (c : Char) : Bool :=
  let n := c.toNat
  (9 ≤ n && n ≤ 13) || n == 32 || n == 0x85 || n == 0xA0 || n == 0x1680 ||
    (0x2000 ≤ n && n ≤ 0x200A) || n == 0x2028 || n == 0x2029 || n == 0x202F ||
    n == 0x205F || n == 0x3000

/-! ## 1. Trimming -/

/-- `cs` without the blanks it starts with. -/
def trimStart (cs : List Char) : List Char := cs.dropWhile isBlank

/-- `cs` without the blanks it ends with. -/
def trimEnd (cs : List Char) : List Char := (cs.reverse.dropWhile isBlank).reverse

/-- `s` without the blanks it starts or ends with. -/
def trim (s : String) : String := String.ofList (trimEnd (trimStart s.toList))

/-- A text worth printing: trimmed, and absent if nothing but blanks was there. -/
def printable (s : String) : Option String :=
  let t := trim s
  if t.isEmpty then none else some t

/-! ## 2. Case -/

/-- A capital letter of ASCII as the small one; every other character as it is. -/
def lowerChar (c : Char) : Char :=
  if 'A' ≤ c ∧ c ≤ 'Z' then Char.ofNat (c.toNat + 32) else c

/-- `s` with the capital letters of ASCII made small. -/
def lower (s : String) : String := String.ofList (s.toList.map lowerChar)

/-- The word a name is matched by: trimmed, and small as far as ASCII goes. -/
def keyword (s : String) : String := lower (trim s)

end ReceiptPrinting.Text
