import ReceiptPrinting.Text.Blank
import ReceiptPrinting.CodePage.Table

/-!
# Code pages: which byte prints which character

A receipt printer takes text in a code page of one byte for each character. Printable ASCII is the
same in all of them; the bytes from `0x80` up are the page's own (`CodePage.upper`).

* `encode` writes a text as bytes, one for each character (`encode_length`). A character outside the
  page is written as a question mark, and so is a control character: no text that is printed can
  reach the printer as a command or a line feed (`encodeChar_plain`).
* `decode` is the character a byte prints.
-/

namespace ReceiptPrinting

/-- A character table of the printer. -/
inductive CodePage where
  /-- Western European, Windows 1252. -/
  | western
  /-- Cyrillic, DOS 866. -/
  | dosCyrillic
  /-- Central European, Windows 1250. -/
  | central
  /-- Cyrillic, Windows 1251. -/
  | cyrillic
deriving DecidableEq, Repr, Inhabited

namespace CodePage

/-! ## 1. Names and numbers -/

/-- The page a printer is set to unless told otherwise. -/
def standard : CodePage := western

/-- The number a printer knows the page by. -/
def table : CodePage → UInt8
  | western => 16
  | dosCyrillic => 17
  | central => 45
  | cyrillic => 46

/-- The page's name. -/
def name : CodePage → String
  | western => "wpc1252"
  | dosCyrillic => "pc866"
  | central => "wpc1250"
  | cyrillic => "wpc1251"

/-- The page a word stands for: its name, or one of the two other names in use for it. -/
def ofKeyword? : String → Option CodePage
  | "wpc1252" | "cp1252" | "windows-1252" => some western
  | "pc866" | "cp866" | "ibm866" => some dosCyrillic
  | "wpc1250" | "cp1250" | "windows-1250" => some central
  | "wpc1251" | "cp1251" | "windows-1251" => some cyrillic
  | _ => none

/-- The page named by `s`; blanks around the name and the case of its letters do not matter. -/
def ofName? (s : String) : Option CodePage := ofKeyword? (Text.keyword s)

/-- What is said of a name that no page has. -/
def unknownMessage (s : String) : String := "Unknown code page: " ++ Text.keyword s

/-! ## 2. Characters and bytes -/

/-- The characters of the bytes from `0x80` up. -/
def upper : CodePage → List Nat
  | western => Table.western
  | dosCyrillic => Table.dosCyrillic
  | central => Table.central
  | cyrillic => Table.cyrillic

/-- The byte written for a character that cannot be printed: a question mark. -/
def substitute : UInt8 := 0x3F

/-- The byte that prints `c`. -/
def encodeChar (p : CodePage) (c : Char) : UInt8 :=
  let n := c.toNat
  if n < 0x20 then substitute
  else if n < 0x7F then UInt8.ofNat n
  else
    match p.upper.findIdx? (· == n) with
    | some i => UInt8.ofNat (0x80 + i)
    | none => substitute

/-- The bytes that print `cs`. -/
def encodeChars (p : CodePage) (cs : List Char) : List UInt8 := cs.map p.encodeChar

/-- The bytes that print `s`. -/
def encode (p : CodePage) (s : String) : List UInt8 := p.encodeChars s.toList

/-- The character that `b` prints. -/
def decode (p : CodePage) (b : UInt8) : Char :=
  if b.toNat < 0x80 then Char.ofNat b.toNat
  else Char.ofNat (p.upper.getD (b.toNat - 0x80) 0)

@[simp] theorem encodeChars_length (p : CodePage) (cs : List Char) :
    (p.encodeChars cs).length = cs.length := by simp [encodeChars]

@[simp] theorem encode_length (p : CodePage) (s : String) :
    (p.encode s).length = s.toList.length := by simp [encode]

@[simp] theorem encodeChars_append (p : CodePage) (a b : List Char) :
    p.encodeChars (a ++ b) = p.encodeChars a ++ p.encodeChars b := by simp [encodeChars]

theorem upper_length (p : CodePage) : p.upper.length = 128 := by cases p <;> rfl

/-- **A printed character is never a control code**: its byte is at least `0x20` and not `0x7F`. -/
theorem encodeChar_plain (p : CodePage) (c : Char) :
    0x20 ≤ (p.encodeChar c).toNat ∧ (p.encodeChar c).toNat ≠ 0x7F := by
  unfold encodeChar
  simp only
  split
  · decide
  · split
    · rename_i h1 h2
      have : (UInt8.ofNat c.toNat).toNat = c.toNat := by
        rw [UInt8.toNat_ofNat']; omega
      omega
    · split
      · rename_i i hi
        have hlt : i < 128 := by
          have h := List.findIdx?_eq_some_iff_findIdx_eq.1 hi
          rw [upper_length] at h
          exact h.1
        have : (UInt8.ofNat (0x80 + i)).toNat = 0x80 + i := by
          rw [UInt8.toNat_ofNat']; omega
        omega
      · decide

end CodePage

end ReceiptPrinting
