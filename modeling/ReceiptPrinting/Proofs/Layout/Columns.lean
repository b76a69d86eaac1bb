import ReceiptPrinting.Escpos.Sheet

/-!
# Columns, in bytes

A text is fitted to its columns and then encoded. Each character is one byte, so the same comes of
encoding it first and fitting the bytes: what a printer gets can be told from the encoded texts.

* `Column.left`, `Column.right`, `Column.ends`: bytes fitted to columns;
* `ascii`: the bytes of a text in ASCII, which are the same in every code page;
* **`encodeChars_fitLeft`**, `encodeChars_fitRight`, `encodeChars_endsRow`: fitting a text is
  fitting its bytes.
-/

namespace ReceiptPrinting

namespace Column

/-- Bytes cut to `w` columns, the last of which is a point. -/
def cut (bs : Bytes) : Nat → Bytes
  | 0 => []
  | w + 1 => bs.take w ++ [0x2E]

/-- Bytes at the left of `w` columns: filled up with spaces, or cut. -/
def left (bs : Bytes) (w : Nat) : Bytes :=
  if bs.length ≤ w then bs ++ List.replicate (w - bs.length) 0x20 else cut bs w

/-- Bytes at the right of `w` columns: filled up with spaces, or cut. -/
def right (bs : Bytes) (w : Nat) : Bytes :=
  if bs.length ≤ w then List.replicate (w - bs.length) 0x20 ++ bs else cut bs w

/-- Bytes at both ends of `w` columns: those at the right take the columns they need, those at the
    left what remains. -/
def ends (l r : Bytes) (w : Nat) : Bytes :=
  left l (w - min r.length w) ++ right r (min r.length w)

section

variable {bs : Bytes} {w : Nat}

theorem cut_length (h : w < bs.length) : (cut bs w).length = w := by
  cases w with
  | zero => rfl
  | succ w =>
    have ht : (bs.take w).length = w := List.length_take_of_le (by omega)
    rw [cut, List.length_append, ht]
    rfl

theorem left_length (bs : Bytes) (w : Nat) : (left bs w).length = w := by
  unfold left
  split
  case isTrue h => rw [List.length_append, List.length_replicate]; omega
  case isFalse h => exact cut_length (by omega)

theorem right_length (bs : Bytes) (w : Nat) : (right bs w).length = w := by
  unfold right
  split
  case isTrue h => rw [List.length_append, List.length_replicate]; omega
  case isFalse h => exact cut_length (by omega)

/-- The first byte stays, unless the point takes its place. -/
theorem left_head? {b : UInt8} (hw : 1 < w) (h : bs.head? = some b) :
    (left bs w).head? = some b := by
  unfold left
  split
  · rw [List.head?_append, h, Option.some_or]
  · match w, hw with
    | n + 2, _ => rw [cut, List.head?_append, List.head?_take, if_neg (by omega), h, Option.some_or]

/-- A point stays, or stands for what is cut. -/
theorem point_mem_right (hw : 0 < w) (h : 0x2E ∈ bs) : 0x2E ∈ right bs w := by
  unfold right
  split
  · exact List.mem_append_right _ h
  · match w, hw with
    | n + 1, _ => exact List.mem_append_right _ (List.mem_singleton_self _)

end

end Column

/-- The bytes of a text in ASCII, a byte for a character. -/
def ascii (cs : List Char) : Bytes := cs.map fun c => UInt8.ofNat c.toNat

/-- Every character of the text is one of ASCII that is printed. -/
def Printable (cs : List Char) : Prop := ∀ c ∈ cs, 0x20 ≤ c.toNat ∧ c.toNat < 0x7F

instance (cs : List Char) : Decidable (Printable cs) := List.decidableBAll _ cs

/-- Printed characters are told apart by their bytes. -/
theorem ascii_injective {cs ds : List Char} (hcs : Printable cs) (hds : Printable ds)
    (h : ascii cs = ascii ds) : cs = ds := by
  have hback {es : List Char} (hes : Printable es) :
      (ascii es).map (fun b => Char.ofNat b.toNat) = es := by
    rw [ascii, List.map_map, List.map_congr_left (g := id), List.map_id]
    intro c hc
    have hc : c.toNat < 0x7F := (hes c hc).2
    have hbyte : (UInt8.ofNat c.toNat).toNat = c.toNat :=
      UInt8.toNat_ofNat_of_lt' (by simp only [UInt8.size]; omega)
    rw [Function.comp_apply, hbyte, Char.ofNat_toNat, id]
  rw [← hback hcs, h, hback hds]

namespace CodePage

variable (p : CodePage) (cs : List Char) (w : Nat)

theorem encodeChar_of_ascii {c : Char} (hlow : 0x20 ≤ c.toNat) (hhigh : c.toNat < 0x7F) :
    p.encodeChar c = UInt8.ofNat c.toNat := by
  simp only [encodeChar, if_neg (Nat.not_lt_of_le hlow), if_pos hhigh]

/-- In every code page, what ASCII prints is the byte that ASCII has for it. -/
theorem encodeChars_of_printable (h : Printable cs) : p.encodeChars cs = ascii cs :=
  List.map_congr_left fun c hc => p.encodeChar_of_ascii (h c hc).1 (h c hc).2

theorem encodeChar_point : p.encodeChar '.' = 0x2E := by cases p <;> rfl

theorem encodeChar_space : p.encodeChar ' ' = 0x20 := by cases p <;> rfl

theorem encode_append (a b : String) : p.encode (a ++ b) = p.encode a ++ p.encode b := by
  rw [encode, String.toList_append, encodeChars_append, encode, encode]

theorem encodeChars_spaces (n : Nat) :
    p.encodeChars (Text.spaces n) = List.replicate n 0x20 := by
  rw [encodeChars, Text.spaces, List.map_replicate, encodeChar_space]

theorem encodeChars_cut : p.encodeChars (Text.cut cs w) = Column.cut (p.encodeChars cs) w := by
  cases w with
  | zero => rfl
  | succ w =>
    rw [Text.cut, Column.cut, encodeChars_append, encodeChars, List.map_take]
    exact congrArg ((p.encodeChars cs).take w ++ [·]) p.encodeChar_point

/-- **Fitting a text is fitting its bytes.** -/
theorem encodeChars_fitLeft :
    p.encodeChars (Text.fitLeftChars cs w) = Column.left (p.encodeChars cs) w := by
  rw [Text.fitLeftChars, Column.left, encodeChars_length]
  by_cases h : w < cs.length
  · rw [if_pos h, if_neg (by omega), encodeChars_cut]
  · rw [if_neg h, if_pos (by omega), encodeChars_append, encodeChars_spaces]

theorem encodeChars_fitRight :
    p.encodeChars (Text.fitRightChars cs w) = Column.right (p.encodeChars cs) w := by
  rw [Text.fitRightChars, Column.right, encodeChars_length]
  by_cases h : w < cs.length
  · rw [if_pos h, if_neg (by omega), encodeChars_cut]
  · rw [if_neg h, if_pos (by omega), encodeChars_append, encodeChars_spaces]

theorem encodeChars_endsRow (l r : String) :
    p.encodeChars (Escpos.Sheet.endsRow w l r) = Column.ends (p.encode l) (p.encode r) w := by
  rw [Escpos.Sheet.endsRow, Column.ends, encodeChars_append, encodeChars_fitLeft,
    encodeChars_fitRight, Text.width, encode_length]
  rfl

theorem encode_fitLeft (s : String) : p.encode (Text.fitLeft s w) = Column.left (p.encode s) w := by
  rw [encode, Text.fitLeft, String.toList_ofList, encodeChars_fitLeft, encode]

theorem encode_fitRight (s : String) :
    p.encode (Text.fitRight s w) = Column.right (p.encode s) w := by
  rw [encode, Text.fitRight, String.toList_ofList, encodeChars_fitRight, encode]

end CodePage

end ReceiptPrinting
