import Mathlib.Data.List.Nodup
import ReceiptPrinting.Proofs.Layout.Columns

/-!
# What is lost on the way to the printer, and what is not

A text is written in bytes of a code page, and the printer shows the character of each byte. It
shows the text itself, except that a question mark stands for every control character of ASCII and
for every character that the page does not have. Bytes that a page prints lose nothing on the way
back: the text they show is written in the same bytes.

* `Lost`: the characters that a page has no byte for;
* `decode_encodeChar`, `encodeChar_decode`: there and back, and back and there;
* `EncodesPage`, `EncodesPage.byteBy_eq`: an encoder may spell out what it cannot encode in as many
  bytes as it likes; none of them is printed;
* **`encode_faithful`**: what becomes of texts, of bytes, and of texts fitted to columns.
-/

namespace ReceiptPrinting.CodePage

variable (p : CodePage)

/-! ## 1. The upper half of a page -/

/-- The 128 characters of an upper half differ. -/
theorem upper_nodup : p.upper.Nodup := by cases p <;> decide +kernel

/-- None of them is in ASCII, and each is a character. -/
theorem upper_range : ∀ n ∈ p.upper, 0x80 ≤ n ∧ n < 0xD800 := by cases p <;> decide +kernel

theorem toNat_ofNat_of_lt {n : Nat} (h : n < 0xD800) : (Char.ofNat n).toNat = n := by
  have hvalid : n.isValidChar := .inl h
  rw [Char.ofNat, dif_pos hvalid]
  rfl

/-- The character has no byte in the page: it is a control character of ASCII, or neither ASCII nor
    in the upper half. -/
def Lost (c : Char) : Prop :=
  c.toNat < 0x20 ∨ c.toNat = 0x7F ∨ (0x80 ≤ c.toNat ∧ c.toNat ∉ p.upper)

instance (c : Char) : Decidable (p.Lost c) := inferInstanceAs (Decidable (_ ∨ _ ∨ _))

/-- The byte prints something: it is a printed character of ASCII, or in the upper half. -/
def Prints (b : UInt8) : Prop := (0x20 ≤ b.toNat ∧ b.toNat < 0x7F) ∨ 0x80 ≤ b.toNat

section

variable {p} {c : Char} {i : Nat}

/-- A character has no byte, is one of ASCII, or has its place in the upper half. -/
theorem lost_or_ascii_or_upper (p : CodePage) (c : Char) :
    p.Lost c ∨ (0x20 ≤ c.toNat ∧ c.toNat < 0x7F) ∨ ∃ i : Nat, p.upper[i]? = some c.toNat := by
  by_cases hascii : c.toNat < 0x80
  · unfold Lost
    omega
  · by_cases hupper : c.toNat ∈ p.upper
    · exact .inr (.inr (List.mem_iff_getElem?.mp hupper))
    · exact .inl (.inr (.inr ⟨by omega, hupper⟩))

theorem not_lost_of_ascii (hlow : 0x20 ≤ c.toNat) (hhigh : c.toNat < 0x7F) : ¬ p.Lost c := by
  unfold Lost
  omega

theorem not_lost_of_upper (h : p.upper[i]? = some c.toNat) : ¬ p.Lost c := by
  have hmem := List.mem_of_getElem? h
  obtain ⟨hlow, -⟩ := p.upper_range _ hmem
  intro hlost
  rcases hlost with hcontrol | hdelete | ⟨-, hforeign⟩
  · omega
  · omega
  · exact hforeign hmem

theorem encodeChar_of_lost (h : p.Lost c) : p.encodeChar c = substitute := by
  unfold encodeChar
  simp only
  split
  · rfl
  · split
    case isTrue hlow hhigh => exact absurd h (not_lost_of_ascii (by omega) hhigh)
    case isFalse =>
      split
      case h_1 i hi =>
        obtain ⟨hlt, heq, -⟩ := List.findIdx?_eq_some_iff_getElem.mp hi
        rw [beq_iff_eq] at heq
        exact absurd h (not_lost_of_upper (by rw [List.getElem?_eq_getElem hlt, heq]))
      case h_2 => rfl

/-- A character of the upper half is found at its only place. -/
theorem findIdx?_upper (h : p.upper[i]? = some c.toNat) :
    p.upper.findIdx? (· == c.toNat) = some i := by
  obtain ⟨hlt, heq⟩ := List.getElem?_eq_some_iff.mp h
  refine List.findIdx?_eq_some_iff_getElem.mpr ⟨hlt, beq_iff_eq.mpr heq, fun j hj => ?_⟩
  -- an earlier place would hold the same character
  rw [beq_iff_eq, ← heq, p.upper_nodup.getElem_inj_iff]
  omega

theorem encodeChar_of_upper (h : p.upper[i]? = some c.toNat) :
    p.encodeChar c = UInt8.ofNat (0x80 + i) := by
  obtain ⟨hlow, -⟩ := p.upper_range _ (List.mem_of_getElem? h)
  have hascii : ¬ c.toNat < 0x7F := by omega
  have hcontrol : ¬ c.toNat < 0x20 := by omega
  simp only [encodeChar, if_neg hcontrol, if_neg hascii, findIdx?_upper h]

end

/-! ## 2. There and back -/

section

variable {p} {c : Char} {b : UInt8} {i : Nat}

theorem decode_of_ascii (hb : b.toNat < 0x80) : p.decode b = Char.ofNat b.toNat := if_pos hb

theorem decode_of_upper {n : Nat} (h : p.upper[i]? = some n) :
    p.decode (UInt8.ofNat (0x80 + i)) = Char.ofNat n := by
  obtain ⟨hlt, rfl⟩ := List.getElem?_eq_some_iff.mp h
  have hbyte : (UInt8.ofNat (0x80 + i)).toNat = 0x80 + i := by
    rw [upper_length] at hlt
    rw [UInt8.toNat_ofNat']
    omega
  have hplace : 0x80 + i - 0x80 = i := by omega
  rw [decode, hbyte, if_neg (by omega), hplace, List.getD_eq_getElem?_getD, h, Option.getD_some]

/-- **The printer shows a character, or a question mark in its place.** -/
theorem decode_encodeChar (p : CodePage) (c : Char) :
    p.decode (p.encodeChar c) = if p.Lost c then '?' else c := by
  rcases p.lost_or_ascii_or_upper c with hlost | ⟨hlow, hhigh⟩ | ⟨i, hi⟩
  · rw [if_pos hlost, encodeChar_of_lost hlost]
    rfl
  · have hbyte : (UInt8.ofNat c.toNat).toNat = c.toNat := by
      rw [UInt8.toNat_ofNat']
      omega
    rw [if_neg (not_lost_of_ascii hlow hhigh), encodeChar_of_ascii _ hlow hhigh,
      decode_of_ascii (by omega), hbyte, Char.ofNat_toNat]
  · rw [if_neg (not_lost_of_upper hi), encodeChar_of_upper hi, decode_of_upper hi,
      Char.ofNat_toNat]

/-- **A byte that prints something is the byte of what it prints.** -/
theorem encodeChar_decode (hb : Prints b) : p.encodeChar (p.decode b) = b := by
  rcases hb with ⟨hlow, hhigh⟩ | hupper
  · have hchar : (p.decode b).toNat = b.toNat := by
      rw [decode_of_ascii (by omega), toNat_ofNat_of_lt (by omega)]
    rw [encodeChar_of_ascii _ (by omega) (by omega), hchar, UInt8.ofNat_toNat]
  · have hlt : b.toNat - 0x80 < p.upper.length := by
      have := b.toNat_lt
      rw [upper_length]
      omega
    have hplace : p.upper[b.toNat - 0x80]? = some p.upper[b.toNat - 0x80] :=
      List.getElem?_eq_getElem hlt
    have hbyte : UInt8.ofNat (0x80 + (b.toNat - 0x80)) = b := by
      rw [Nat.add_sub_of_le hupper, UInt8.ofNat_toNat]
    have hchar : (p.decode b).toNat = p.upper[b.toNat - 0x80] := by
      obtain ⟨-, hvalid⟩ := p.upper_range _ (List.getElem_mem hlt)
      have hdecode := decode_of_upper hplace
      rw [hbyte] at hdecode
      rw [hdecode, toNat_ofNat_of_lt hvalid]
    rw [← hchar] at hplace
    rw [encodeChar_of_upper hplace, hbyte]

end

/-! ## 3. Encoders that spell characters out -/

/-- An encoder of the page gives the bytes of one character, and says whether it had to replace it.
    What the page has is its one byte, and nothing is replaced; what the page does not have is
    replaced, by whatever bytes. -/
structure EncodesPage (e : Char → Bytes × Bool) : Prop where
  own : ∀ (i : Nat) (c : Char), p.upper[i]? = some c.toNat → e c = ([UInt8.ofNat (0x80 + i)], false)
  foreign : ∀ c : Char, 0x80 ≤ c.toNat → c.toNat ∉ p.upper → (e c).2 = true

/-- The byte of a character, by an encoder: control characters do not reach it, and of what it
    gives, only a single byte that replaces nothing is taken. -/
def byteBy (e : Char → Bytes × Bool) (c : Char) : UInt8 :=
  if c.toNat < 0x20 ∨ c.toNat = 0x7F then substitute
  else if c.toNat < 0x80 then UInt8.ofNat c.toNat
  else
    match e c with
    | ([b], false) => b
    | _ => substitute

/-- The encoder of web pages: what the page does not have is spelt out by its number, as in
    `&#8364;`. -/
def referring (c : Char) : Bytes × Bool :=
  if c.toNat < 0x80 then ([UInt8.ofNat c.toNat], false)
  else
    match p.upper.findIdx? (· == c.toNat) with
    | some i => ([UInt8.ofNat (0x80 + i)], false)
    | none => (ascii ('&' :: '#' :: Nat.toDigits 10 c.toNat ++ [';']), true)

/-- **By every encoder of the page the byte of a character is the same.** What is spelt out leaves a
    question mark and nothing of its spelling. -/
theorem EncodesPage.byteBy_eq {p : CodePage} {e : Char → Bytes × Bool} (h : p.EncodesPage e)
    (c : Char) : byteBy e c = p.encodeChar c := by
  rcases p.lost_or_ascii_or_upper c with hlost | ⟨hlow, hhigh⟩ | ⟨i, hi⟩
  · rw [encodeChar_of_lost hlost, byteBy]
    split
    case isTrue => rfl
    case isFalse hcontrol =>
      obtain ⟨hupper, hforeign⟩ : 0x80 ≤ c.toNat ∧ c.toNat ∉ p.upper := by
        rcases hlost with hlow | hdelete | hforeign
        · exact absurd (.inl hlow) hcontrol
        · exact absurd (.inr hdelete) hcontrol
        · exact hforeign
      rw [if_neg (by omega)]
      split
      case h_1 b hb =>
        -- a byte that replaces nothing would be one of the page
        have hreplaced := h.foreign c hupper hforeign
        rw [hb] at hreplaced
        cases hreplaced
      case h_2 => rfl
  · rw [encodeChar_of_ascii _ hlow hhigh, byteBy, if_neg (by omega), if_pos (by omega)]
  · obtain ⟨hupper, -⟩ := p.upper_range _ (List.mem_of_getElem? hi)
    rw [encodeChar_of_upper hi, byteBy, if_neg (by omega), if_neg (by omega), h.own i c hi]

theorem encodesPage_referring : p.EncodesPage p.referring where
  own i c hi := by
    obtain ⟨hupper, -⟩ := p.upper_range _ (List.mem_of_getElem? hi)
    rw [referring, if_neg (by omega), findIdx?_upper hi]
  foreign c hupper hforeign := by
    have hnone : p.upper.findIdx? (· == c.toNat) = none := by
      refine List.findIdx?_eq_none_iff.mpr fun n hn => ?_
      rw [beq_eq_false_iff_ne]
      intro heq
      exact hforeign (heq ▸ hn)
    rw [referring, if_neg (by omega), hnone]

/-! ## 4. Texts -/

/-- **Texts reach the printer as far as its page goes.** There is one byte for each character, and
    none of them is a control code. What the printer shows is the text, with a question mark for
    each character that has no byte and for no other; whatever an encoder spells such characters out
    as, nothing else is printed for them. Bytes that print something are the bytes of what they
    print. A text fitted to columns has as many bytes as there are columns, and they are the bytes
    of the whole text, filled up or cut. -/
theorem encode_faithful :
    (∀ s : String, (p.encode s).length = s.toList.length ∧
      (∀ b ∈ p.encode s, 0x20 ≤ b.toNat ∧ b.toNat ≠ 0x7F) ∧
      (p.encode s).map p.decode = s.toList.map fun c => if p.Lost c then '?' else c) ∧
    (∀ e, p.EncodesPage e → ∀ s : String, s.toList.map (byteBy e) = p.encode s) ∧
    (∀ bs : Bytes, (∀ b ∈ bs, Prints b) → p.encode (String.ofList (bs.map p.decode)) = bs) ∧
    ∀ (s : String) (w : Nat),
      p.encode (Text.fitLeft s w) = Column.left (p.encode s) w ∧
      p.encode (Text.fitRight s w) = Column.right (p.encode s) w ∧
      (p.encode (Text.fitLeft s w)).length = w ∧ (p.encode (Text.fitRight s w)).length = w := by
  refine ⟨fun s => ⟨p.encode_length s, ?_, ?_⟩, fun e he s => ?_, fun bs hbs => ?_, fun s w => ?_⟩
  · intro b hb
    obtain ⟨c, -, rfl⟩ := List.mem_map.mp hb
    exact p.encodeChar_plain c
  · rw [encode, encodeChars, List.map_map]
    exact List.map_congr_left fun c _ => p.decode_encodeChar c
  · exact List.map_congr_left fun c _ => he.byteBy_eq c
  · rw [encode, String.toList_ofList, encodeChars, List.map_map]
    have hback : bs.map (p.encodeChar ∘ p.decode) = bs.map id :=
      List.map_congr_left fun b hb => encodeChar_decode (hbs b hb)
    rw [hback, List.map_id]
  · exact ⟨p.encode_fitLeft w s, p.encode_fitRight w s,
      by rw [encode_length, Text.fitLeft_length], by rw [encode_length, Text.fitRight_length]⟩

/-- A name from Łódź with a Chinese sign and a line feed in it, by the encoder of web pages. -/
theorem encode_faithful_references :
    central.EncodesPage central.referring ∧
    central.referring '中' = (ascii "&#20013;".toList, true) ∧
    "Łódź 中\n".toList.map (byteBy central.referring) = central.encode "Łódź 中\n" ∧
    central.encode "Łódź 中\n" = [0xA3, 0xF3, 0x64, 0x9F, 0x20, 0x3F, 0x3F] ∧
    (∀ b ∈ [0xA3, 0xF3, 0x64, 0x9F, 0x20, 0x80], Prints b) ∧
    central.encode (String.ofList ([0xA3, 0xF3, 0x64, 0x9F, 0x20, 0x80].map central.decode)) =
      [0xA3, 0xF3, 0x64, 0x9F, 0x20, 0x80] := by
  have hprints : ∀ b ∈ [0xA3, 0xF3, 0x64, 0x9F, 0x20, 0x80], Prints b := by
    unfold Prints
    decide +kernel
  exact ⟨central.encodesPage_referring, by decide +kernel,
    central.encode_faithful.2.1 _ central.encodesPage_referring _, by decide +kernel, hprints,
    central.encode_faithful.2.2.1 _ hprints⟩

end ReceiptPrinting.CodePage
