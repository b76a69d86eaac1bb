import ReceiptPrinting.Number.Natural
import ReceiptPrinting.Text.Blank

/-!
# Numbers are read from their digits

* `readDigits?_eq`: what digits are read as;
* `Written`: the texts of numbers;
* **`read?_eq_some_iff`**: a text is read exactly if it is that of a number below the bound; of
  words, `read16?_eq_some_iff` and `read64?_eq_some_iff` say the same.
-/

namespace ReceiptPrinting.Natural

/-- The digits of ASCII. -/
theorem toNat_of_isDigit {c : Char} (h : c.isDigit = true) : 0x30 ≤ c.toNat ∧ c.toNat ≤ 0x39 := by
  simp only [Char.isDigit, Bool.and_eq_true, decide_eq_true_eq] at h
  have hlow : '0'.toNat ≤ c.toNat := h.1
  have hhigh : c.toNat ≤ '9'.toNat := h.2
  exact ⟨hlow, hhigh⟩

theorem isBlank_of_isDigit {c : Char} (h : c.isDigit = true) : Text.isBlank c = false := by
  have hrange := toNat_of_isDigit h
  simp only [Text.isBlank, Bool.or_eq_false_iff, Bool.and_eq_false_iff, decide_eq_false_iff_not,
    beq_eq_false_iff_ne]
  omega

theorem digit?_of_isDigit {c : Char} (h : c.isDigit = true) :
    digit? c = some (c.toNat - '0'.toNat) := by
  have hrange : '0' ≤ c ∧ c ≤ '9' := by
    simp only [Char.isDigit, Bool.and_eq_true, decide_eq_true_eq] at h
    exact h
  rw [digit?, if_pos hrange]

theorem isDigit_toDigits (n : Nat) : ∀ c ∈ Nat.toDigits 10 n, c.isDigit = true :=
  fun _ hc => Nat.isDigit_of_mem_toDigits (by decide) (by decide) hc

/-- Different numbers have different digits. -/
theorem toDigits_injective {n m : Nat} (h : Nat.toDigits 10 n = Nat.toDigits 10 m) : n = m :=
  calc
    n = Nat.ofDigitChars 10 (Nat.toDigits 10 n) 0 := Nat.ofDigitChars_ten_toDigits.symm
    _ = Nat.ofDigitChars 10 (Nat.toDigits 10 m) 0 := by rw [h]
    _ = m := Nat.ofDigitChars_ten_toDigits

theorem readDigits?_eq {cs : List Char} (h : ∀ c ∈ cs, c.isDigit = true) (n : Nat) :
    readDigits? n cs = some (Nat.ofDigitChars 10 cs n) := by
  induction cs generalizing n with
  | nil => rfl
  | cons c cs ih =>
    have hc : digit? c = some (c.toNat - '0'.toNat) := digit?_of_isDigit (h c (by simp))
    rw [readDigits?, hc, Option.bind_some, ih fun d hd => h d (by simp [hd]),
      Nat.ofDigitChars_cons, Nat.mul_comm]

/-! ## Numbers as they are written -/

/-- `n` in decimal digits, at least one of them, with or without a plus sign before them. -/
inductive Written : List Char → Nat → Prop where
  | bare {ds : List Char} (ne_nil : ds ≠ []) (digits : ∀ c ∈ ds, c.isDigit = true) :
    Written ds (Nat.ofDigitChars 10 ds 0)
  | signed {ds : List Char} (ne_nil : ds ≠ []) (digits : ∀ c ∈ ds, c.isDigit = true) :
    Written ('+' :: ds) (Nat.ofDigitChars 10 ds 0)

theorem digit?_isSome {c : Char} : (digit? c).isSome = c.isDigit := by
  by_cases h : c.isDigit = true
  · rw [digit?_of_isDigit h, h, Option.isSome_some]
  · have hrange : ¬ ('0' ≤ c ∧ c ≤ '9') := by
      intro hc
      refine h ?_
      simp only [Char.isDigit, Bool.and_eq_true, decide_eq_true_eq]
      exact hc
    rw [digit?, if_neg hrange, Bool.eq_false_iff.mpr h, Option.isSome_none]

/-- Nothing but digits is read as digits. -/
theorem isDigit_of_readDigits? {cs : List Char} {n m : Nat} (h : readDigits? n cs = some m) :
    ∀ c ∈ cs, c.isDigit = true := by
  induction cs generalizing n with
  | nil => exact fun c hc => absurd hc List.not_mem_nil
  | cons c cs ih =>
    obtain ⟨d, hd, hrest⟩ := Option.bind_eq_some_iff.mp h
    have hc : c.isDigit = true := by rw [← digit?_isSome, hd, Option.isSome_some]
    exact List.forall_mem_cons.mpr ⟨hc, ih hrest⟩

section

variable {bound : Nat} {cs ds : List Char}

theorem unsigned_of_isDigit (digits : ∀ c ∈ ds, c.isDigit = true) : unsigned ds = ds := by
  unfold unsigned
  split
  · exact absurd (digits '+' List.mem_cons_self) (by decide)
  · rfl

/-- Behind its sign a number is digits, and it is below the bound. -/
theorem read?_eq_some_iff_unsigned {n : Fin bound} :
    read? bound cs = some n ↔ unsigned cs ≠ [] ∧ (∀ c ∈ unsigned cs, c.isDigit = true) ∧
      Nat.ofDigitChars 10 (unsigned cs) 0 = n := by
  unfold read?
  split
  case h_1 hnil => simp [hnil]
  case h_2 hne =>
    constructor
    · intro h
      obtain ⟨m, hm, hbound⟩ := Option.bind_eq_some_iff.mp h
      have hdigits := isDigit_of_readDigits? hm
      rw [readDigits?_eq hdigits, Option.some_inj] at hm
      by_cases hlt : m < bound
      · rw [dif_pos hlt, Option.some_inj] at hbound
        exact ⟨hne, hdigits, by rw [hm, ← hbound]⟩
      · rw [dif_neg hlt] at hbound
        cases hbound
    · intro ⟨_, hdigits, hvalue⟩
      rw [readDigits?_eq hdigits, hvalue, Option.bind_some, dif_pos n.isLt]

theorem eq_unsigned_or (cs : List Char) : cs = unsigned cs ∨ cs = '+' :: unsigned cs := by
  unfold unsigned
  split
  · exact .inr rfl
  · exact .inl rfl

/-- **A text is read exactly if it is a number below the bound**, and as that number. -/
theorem read?_eq_some_iff {n : Fin bound} : read? bound cs = some n ↔ Written cs n := by
  rw [read?_eq_some_iff_unsigned]
  constructor
  · intro ⟨hne, hdigits, hvalue⟩
    rw [← hvalue]
    rcases eq_unsigned_or cs with hcs | hcs
    · have hbare := Written.bare hne hdigits
      rwa [← hcs] at hbare ⊢
    · have hsigned := Written.signed hne hdigits
      rwa [← hcs] at hsigned
  · intro h
    generalize hn : n.val = m at h
    cases h with
    | bare ne_nil digits =>
      rw [unsigned_of_isDigit digits]
      exact ⟨ne_nil, digits, rfl⟩
    | signed ne_nil digits => exact ⟨ne_nil, digits, rfl⟩

/-- So it is with what numbers below the bound stand for. -/
theorem map_read?_eq_some_iff {α : Type} {f : Fin bound → α} (hf : f.Injective) {n : Fin bound} :
    (read? bound cs).map f = some (f n) ↔ Written cs n := by
  rw [← Option.map_some, (Option.map_injective hf).eq_iff, read?_eq_some_iff]

theorem read16?_eq_some_iff {w : UInt16} : read16? cs = some w ↔ Written cs w.toNat :=
  map_read?_eq_some_iff (f := UInt16.ofFin) (n := w.toFin) fun _ _ => congrArg UInt16.toFin

theorem read64?_eq_some_iff {w : UInt64} : read64? cs = some w ↔ Written cs w.toNat :=
  map_read?_eq_some_iff (f := UInt64.ofFin) (n := w.toFin) fun _ _ => congrArg UInt64.toFin

/-- A number is written in its digits. -/
theorem written_toDigits (n : Nat) : Written (Nat.toDigits 10 n) n := by
  have h := Written.bare (List.ne_nil_of_length_pos Nat.length_toDigits_pos) (isDigit_toDigits n)
  rwa [Nat.ofDigitChars_ten_toDigits] at h

/-- A word is read from its digits. -/
theorem read16?_toDigits (w : UInt16) : read16? (Nat.toDigits 10 w.toNat) = some w :=
  read16?_eq_some_iff.mpr (written_toDigits w.toNat)

end

end ReceiptPrinting.Natural
