import ReceiptPrinting.Json.Head
import ReceiptPrinting.Proofs.Json.Strings

/-!
# Whole numbers are read as they are written

A whole number of 64 bits is written as its decimal digits, with a minus sign if it is negative. It
is read as the same number, provided that what follows it cannot belong to a number.

* `Delimited`: what may stand behind a value in a compact text;
* `appendDigits_map`, `wholePart_toDigits`: the digits of a number have its value;
* **`readNumber_toDigits`**: a whole number is read from its digits.
-/

namespace ReceiptPrinting.Json

/-- Nothing follows, or a comma, or what closes a list or an object. -/
def Delimited (rest : List Char) : Prop :=
  ∀ c ∈ rest.head?, c = ',' ∨ c = ']' ∨ c = '\x7d'

theorem delimited_nil : Delimited [] := nofun

theorem delimited_cons {c : Char} (r : List Char) (h : c = ',' ∨ c = ']' ∨ c = '\x7d') :
    Delimited (c :: r) := by
  intro d hd
  rw [List.head?_cons, Option.mem_some_iff] at hd
  rwa [← hd]

/-- What follows a value is empty or starts with one of three signs. -/
theorem Delimited.cases {rest : List Char} (h : Delimited rest) :
    rest = [] ∨ ∃ r, rest = ',' :: r ∨ rest = ']' :: r ∨ rest = '\x7d' :: r := by
  cases rest with
  | nil => exact .inl rfl
  | cons c r => rcases h c rfl with rfl | rfl | rfl <;> exact .inr ⟨r, by simp⟩

/-! ## 1. Digits -/

theorem isDigit_of_mem_toDigits {n : Nat} {c : Char} (h : c ∈ Nat.toDigits 10 n) :
    isDigit c = true := by
  have hc := Nat.isDigit_of_mem_toDigits (by decide) (by decide) h
  exact hc

/-- The digits of a number are all there is to its digits. -/
theorem digits_toDigits (n : Nat) {rest : List Char} (h : Delimited rest) (o : Nat) :
    ∃ m, digits ⟨Nat.toDigits 10 n ++ rest, o⟩ =
      ((Nat.toDigits 10 n).map digitValue, ⟨rest, m⟩) := by
  have htake : rest.takeWhile isDigit = [] := by
    rcases h.cases with rfl | ⟨r, rfl | rfl | rfl⟩ <;> rfl
  have hdrop : rest.dropWhile isDigit = rest := by
    rcases h.cases with rfl | ⟨r, rfl | rfl | rfl⟩ <;> rfl
  have hall : ∀ c ∈ Nat.toDigits 10 n, isDigit c = true := fun c => isDigit_of_mem_toDigits
  refine ⟨o + (Nat.toDigits 10 n).length, ?_⟩
  rw [digits, List.takeWhile_append_of_pos hall, List.dropWhile_append_of_pos hall, htake, hdrop,
    List.append_nil]

/-- A number other than zero has no leading zero. -/
theorem head?_toDigits {n : Nat} (hn : n ≠ 0) : (Nat.toDigits 10 n).head? ≠ some '0' := by
  induction n using Nat.strongRecOn with
  | _ n ih =>
    rw [Nat.toDigits_eq_if (by decide)]
    split
    case isTrue h =>
      have hdigit : ∀ k < 10, k ≠ 0 → k.digitChar ≠ '0' := by decide
      simpa using hdigit n h hn
    case isFalse h =>
      have hdiv := ih (n / 10) (by omega) (by omega)
      rw [List.head?_append]
      cases hd : (Nat.toDigits 10 (n / 10)).head? with
      | none => simp at hd
      | some d => rwa [hd] at hdiv

/-- Digits are appended as long as their number has 64 bits. -/
theorem appendDigits_map (cs : List Char) (m : Nat)
    (h : Nat.ofDigitChars 10 cs m ≤ maxSignificand) :
    appendDigits m (cs.map digitValue) = (Nat.ofDigitChars 10 cs m, cs.length) := by
  induction cs generalizing m with
  | nil => rfl
  | cons c cs ih =>
    rw [Nat.ofDigitChars_cons] at h
    have hstep : 10 * m + (c.toNat - '0'.toNat) = m * 10 + digitValue c := by
      rw [digitValue, Nat.mul_comm]
    rw [hstep] at h
    have hle : m * 10 + digitValue c ≤ maxSignificand := calc
      m * 10 + digitValue c ≤ 10 ^ cs.length * (m * 10 + digitValue c) :=
        Nat.le_mul_of_pos_left _ (Nat.pow_pos (by decide))
      _ ≤ Nat.ofDigitChars 10 cs (m * 10 + digitValue c) := by
        rw [Nat.ofDigitChars_eq_ofDigitChars_zero]
        exact Nat.le_add_right _ _
      _ ≤ maxSignificand := h
    rw [List.map_cons, appendDigits, if_pos hle, ih _ h, Nat.ofDigitChars_cons, hstep]
    rfl

/-! ## 2. Numbers -/

/-- The whole part of a number is its digits. -/
theorem wholePart_toDigits (n : Nat) (f : Fault) {rest : List Char} (h : Delimited rest)
    (o : Nat) :
    ∃ m, wholePart f ⟨Nat.toDigits 10 n ++ rest, o⟩ =
      .ok ((Nat.toDigits 10 n).map digitValue, ⟨rest, m⟩) := by
  by_cases hn : n = 0
  · subst hn
    rcases h.cases with rfl | ⟨r, rfl | rfl | rfl⟩ <;> exact ⟨o + 1, rfl⟩
  · obtain ⟨m, hm⟩ := digits_toDigits n h o
    refine ⟨m, ?_⟩
    have hhead := head?_toDigits hn
    cases hd : Nat.toDigits 10 n with
    | nil => simp at hd
    | cons d ds =>
      rw [hd] at hhead hm
      have hzero : d ≠ '0' := by simpa using hhead
      have hdigit : isDigit d = true := isDigit_of_mem_toDigits (n := n) (by simp [hd])
      simp only [wholePart, List.cons_append, if_neg hzero, if_pos hdigit]
      rw [← List.cons_append, hm]

/-- Neither a fraction nor an exponent follows. -/
theorem readNumeral_toDigits (n : Nat) (f : Fault) (negative : Bool) {rest : List Char}
    (h : Delimited rest) (o : Nat) :
    ∃ m, readNumeral f negative ⟨Nat.toDigits 10 n ++ rest, o⟩ =
      .ok (⟨negative, (Nat.toDigits 10 n).map digitValue, none, none⟩, ⟨rest, m⟩) := by
  obtain ⟨m, hm⟩ := wholePart_toDigits n f h o
  have hfraction : fractionPart f ⟨rest, m⟩ = .ok (none, ⟨rest, m⟩) := by
    rcases h.cases with rfl | ⟨r, rfl | rfl | rfl⟩ <;> rfl
  have hexponent : exponentPart f ⟨rest, m⟩ = .ok (none, ⟨rest, m⟩) := by
    rcases h.cases with rfl | ⟨r, rfl | rfl | rfl⟩ <;> rfl
  refine ⟨m, ?_⟩
  simp only [readNumeral, hm, ok_bind, hfraction, hexponent]
  rfl

/-- A whole number that is kept as it is: one of 64 bits, with or without a sign. -/
def InWords (n : Int) : Prop := -0x8000000000000000 ≤ n ∧ n ≤ 0xFFFFFFFFFFFFFFFF

theorem inWords_natCast {n : Nat} (h : n < 0x10000000000000000) : InWords n := by
  unfold InWords
  omega

theorem whole?_toDigits {n : Int} (h : InWords n) :
    Numeral.whole? ⟨decide (n < 0), (Nat.toDigits 10 n.natAbs).map digitValue, none, none⟩ =
      some n := by
  have hmax : Nat.ofDigitChars 10 (Nat.toDigits 10 n.natAbs) 0 ≤ maxSignificand := by
    have hbound : maxSignificand = 2 ^ 64 - 1 := rfl
    rw [Nat.ofDigitChars_ten_toDigits]
    unfold InWords at h
    omega
  have hlow : Nat.pow 2 63 = 0x8000000000000000 := rfl
  unfold InWords at h
  simp only [Numeral.whole?, appendDigits_map _ _ hmax, Nat.ofDigitChars_ten_toDigits,
    List.length_map, Option.isSome_none, Bool.or_self, Bool.false_or, decide_eq_true_eq,
    Nat.lt_irrefl, if_false]
  by_cases hn : n < 0
  · rw [if_pos hn, if_pos (by omega)]
    congr 1
    omega
  · rw [if_neg hn]
    congr 1
    omega

/-- **A whole number is read from its digits.** -/
theorem readNumber_toDigits {n : Int} (h : InWords n) {rest : List Char} (hrest : Delimited rest)
    (o : Nat) :
    ∃ m, readNumber (decide (n < 0)) ⟨Nat.toDigits 10 n.natAbs ++ rest, o⟩ =
      .ok (.whole n, ⟨rest, m⟩) := by
  obtain ⟨m, hm⟩ := readNumeral_toDigits n.natAbs .endOfValue (decide (n < 0)) hrest o
  refine ⟨m, ?_⟩
  simp only [readNumber, hm, ok_bind, Numeral.value, whole?_toDigits h]
  rfl

end ReceiptPrinting.Json
