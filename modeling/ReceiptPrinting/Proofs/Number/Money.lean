import Mathlib.Algebra.Order.Field.Basic
import Mathlib.Algebra.Order.Field.Rat
import Mathlib.Tactic.FieldSimp
import Mathlib.Tactic.Positivity
import Mathlib.Tactic.Ring
import ReceiptPrinting.Number.Decimal
import ReceiptPrinting.Proofs.Json.Numbers
import ReceiptPrinting.Proofs.Number.Digits
import ReceiptPrinting.Proofs.Number.Rounding

/-!
# Amounts as numbers

An amount is printed as its nearest hundredth, halves away from zero. What is printed is told from
the text alone: a sign, digits, a point and two digits more, and the count of hundredths they spell.

* `Decimal.value`, `Decimal.cents`: the number that an amount is, and its nearest hundredth;
* `IsMoney`: the texts of hundredths; each spells one count of them (`IsMoney.unique`);
* **`Decimal.nearestAway_cents`**, **`Decimal.isMoney_money`**: an amount is printed as the nearest
  hundredth;
* `Decimal.minus_mem_money_iff`: where the text has a minus;
* `Decimal.length_money_le_iff`: how long it is.
-/

namespace ReceiptPrinting

namespace Decimal

/-- The number that an amount is. -/
def value (d : Decimal) : ℚ := (if d.negative then -1 else 1) * d.mantissa / 10 ^ d.scale

/-- An amount is more than nothing exactly if its number is. -/
theorem isPositive_iff (d : Decimal) : d.isPositive = true ↔ 0 < d.value := by
  have hunit : (0 : ℚ) < 10 ^ d.scale := by positivity
  rw [value, div_pos_iff_of_pos_right hunit, isPositive]
  cases d.negative with
  | false => simp [Nat.pos_iff_ne_zero]
  | true => simp

/-- An amount is nothing exactly if its mantissa is, whatever its places and its sign. -/
theorem value_eq_zero_iff (d : Decimal) : d.value = 0 ↔ d.mantissa = 0 := by
  have hunit : (10 : ℚ) ^ d.scale ≠ 0 := by positivity
  have hsign : (if d.negative then -1 else 1 : ℚ) ≠ 0 := by
    split <;> norm_num
  rw [value, div_eq_zero_iff, or_iff_left hunit, mul_eq_zero, or_iff_right hsign, Nat.cast_eq_zero]

theorem point_mem_fixedText (n : Nat) : '.' ∈ fixedText 2 n := by
  simp [fixedText]

/-- An amount is printed with its point. -/
theorem point_mem_money (d : Decimal) : '.' ∈ d.money.toList := by
  rw [money, String.toList_ofList]
  exact List.mem_append_right _ (point_mem_fixedText _)

/-! ## 1. Hundredths -/

/-- An amount in hundredths, the nearest count of them. -/
def cents (d : Decimal) : ℤ := (if d.negative then -1 else 1) * d.hundredths

/-- Up to two places hundredths are enough. -/
theorem hundredths_eq (d : Decimal) (h : d.scale ≤ 2) :
    (d.hundredths : ℚ) = 100 * (d.mantissa / 10 ^ d.scale) := by
  have hunit : (10 : ℚ) ^ d.scale ≠ 0 := by positivity
  have hpow : (10 : ℚ) ^ (2 - d.scale) * 10 ^ d.scale = 100 := by
    rw [← pow_add, Nat.sub_add_cancel h]
    norm_num
  rw [hundredths, if_pos h, mul_div_assoc', eq_div_iff hunit, Nat.pow_eq, ← hpow]
  push_cast
  ring

/-- The size of an amount is rounded to its nearest hundredth. -/
theorem nearestAway_hundredths (d : Decimal) :
    NearestAway (100 * (d.mantissa / 10 ^ d.scale)) d.hundredths := by
  by_cases hscale : d.scale ≤ 2
  · rw [← d.hundredths_eq hscale]
    exact nearestAway_intCast d.hundredths
  · have hpow : (10 : ℚ) ^ d.scale = 100 * 10 ^ (d.scale - 2) := by
      rw [show (100 : ℚ) = 10 ^ 2 by norm_num, ← pow_add]
      congr 1
      omega
    have hrest : (10 : ℚ) ^ (d.scale - 2) ≠ 0 := by positivity
    have hfraction : 100 * ((d.mantissa : ℚ) / 10 ^ d.scale) =
        d.mantissa / (Nat.pow 10 (d.scale - 2) : ℕ) := by
      rw [hpow, Nat.pow_eq]
      push_cast
      field_simp
    rw [hundredths, if_neg hscale, hfraction]
    exact nearestAway_roundHalfUp _ _ (Nat.pow_pos (by decide))

/-- **An amount is rounded to its nearest hundredth.** -/
theorem nearestAway_cents (d : Decimal) : NearestAway (100 * d.value) d.cents := by
  have h := d.nearestAway_hundredths
  rw [value, cents]
  cases d.negative with
  | false => simpa using h
  | true => simpa [neg_div] using h.neg

/-- A larger amount is not printed as a smaller one. -/
theorem cents_mono {d e : Decimal} (h : d.value ≤ e.value) : d.cents ≤ e.cents :=
  d.nearestAway_cents.mono e.nearestAway_cents (by linarith)

/-- Up to two places an amount is printed as it is. -/
theorem cents_eq (d : Decimal) (h : d.scale ≤ 2) : (d.cents : ℚ) = 100 * d.value := by
  have hsize := d.hundredths_eq h
  rw [value, cents]
  push_cast
  rw [hsize]
  ring

end Decimal

/-! ## 2. Texts of hundredths -/

/-- `n` hundredths: at least one digit, a point and two digits. The first digit is a zero only if it
    is the only one before the point. -/
inductive IsHundredths : List Char → ℕ → Prop where
  | mk {whole : List Char} {c d : Char} (ne_nil : whole ≠ [])
    (digits : ∀ x ∈ whole, x.isDigit = true) (leading : whole.head? = some '0' → whole = ['0'])
    (tenths : c.isDigit = true) (hundredths : d.isDigit = true) :
    IsHundredths (whole ++ ['.', c, d]) (Nat.ofDigitChars 10 (whole ++ [c, d]) 0)

/-- `n` hundredths, with a minus before them if there are less than none. -/
inductive IsMoney : List Char → ℤ → Prop where
  | plain {cs : List Char} {n : ℕ} (h : IsHundredths cs n) : IsMoney cs n
  | minus {cs : List Char} {n : ℕ} (h : IsHundredths cs n) : IsMoney ('-' :: cs) (-n)

theorem IsHundredths.unique {cs : List Char} {n m : ℕ} (hn : IsHundredths cs n)
    (hm : IsHundredths cs m) : n = m := by
  generalize hcs : cs = ds at hm
  cases hn with
  | @mk whole c d =>
    cases hm with
    | @mk whole' c' d' =>
      obtain ⟨rfl, hplaces⟩ := List.append_inj' hcs rfl
      cases hplaces
      rfl

/-- The text starts with a digit. -/
theorem IsHundredths.head {cs : List Char} {n : ℕ} (h : IsHundredths cs n) :
    ∀ c ∈ cs.head?, c.isDigit = true := by
  cases h with
  | @mk whole _ _ ne_nil digits =>
    intro c hc
    obtain ⟨x, r, rfl⟩ := List.exists_cons_of_ne_nil ne_nil
    cases hc
    exact digits c List.mem_cons_self

/-- There is no minus within it. -/
theorem IsHundredths.minus_notMem {cs : List Char} {n : ℕ} (h : IsHundredths cs n) : '-' ∉ cs := by
  have hdigit {c : Char} (hc : c.isDigit = true) : c ≠ '-' := by
    rintro rfl
    exact absurd hc (by decide)
  cases h with
  | mk ne_nil digits leading tenths hundredths =>
    intro hmem
    simp only [List.mem_append, List.mem_cons, List.not_mem_nil, or_false] at hmem
    rcases hmem with hmem | hmem | hmem | hmem
    · exact hdigit (digits _ hmem) rfl
    · exact absurd hmem (by decide)
    · exact hdigit tenths hmem.symm
    · exact hdigit hundredths hmem.symm

/-- **A text spells one count of hundredths.** -/
theorem IsMoney.unique {cs : List Char} {n m : ℤ} (hn : IsMoney cs n) (hm : IsMoney cs m) :
    n = m := by
  have hsign {ds : List Char} {k : ℕ} (h : IsHundredths ('-' :: ds) k) : False :=
    absurd (h.head '-' rfl) (by decide)
  generalize hcs : cs = ds at hm
  cases hn with
  | plain hn =>
    cases hm with
    | plain hm => rw [hn.unique (hcs ▸ hm)]
    | minus hm => exact (hsign (hcs ▸ hn)).elim
  | minus hn =>
    cases hm with
    | plain hm => exact (hsign (hcs.symm ▸ hm)).elim
    | minus hm =>
      cases hcs
      rw [hn.unique hm]

/-! ## 3. Amounts as texts -/

theorem padded_two : ∀ k < 100,
    Natural.padded 2 k = [Nat.digitChar (k / 10), Nat.digitChar (k % 10)] := by decide

theorem digitChar_of_lt_ten : ∀ k < 10,
    (Nat.digitChar k).isDigit = true ∧ (Nat.digitChar k).toNat - '0'.toNat = k := by decide

theorem isHundredths_fixedText (n : ℕ) : IsHundredths (Decimal.fixedText 2 n) n := by
  have hplaces := padded_two (n % 100) (Nat.mod_lt n (by decide))
  obtain ⟨hten, htenValue⟩ := digitChar_of_lt_ten (n % 100 / 10) (by omega)
  obtain ⟨hone, honeValue⟩ := digitChar_of_lt_ten (n % 100 % 10) (by omega)
  have hleading : (Nat.toDigits 10 (n / 100)).head? = some '0' →
      Nat.toDigits 10 (n / 100) = ['0'] := by
    intro hhead
    by_cases hzero : n / 100 = 0
    · rw [hzero]
      rfl
    · exact absurd hhead (Json.head?_toDigits hzero)
  have h := IsHundredths.mk (List.ne_nil_of_length_pos Nat.length_toDigits_pos)
    (Natural.isDigit_toDigits (n / 100)) hleading hten hone
  have hvalue : Nat.ofDigitChars 10 (Nat.toDigits 10 (n / 100) ++
      [Nat.digitChar (n % 100 / 10), Nat.digitChar (n % 100 % 10)]) 0 = n := by
    rw [Nat.ofDigitChars_append, Nat.ofDigitChars_ten_toDigits, Nat.ofDigitChars_cons,
      Nat.ofDigitChars_cons, Nat.ofDigitChars_nil, htenValue, honeValue]
    omega
  rw [hvalue, ← hplaces] at h
  exact h

/-- How long a text of hundredths is. -/
theorem length_fixedText_le_iff (n : ℕ) {w : ℕ} (hw : 0 < w) :
    (Decimal.fixedText 2 n).length ≤ w + 3 ↔ n < 10 ^ (w + 2) := by
  have hplaces := padded_two (n % 100) (Nat.mod_lt n (by decide))
  have hlength : (Decimal.fixedText 2 n).length = (Nat.toDigits 10 (n / 100)).length + 3 := by
    simp only [Decimal.fixedText, List.length_append]
    congr 1
    exact congrArg (fun r => (List.cons '.' r).length) hplaces
  rw [hlength, Nat.add_le_add_iff_right, Nat.length_toDigits_le_iff (by decide) hw,
    Nat.div_lt_iff_lt_mul (by decide), pow_add]
  rfl

namespace Decimal

/-- An amount is printed as its hundredths, with a minus if there are less than none, or if it was
    nothing with a minus before. -/
theorem money_toList (d : Decimal) : ∃ minus : Bool,
    d.money.toList = signText minus ++ fixedText 2 d.hundredths ∧
    d.cents = (if minus then -1 else 1) * d.hundredths ∧
    (minus = true ↔ d.cents < 0 ∨ d.negative = true ∧ d.value = 0) := by
  refine ⟨d.negative && (d.hundredths != 0 || d.mantissa == 0), String.toList_ofList, ?_, ?_⟩
  · rw [cents]
    cases d.negative with
    | false => rfl
    | true =>
      by_cases h : d.hundredths = 0
      · simp [h]
      · simp [h]
  · rw [cents, value_eq_zero_iff]
    cases d.negative with
    | false => simp
    | true =>
      by_cases h : d.hundredths = 0
      · simp [h]
      · simp [h, Nat.pos_iff_ne_zero]

/-- The sign of nothing is printed where it has one. -/
example : (⟨true, 0, 28, by decide, by decide⟩ : Decimal).money = "-0.00" := by decide +kernel

/-- **An amount is printed as its hundredths.** -/
theorem isMoney_money (d : Decimal) : IsMoney d.money.toList d.cents := by
  obtain ⟨minus, htext, hcents, -⟩ := d.money_toList
  have hsize := isHundredths_fixedText d.hundredths
  rw [htext, hcents]
  cases minus with
  | false => simpa [signText] using IsMoney.plain hsize
  | true => simpa [signText] using IsMoney.minus hsize

/-- A minus stands before less than nothing. It stands before nothing only where the amount is
    nothing with a minus itself, not where it is rounded to nothing. -/
theorem minus_mem_money_iff (d : Decimal) :
    '-' ∈ d.money.toList ↔ d.cents < 0 ∨ d.negative = true ∧ d.value = 0 := by
  obtain ⟨minus, htext, -, hminus⟩ := d.money_toList
  have hbody : '-' ∉ fixedText 2 d.hundredths :=
    (isHundredths_fixedText d.hundredths).minus_notMem
  rw [htext, ← hminus]
  cases minus with
  | false => simpa [signText] using hbody
  | true => simp [signText]

/-- How long the text of an amount is. -/
theorem length_money_le_iff (d : Decimal) {w : ℕ} (hw : 0 < w) :
    d.money.toList.length ≤ w + 4 ↔ -10 ^ (w + 2) < d.cents ∧ d.cents < 10 ^ (w + 3) := by
  obtain ⟨minus, htext, hcents, -⟩ := d.money_toList
  have hpow : (10 : ℤ) ^ (w + 2) = ((10 ^ (w + 2) : ℕ) : ℤ) := by push_cast; rfl
  have hpow' : (10 : ℤ) ^ (w + 3) = ((10 ^ (w + 3) : ℕ) : ℤ) := by push_cast; rfl
  have hpos : 0 < 10 ^ (w + 2) := Nat.pow_pos (by decide)
  have hpos' : 0 < 10 ^ (w + 3) := Nat.pow_pos (by decide)
  rw [htext, hcents, hpow, hpow', List.length_append]
  cases minus with
  | false =>
    have hlength : _ ≤ w + 4 ↔ _ < 10 ^ (w + 3) :=
      length_fixedText_le_iff d.hundredths (Nat.succ_pos w)
    simp only [signText, Bool.false_eq_true, if_false, List.length_nil, Nat.zero_add, one_mul]
    omega
  | true =>
    have hlength := length_fixedText_le_iff d.hundredths hw
    simp only [signText, if_true, List.length_singleton]
    omega

end Decimal

end ReceiptPrinting
