import ReceiptPrinting.Proofs.Number.Money

/-!
# Amounts are read as they are written

A plain text of at most 28 digits is read as the number it spells, and so is a whole number of 64
bits. Nothing is rounded, and a zero has no sign.

* `IsPlain`: the plain texts and the numbers they spell;
* `scan_digits`: digits are taken one after another as long as there is room;
* **`parse?_of_isPlain`**, `ofInt?_eq_some`: texts and whole numbers are read exactly.
-/

namespace ReceiptPrinting.Decimal

open Natural (digit?)

/-! ## 1. Plain texts -/

/-- Up to 28 digits with at most one point, which stands between two of them. -/
inductive IsSize : List Char → ℚ → Prop where
  | whole {ds : List Char} (ne_nil : ds ≠ []) (digits : ∀ x ∈ ds, x.isDigit = true)
    (room : ds.length ≤ 28) : IsSize ds (Nat.ofDigitChars 10 ds 0)
  | pointed {ds es : List Char} (ne_nil : ds ≠ []) (behind : es ≠ [])
    (digits : ∀ x ∈ ds ++ es, x.isDigit = true) (room : (ds ++ es).length ≤ 28) :
    IsSize (ds ++ '.' :: es) (Nat.ofDigitChars 10 (ds ++ es) 0 / 10 ^ es.length)

/-- Such digits, with a minus before them or without. -/
inductive IsPlain : List Char → ℚ → Prop where
  | plain {cs : List Char} {q : ℚ} (h : IsSize cs q) : IsPlain cs q
  | minus {cs : List Char} {q : ℚ} (h : IsSize cs q) : IsPlain ('-' :: cs) (-q)

/-! ## 2. Digits -/

theorem digit?_lt {c : Char} (h : c.isDigit = true) :
    digit? c = some (c.toNat - '0'.toNat) ∧ c.toNat - '0'.toNat < 10 := by
  have hrange := Natural.toNat_of_isDigit h
  have hzero : '0'.toNat = 0x30 := rfl
  exact ⟨Natural.digit?_of_isDigit h, by omega⟩

theorem pow_le_limit {k : ℕ} (h : k ≤ 28) : 10 ^ k ≤ limit :=
  Nat.le_trans (Nat.pow_le_pow_right (by decide) h) (by decide)

/-- **Digits are taken as long as there is room for them.** -/
theorem scan_digits (point seen : Bool) (m s k : ℕ) {ds : List Char}
    (digits : ∀ x ∈ ds, x.isDigit = true) (hm : m < 10 ^ k) (hk : k + ds.length ≤ 28)
    (hs : s + ds.length ≤ 28) (hseen : seen = true ∨ ds ≠ []) (r : List Char) :
    scan point seen m s (ds ++ r) =
      scan point true (Nat.ofDigitChars 10 ds m) (if point then s + ds.length else s) r := by
  induction ds generalizing seen m s k with
  | nil =>
    obtain rfl : seen = true := hseen.resolve_right fun h => h rfl
    simp
  | cons c ds ih =>
    obtain ⟨hdigit, hlt⟩ := digit?_lt (digits c List.mem_cons_self)
    rw [List.length_cons] at hk hs
    have hnext : m * 10 + (c.toNat - '0'.toNat) < 10 ^ (k + 1) := by
      rw [pow_succ]
      omega
    have hroom : ¬ limit ≤ m * 10 + (c.toNat - '0'.toNat) :=
      Nat.not_le_of_lt (Nat.lt_of_lt_of_le hnext (pow_le_limit (by omega)))
    have hplace : (s == maxScale) = false := beq_false_of_ne (by simp only [maxScale]; omega)
    have hrest := ih true _ (if point then s + 1 else s) _
      (fun x hx => digits x (List.mem_cons_of_mem _ hx)) hnext (by omega)
      (by split <;> omega) (.inl rfl)
    rw [List.cons_append, scan, hdigit]
    simp only [hplace, hroom, decide_false, Bool.or_self, Bool.and_false, Bool.false_eq_true,
      if_false]
    rw [hrest, Nat.ofDigitChars_cons, Nat.mul_comm 10 m]
    cases point with
    | false => rfl
    | true =>
      simp only [if_true, List.length_cons]
      congr 1
      omega

theorem ofDigitChars_lt {ds : List Char} (digits : ∀ x ∈ ds, x.isDigit = true) (m : ℕ) :
    Nat.ofDigitChars 10 ds m < (m + 1) * 10 ^ ds.length := by
  induction ds generalizing m with
  | nil => simp
  | cons c ds ih =>
    have hlt := (digit?_lt (digits c List.mem_cons_self)).2
    have hrest := ih (fun x hx => digits x (List.mem_cons_of_mem _ hx))
      (10 * m + (c.toNat - '0'.toNat))
    have hstep : (10 * m + (c.toNat - '0'.toNat) + 1) * 10 ^ ds.length ≤
        (m + 1) * 10 * 10 ^ ds.length := Nat.mul_le_mul_right _ (by omega)
    rw [Nat.ofDigitChars_cons, List.length_cons, Nat.pow_succ', ← Nat.mul_assoc]
    exact Nat.lt_of_lt_of_le hrest hstep

/-- The digits of a text of at most 28 digits, and where its point is. -/
theorem scan_of_isSize {cs : List Char} {q : ℚ} (h : IsSize cs q) :
    ∃ m s, scan false false 0 0 cs = some (m, s) ∧ m < 2 ^ 96 ∧ s ≤ 28 ∧ q = m / 10 ^ s := by
  have hlimit {ds : List Char} (digits : ∀ x ∈ ds, x.isDigit = true) (room : ds.length ≤ 28) :
      Nat.ofDigitChars 10 ds 0 < 2 ^ 96 := by
    have hlt := ofDigitChars_lt digits 0
    rw [Nat.zero_add, Nat.one_mul] at hlt
    exact Nat.lt_of_lt_of_le hlt (pow_le_limit room)
  cases h with
  | @whole ds ne_nil digits room =>
    have hscan := scan_digits false false 0 0 0 digits
      (by decide) (by omega) (by omega) (.inr ne_nil) []
    rw [List.append_nil] at hscan
    exact ⟨_, 0, hscan, hlimit digits room, by decide, by simp⟩
  | @pointed ds es ne_nil behind digits room =>
    have hds : ∀ x ∈ ds, x.isDigit = true := fun x hx => digits x (List.mem_append_left _ hx)
    have hes : ∀ x ∈ es, x.isDigit = true := fun x hx => digits x (List.mem_append_right _ hx)
    have hlength := room
    rw [List.length_append] at hlength
    have hwhole := scan_digits false false 0 0 0 hds
      (by decide) (by omega) (by omega) (.inr ne_nil) ('.' :: es)
    have hlt := ofDigitChars_lt hds 0
    rw [Nat.zero_add, Nat.one_mul] at hlt
    have hfraction := scan_digits true true _ 0 _ hes hlt (by omega)
      (by omega) (.inl rfl) []
    have hpoint : scan false true (Nat.ofDigitChars 10 ds 0) 0 ('.' :: es) =
        scan true true (Nat.ofDigitChars 10 ds 0) 0 es := rfl
    rw [List.append_nil] at hfraction
    refine ⟨_, es.length, ?_, hlimit digits room, by omega, rfl⟩
    rw [hwhole, if_neg Bool.false_ne_true, hpoint, hfraction, if_pos rfl, Nat.zero_add,
      Nat.ofDigitChars_append]
    rfl

/-! ## 3. Amounts -/

/-- An amount that is read as `q` and has no sign if it is nothing. -/
structure Is (d : Decimal) (q : ℚ) : Prop where
  value : d.value = q
  sign : d.negative = true → d.mantissa ≠ 0

/-- What fits is kept, but for the sign of a zero. -/
theorem ofParts?_eq_some (negative : Bool) {m s : ℕ} (hm : m < 2 ^ 96) (hs : s ≤ 28) :
    ∃ d, ofParts? negative m s = some d ∧ d.Is ((if negative then -1 else 1) * m / 10 ^ s) := by
  have hfits : m < Nat.pow 2 96 ∧ s ≤ 28 := ⟨hm, hs⟩
  refine ⟨_, dif_pos hfits, ?_, ?_⟩
  · rw [value]
    by_cases hzero : m = 0
    · simp [hzero]
    · simp [hzero]
  · dsimp only
    intro hsign
    simpa using (Bool.and_eq_true_iff.mp hsign).2

/-- **A whole number of less than 29 digits is read exactly.** -/
theorem ofInt?_eq_some {n : ℤ} (h : n.natAbs < 2 ^ 96) : ∃ d, ofInt? n = some d ∧ d.Is n := by
  obtain ⟨d, hd, hvalue, hsign⟩ := ofParts?_eq_some (decide (n < 0)) h (Nat.zero_le 28)
  refine ⟨d, hd, ?_, hsign⟩
  rw [hvalue, pow_zero, div_one]
  have habs : ((n.natAbs : ℤ) : ℚ) = |(n : ℚ)| := by rw [Int.natCast_natAbs, Int.cast_abs]
  rw [Int.cast_natCast] at habs
  rw [habs]
  by_cases hn : n < 0
  · have hq : (n : ℚ) < 0 := by exact_mod_cast hn
    simp [hn, abs_of_neg hq]
  · have hq : (0 : ℚ) ≤ n := by exact_mod_cast not_lt.mp hn
    simp [hn, abs_of_nonneg hq]

/-- A text that starts with a digit has no sign. -/
theorem ofFixed?_of_isSize {cs : List Char} {q : ℚ} (h : IsSize cs q) :
    ofFixed? cs = (scan false false 0 0 cs).bind fun (m, s) => ofParts? false m s := by
  obtain ⟨c, r, rfl, hc⟩ : ∃ c r, cs = c :: r ∧ c.isDigit = true := by
    cases h with
    | @whole ds ne_nil digits =>
      obtain ⟨c, r, rfl⟩ := List.exists_cons_of_ne_nil ne_nil
      exact ⟨c, r, rfl, digits c List.mem_cons_self⟩
    | @pointed ds es ne_nil _ digits =>
      obtain ⟨c, r, rfl⟩ := List.exists_cons_of_ne_nil ne_nil
      exact ⟨c, r ++ '.' :: es, rfl, digits c List.mem_cons_self⟩
  have hminus : c ≠ '-' := by
    rintro rfl
    exact absurd hc (by decide)
  have hplus : c ≠ '+' := by
    rintro rfl
    exact absurd hc (by decide)
  simp [ofFixed?, hminus, hplus]

theorem ofFixed?_of_isPlain {cs : List Char} {q : ℚ} (h : IsPlain cs q) :
    ∃ d, ofFixed? cs = some d ∧ d.Is q := by
  cases h with
  | plain h =>
    obtain ⟨m, s, hscan, hm, hs, rfl⟩ := scan_of_isSize h
    obtain ⟨d, hd, his⟩ := ofParts?_eq_some false hm hs
    refine ⟨d, ?_, by simpa using his⟩
    rw [ofFixed?_of_isSize h, hscan, ← hd]
    rfl
  | minus h =>
    obtain ⟨m, s, hscan, hm, hs, rfl⟩ := scan_of_isSize h
    obtain ⟨d, hd, his⟩ := ofParts?_eq_some true hm hs
    refine ⟨d, ?_, by simpa [neg_div] using his⟩
    rw [← hd]
    simp only [ofFixed?, hscan]
    rfl

/-- **A plain text is read exactly.** -/
theorem parse?_of_isPlain {s : String} {q : ℚ} (h : IsPlain s.toList q) :
    ∃ d, parse? s = some d ∧ d.Is q := by
  obtain ⟨d, hd, his⟩ := ofFixed?_of_isPlain h
  exact ⟨d, by rw [parse?, parseChars?, hd, Option.some_or], his⟩

end ReceiptPrinting.Decimal
