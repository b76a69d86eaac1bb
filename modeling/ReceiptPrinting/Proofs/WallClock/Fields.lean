import Mathlib.Algebra.Group.Nat.Defs
import Mathlib.Data.List.Basic
import ReceiptPrinting.Proofs.Number.Digits
import ReceiptPrinting.Proofs.Text.Trim
import ReceiptPrinting.WallClock

/-!
# The fields of a time

A field takes as many of the digits that stand next as it has room for. So what it has read is told
from the text alone: digits of its width, or fewer with no further digit behind them.

* `Numeral`: digits, how many they are, and the number they write;
* **`number_append`**, `number_sound`: a field reads such digits and nothing else; in full width
  (`number_full`) it does not matter what follows;
* `numeral_padded`: a number filled up with zeros is written in the full width;
* `Field`, `YearField`, `Fraction`: the other fields as they are written, each with its two lemmas.
-/

namespace ReceiptPrinting.WallClock

open Natural (digit? padded)
open Text (isBlank trimStart)

/-! ## 1. Numerals -/

/-- `ds` are `k` digits, and `n` is the number that they write. -/
structure Numeral (k n : Nat) (ds : List Char) : Prop where
  digits : ∀ c ∈ ds, c.isDigit = true
  length : ds.length = k
  value : Nat.ofDigitChars 10 ds 0 = n

/-- No digit stands next. -/
def NoDigit (r : List Char) : Prop := ∀ c ∈ r.head?, c.isDigit = false

section

variable {least most k n : Nat} {c : Char} {cs ds r : List Char}

theorem noDigit_nil : NoDigit [] := by
  intro c hc
  cases hc

theorem noDigit_cons (h : c.isDigit = false) : NoDigit (c :: r) := by
  intro d hd
  cases hd
  exact h

theorem NoDigit.append (h : NoDigit cs) (hne : cs ≠ []) : NoDigit (cs ++ r) := by
  intro c hc
  rw [List.head?_append_of_ne_nil _ hne] at hc
  exact h c hc

/-- The digits that stand next, as far as there is room for them. -/
def taken (most : Nat) (cs : List Char) : List Char := (cs.take most).takeWhile Char.isDigit

theorem isDigit_taken (most : Nat) (cs : List Char) : ∀ c ∈ taken most cs, c.isDigit = true :=
  fun _ hc => List.mem_takeWhile_imp hc

theorem length_taken_le (most : Nat) (cs : List Char) : (taken most cs).length ≤ most :=
  (List.takeWhile_prefix _).length_le.trans (List.length_take_le most cs)

theorem number_eq :
    number least most cs =
      if (taken most cs).length < least then none
      else some (Nat.ofDigitChars 10 (taken most cs) 0, cs.drop (taken most cs).length) := by
  have hdigit : (fun c => (digit? c).isSome) = Char.isDigit := funext fun _ => Natural.digit?_isSome
  have hvalue (ds : List Char) (h : ∀ c ∈ ds, c.isDigit = true) (m : Nat) :
      ds.foldl (fun n c => n * 10 + (digit? c).getD 0) m = Nat.ofDigitChars 10 ds m := by
    induction ds generalizing m with
    | nil => rfl
    | cons c ds ih =>
      rw [List.foldl_cons, Natural.digit?_of_isDigit (h c List.mem_cons_self), Option.getD_some,
        ih (fun d hd => h d (List.mem_cons_of_mem c hd)), Nat.ofDigitChars_cons, Nat.mul_comm]
  simp only [number, hdigit]
  rw [← hvalue _ (isDigit_taken most cs)]
  rfl

/-- Digits that fill the room are taken, and fewer where no digit follows. -/
theorem taken_append (hds : ∀ c ∈ ds, c.isDigit = true) (hmost : ds.length ≤ most)
    (hr : ds.length = most ∨ NoDigit r) : taken most (ds ++ r) = ds := by
  have hnext : (r.take (most - ds.length)).takeWhile Char.isDigit = [] := by
    rcases hr with rfl | hr
    · rw [Nat.sub_self, List.take_zero, List.takeWhile_nil]
    · cases r with
      | nil => rw [List.take_nil, List.takeWhile_nil]
      | cons c r =>
        cases most - ds.length with
        | zero => rfl
        | succ m =>
          rw [List.take_succ_cons, List.takeWhile_cons_of_neg (by rw [hr c rfl]; decide)]
  rw [taken, List.take_append, List.take_of_length_le hmost, List.takeWhile_append_of_pos hds,
    hnext, List.append_nil]

/-- What follows the digits taken: nothing that there is room for is a digit. -/
theorem taken_ends (most : Nat) (cs : List Char) :
    (taken most cs).length = most ∨ NoDigit (cs.drop (taken most cs).length) := by
  have hdrop : cs.drop (taken most cs).length =
      (cs.take most).dropWhile Char.isDigit ++ cs.drop most := by
    have hsplit :
        cs = taken most cs ++ ((cs.take most).dropWhile Char.isDigit ++ cs.drop most) := by
      rw [← List.append_assoc, taken, List.takeWhile_append_dropWhile, List.take_append_drop]
    exact (congrArg (List.drop _) hsplit).trans List.drop_left
  rw [hdrop]
  by_cases hnext : (cs.take most).dropWhile Char.isDigit = []
  · -- all that there is room for are digits: they fill the room, or end the text
    have htaken : taken most cs = cs.take most := by
      conv_rhs => rw [← List.takeWhile_append_dropWhile (p := Char.isDigit) (l := cs.take most)]
      rw [hnext, List.append_nil, taken]
    by_cases hlong : most ≤ cs.length
    · left
      rw [htaken, List.length_take_of_le hlong]
    · right
      rw [hnext, List.drop_of_length_le (by omega)]
      exact noDigit_nil
  · right
    refine NoDigit.append (fun c hc => ?_) hnext
    have hnot := List.head?_dropWhile_not Char.isDigit (cs.take most)
    rw [Option.mem_def.mp hc] at hnot
    exact hnot

/-- **A field reads digits that fill it**, and fewer where no further digit stands next. -/
theorem number_append (h : Numeral k n ds) (hleast : least ≤ k) (hmost : k ≤ most)
    (hr : k = most ∨ NoDigit r) : number least most (ds ++ r) = some (n, r) := by
  obtain ⟨hdigits, rfl, rfl⟩ := h
  rw [number_eq, taken_append hdigits hmost hr, if_neg (by omega), List.drop_left]

/-- **What a field has read stands in the text**, and no further digit that it has room for. -/
theorem number_sound (h : number least most cs = some (n, r)) :
    ∃ k ds, Numeral k n ds ∧ least ≤ k ∧ k ≤ most ∧ (k = most ∨ NoDigit r) ∧ cs = ds ++ r := by
  rw [number_eq] at h
  split at h
  case isTrue => cases h
  case isFalse hleast =>
    rw [Option.some_inj, Prod.mk.injEq] at h
    obtain ⟨hvalue, rfl⟩ := h
    have hpre : taken most cs <+: cs := (List.takeWhile_prefix _).trans (List.take_prefix most cs)
    exact ⟨_, _, ⟨isDigit_taken most cs, rfl, hvalue⟩, Nat.le_of_not_lt hleast,
      length_taken_le most cs, taken_ends most cs, (List.prefix_iff_eq_append.mp hpre).symm⟩

/-- In full width, digits are read as they stand there. -/
theorem number_full (h : Numeral k n ds) (r : List Char) : number k k (ds ++ r) = some (n, r) :=
  number_append h le_rfl le_rfl (.inl rfl)

theorem number_full_sound (h : number k k cs = some (n, r)) :
    ∃ ds, Numeral k n ds ∧ cs = ds ++ r := by
  obtain ⟨j, ds, hds, hleast, hmost, -, hcs⟩ := number_sound h
  obtain rfl : j = k := Nat.le_antisymm hmost hleast
  exact ⟨ds, hds, hcs⟩

theorem number_of_noDigit (h : NoDigit cs) (hleast : 0 < least) : number least most cs = none := by
  have htaken : taken most ([] ++ cs) = [] :=
    taken_append (fun _ hc => nomatch hc) (Nat.zero_le most) (.inr h)
  rw [List.nil_append] at htaken
  rw [number_eq, htaken]
  exact if_pos hleast

theorem Numeral.start (h : Numeral k n ds) (hk : 1 ≤ k) :
    ∃ c es, ds = c :: es ∧ c.isDigit = true := by
  cases ds with
  | nil =>
    have hnil : 0 = k := h.length
    omega
  | cons c es => exact ⟨c, es, rfl, h.digits c List.mem_cons_self⟩

/-- **A number filled up with zeros** is written in the full width. -/
theorem numeral_padded (hk : 0 < k) (hn : n < 10 ^ k) : Numeral k n (padded k n) := by
  have hwidth : (Nat.toDigits 10 n).length ≤ k := (Nat.length_toDigits_le_iff (by decide) hk).mpr hn
  have hzeros (m : Nat) : Nat.ofDigitChars 10 (List.replicate m '0') 0 = 0 := by
    induction m with
    | zero => rfl
    | succ m ih =>
      rw [List.replicate_succ, Nat.ofDigitChars_cons]
      exact ih
  constructor
  case digits =>
    intro c hc
    rcases List.mem_append.mp hc with hc | hc
    · rw [List.eq_of_mem_replicate hc]
      decide
    · exact Natural.isDigit_toDigits n c hc
  case length =>
    rw [padded, List.length_append, List.length_replicate]
    omega
  case value => rw [padded, Nat.ofDigitChars_append, hzeros, Nat.ofDigitChars_ten_toDigits]

end

/-! ## 2. Fields of one digit or two -/

/-- One digit or two, with blanks before them or without. -/
inductive Field (k n : Nat) : List Char → Prop where
  | mk {bs ds : List Char} (blanks : ∀ c ∈ bs, isBlank c = true) (width : k = 1 ∨ k = 2)
    (digits : Numeral k n ds) : Field k n (bs ++ ds)

section

variable {k n : Nat} {bs cs fs r : List Char}

theorem exists_blanks (cs : List Char) :
    ∃ bs, (∀ c ∈ bs, isBlank c = true) ∧ cs = bs ++ trimStart cs :=
  ⟨_, fun _ hc => List.mem_takeWhile_imp hc, List.takeWhile_append_dropWhile.symm⟩

theorem trimStart_cons {c : Char} (hc : isBlank c = false) : trimStart (c :: r) = c :: r :=
  List.dropWhile_cons_of_neg (by rw [hc]; exact Bool.false_ne_true)

theorem Numeral.trimStart {ds : List Char} (h : Numeral k n ds) (hk : 1 ≤ k)
    (hbs : ∀ c ∈ bs, isBlank c = true) : trimStart (bs ++ (ds ++ r)) = ds ++ r := by
  obtain ⟨c, es, rfl, hc⟩ := h.start hk
  rw [Text.trimStart_append hbs]
  exact trimStart_cons (Natural.isBlank_of_isDigit hc)

theorem field_append (h : Field k n fs) (hr : k = 2 ∨ NoDigit r) :
    field (fs ++ r) = some (n, r) := by
  obtain ⟨hbs, hk, hds⟩ := h
  rw [field, List.append_assoc, hds.trimStart (by omega) hbs]
  exact number_append hds (by omega) (by omega) hr

theorem field_sound (h : field cs = some (n, r)) :
    ∃ k fs, Field k n fs ∧ (k = 2 ∨ NoDigit r) ∧ cs = fs ++ r := by
  obtain ⟨bs, hbs, hcs⟩ := exists_blanks cs
  obtain ⟨k, ds, hds, hleast, hmost, hr, htrim⟩ := number_sound h
  refine ⟨k, bs ++ ds, ⟨hbs, by omega, hds⟩, hr, ?_⟩
  rw [List.append_assoc, ← htrim, ← hcs]

/-- Two digits alone are a field without blanks. -/
theorem Numeral.field {ds : List Char} (h : Numeral 2 n ds) : Field 2 n ds := by
  rw [← List.nil_append ds]
  exact .mk (fun _ hc => nomatch hc) (.inr rfl) h

/-- A field starts with a blank or a digit. -/
theorem Field.start (h : Field k n fs) :
    ∃ c es, fs = c :: es ∧ (isBlank c = true ∨ c.isDigit = true) := by
  obtain @⟨bs, ds, hbs, hk, hds⟩ := h
  cases bs with
  | nil =>
    obtain ⟨c, es, rfl, hc⟩ := hds.start (by omega)
    exact ⟨c, es, rfl, .inr hc⟩
  | cons c bs => exact ⟨c, bs ++ ds, rfl, .inl (hbs c List.mem_cons_self)⟩

theorem Field.ne_nil (h : Field k n fs) : fs ≠ [] := by
  obtain ⟨c, es, rfl, -⟩ := h.start
  exact List.cons_ne_nil c es

/-- Anything else starts no field. -/
theorem field_cons_eq_none {c : Char} (hblank : isBlank c = false) (hdigit : c.isDigit = false) :
    field (c :: r) = none := by
  rw [field, trimStart_cons hblank, number_of_noDigit (noDigit_cons hdigit) (by decide)]

end

/-! ## 3. Years -/

/-- Up to four digits, or a sign and any digits, with blanks before them or without. -/
inductive YearField : Int → List Char → Prop where
  | plain {k n : Nat} {bs ds : List Char} (blanks : ∀ c ∈ bs, isBlank c = true) (least : 1 ≤ k)
    (most : k ≤ 4) (digits : Numeral k n ds) : YearField n (bs ++ ds)
  | plus {k n : Nat} {bs ds : List Char} (blanks : ∀ c ∈ bs, isBlank c = true) (least : 1 ≤ k)
    (digits : Numeral k n ds) : YearField n (bs ++ '+' :: ds)
  | minus {k n : Nat} {bs ds : List Char} (blanks : ∀ c ∈ bs, isBlank c = true) (least : 1 ≤ k)
    (digits : Numeral k n ds) : YearField (-n) (bs ++ '-' :: ds)

section

variable {y : Int} {cs ys r : List Char}

theorem yearField_append (h : YearField y ys) (hr : NoDigit r) :
    yearField (ys ++ r) = some (y, r) := by
  cases h with
  | @plain k n bs ds hbs hleast hmost hds =>
    obtain ⟨c, es, rfl, hc⟩ := hds.start hleast
    have hread : number 1 4 (c :: es ++ r) = some (n, r) :=
      number_append hds hleast hmost (.inr hr)
    rw [yearField, List.append_assoc, hds.trimStart hleast hbs]
    -- a sign that stood there would be the first digit
    split
    case h_1 hsign =>
      rw [(List.cons.inj hsign).1] at hc
      cases hc
    case h_2 hsign =>
      rw [(List.cons.inj hsign).1] at hc
      cases hc
    case h_3 => rw [hread, Option.map_some]
  | @plus k n bs ds hbs hleast hds =>
    have hwidth : ds.length = k := hds.length
    have hread : number 1 (ds ++ r).length (ds ++ r) = some (n, r) :=
      number_append hds hleast (by rw [List.length_append]; omega) (.inr hr)
    rw [yearField, List.append_assoc, List.cons_append, Text.trimStart_append hbs,
      trimStart_cons rfl]
    simp only [hread, Option.map_some]
  | @minus k n bs ds hbs hleast hds =>
    have hwidth : ds.length = k := hds.length
    have hread : number 1 (ds ++ r).length (ds ++ r) = some (n, r) :=
      number_append hds hleast (by rw [List.length_append]; omega) (.inr hr)
    rw [yearField, List.append_assoc, List.cons_append, Text.trimStart_append hbs,
      trimStart_cons rfl]
    simp only [hread, Option.map_some]

theorem yearField_sound (h : yearField cs = some (y, r)) : ∃ ys, YearField y ys ∧ cs = ys ++ r := by
  obtain ⟨bs, hbs, hcs⟩ := exists_blanks cs
  unfold yearField at h
  split at h
  case h_1 rest htrim =>
    obtain ⟨⟨n, r'⟩, hread, heq⟩ := Option.map_eq_some_iff.mp h
    obtain ⟨k, ds, hds, hleast, -, -, rfl⟩ := number_sound hread
    cases heq
    exact ⟨bs ++ '-' :: ds, .minus hbs hleast hds, by rw [hcs, htrim]; simp⟩
  case h_2 rest htrim =>
    obtain ⟨⟨n, r'⟩, hread, heq⟩ := Option.map_eq_some_iff.mp h
    obtain ⟨k, ds, hds, hleast, -, -, rfl⟩ := number_sound hread
    cases heq
    exact ⟨bs ++ '+' :: ds, .plus hbs hleast hds, by rw [hcs, htrim]; simp⟩
  case h_3 =>
    obtain ⟨⟨n, r'⟩, hread, heq⟩ := Option.map_eq_some_iff.mp h
    obtain ⟨k, ds, hds, hleast, hmost, -, htrim⟩ := number_sound hread
    cases heq
    exact ⟨bs ++ ds, .plain hbs hleast hmost hds, by rw [hcs, htrim]; simp⟩

/-- Four digits are a year. -/
theorem Numeral.yearField {n : Nat} {ds : List Char} (h : Numeral 4 n ds) : YearField n ds := by
  rw [← List.nil_append ds]
  exact .plain (fun _ hc => nomatch hc) (by decide) (by decide) h

end

/-! ## 4. Fractions of a second -/

/-- Nothing, or a point and any digits. -/
inductive Fraction : List Char → Prop where
  | absent : Fraction []
  | digits {ds : List Char} (ne_nil : ds ≠ []) (digits : ∀ c ∈ ds, c.isDigit = true) :
    Fraction ('.' :: ds)

section

variable {cs fs r : List Char}

theorem noPoint_nil : ∀ c ∈ ([] : List Char).head?, c ≠ '.' := by
  intro c hc
  cases hc

theorem fraction_append (h : Fraction fs) (hr : NoDigit r) (hpoint : ∀ c ∈ r.head?, c ≠ '.') :
    fraction (fs ++ r) = some r := by
  cases h with
  | absent =>
    unfold fraction
    split
    case h_1 hcons => exact absurd rfl (hpoint '.' (by rw [← List.nil_append r, hcons]; rfl))
    case h_2 => rfl
  | @digits ds hne hds =>
    have hlength : 0 < ds.length := List.length_pos_iff.mpr hne
    have hread : number 1 (ds ++ r).length (ds ++ r) = some (Nat.ofDigitChars 10 ds 0, r) :=
      number_append ⟨hds, rfl, rfl⟩ hlength (by rw [List.length_append]; omega) (.inr hr)
    rw [List.cons_append, fraction, digits, hread, Option.map_some]

theorem fraction_sound (h : fraction cs = some r) : ∃ fs, Fraction fs ∧ cs = fs ++ r := by
  unfold fraction at h
  split at h
  case h_1 rest =>
    obtain ⟨⟨n, r'⟩, hread, heq⟩ := Option.map_eq_some_iff.mp h
    obtain ⟨k, ds, hds, hleast, -, -, rfl⟩ := number_sound hread
    cases heq
    have hne : ds ≠ [] := List.ne_nil_of_length_pos (by rw [hds.length]; exact hleast)
    exact ⟨'.' :: ds, .digits hne hds.digits, rfl⟩
  case h_2 =>
    cases h
    exact ⟨[], .absent, rfl⟩

theorem Fraction.noDigit (h : Fraction fs) : NoDigit fs := by
  cases h with
  | absent => exact noDigit_nil
  | digits _ _ => exact noDigit_cons rfl

end

end ReceiptPrinting.WallClock
