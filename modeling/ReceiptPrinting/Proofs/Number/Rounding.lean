import Mathlib.Algebra.Order.Field.Rat
import Mathlib.Data.Rat.Cast.Order
import Mathlib.Tactic.Linarith
import ReceiptPrinting.Number.Binary64

/-!
# The nearest whole number

A number is rounded to the whole number that is nearest to it, and of two that are as near to the
one farther from zero. There is no other such number (`NearestAway.unique`); rounding keeps the
order (`NearestAway.mono`), and it keeps whole numbers (`nearestAway_intCast`).

* **`nearestAway_roundHalfUp`**: this is how fractions are rounded.
-/

namespace ReceiptPrinting

/-- No whole number is nearer to `x` than `n`, and none that is as near is farther from zero. -/
def NearestAway (x : ℚ) (n : ℤ) : Prop :=
  ∀ k : ℤ, |x - n| ≤ |x - k| ∧ (|x - k| = |x - n| → |k| ≤ |n|)

/-- The nearer of two numbers is on the same side of the point between them. -/
theorem add_le_two_mul_of_nearer {x a b : ℚ} (hab : a < b) (h : |x - b| ≤ |x - a|) :
    a + b ≤ 2 * x := by
  rcases abs_cases (x - b) with ⟨hb, hsign⟩ | ⟨hb, hsign⟩ <;>
    rcases abs_cases (x - a) with ⟨ha, hsign'⟩ | ⟨ha, hsign'⟩ <;> linarith

theorem two_mul_le_add_of_nearer {x a b : ℚ} (hab : a < b) (h : |x - a| ≤ |x - b|) :
    2 * x ≤ a + b := by
  rcases abs_cases (x - b) with ⟨hb, hsign⟩ | ⟨hb, hsign⟩ <;>
    rcases abs_cases (x - a) with ⟨ha, hsign'⟩ | ⟨ha, hsign'⟩ <;> linarith

namespace NearestAway

variable {x y : ℚ} {n m : ℤ}

/-- **Rounding keeps the order.** -/
theorem mono (hx : NearestAway x n) (hy : NearestAway y m) (h : x ≤ y) : n ≤ m := by
  by_contra hlt
  have hmn : (m : ℚ) < n := by exact_mod_cast not_le.mp hlt
  -- both numbers would be half way between `m` and `n`, which would be as far from zero
  have hle : (m : ℚ) + n ≤ 2 * x := add_le_two_mul_of_nearer hmn (hx m).1
  have hge : 2 * y ≤ (m : ℚ) + n := two_mul_le_add_of_nearer hmn (hy n).1
  have hxm : x - m = n - x := by linarith
  have hyn : y - n = m - y := by linarith
  have htie : |x - m| = |x - n| := by rw [hxm, abs_sub_comm]
  have htie' : |y - n| = |y - m| := by rw [hyn, abs_sub_comm]
  have habs : |m| = |n| := le_antisymm ((hx m).2 htie) ((hy n).2 htie')
  rcases abs_eq_abs.mp habs with heq | heq
  · exact absurd heq (by rintro rfl; exact hlt le_rfl)
  · -- the point between them is zero, which is nearer to itself
    have hzero : x = 0 := by
      rw [heq] at hxm
      push_cast at hxm
      linarith
    have hn := (hx 0).1
    rw [hzero] at hn
    have hn0 : (n : ℚ) = 0 := by simpa using hn
    rw [heq] at hmn
    push_cast at hmn
    linarith

/-- **There is one nearest number.** -/
theorem unique (hn : NearestAway x n) (hm : NearestAway x m) : n = m :=
  le_antisymm (hn.mono hm le_rfl) (hm.mono hn le_rfl)

theorem neg (h : NearestAway x n) : NearestAway (-x) (-n) := by
  intro k
  have hdist (j : ℤ) : |-x - (j : ℚ)| = |x - ((-j : ℤ) : ℚ)| := by
    rw [← abs_neg, neg_sub, sub_neg_eq_add, add_comm, Int.cast_neg, sub_neg_eq_add]
  have hk := h (-k)
  rw [hdist, hdist, neg_neg]
  rwa [abs_neg] at hk ⊢

end NearestAway

/-- A whole number is kept. -/
theorem nearestAway_intCast (n : ℤ) : NearestAway n n := by
  intro k
  rw [sub_self, abs_zero]
  refine ⟨abs_nonneg _, fun h => ?_⟩
  have heq : (n : ℚ) = k := sub_eq_zero.mp (abs_eq_zero.mp h)
  rw [Int.cast_injective heq]

/-- What lies in the half-open unit around a number that is not negative is rounded to it. -/
theorem nearestAway_of_mem {x : ℚ} {n : ℕ} (hx : 0 ≤ x) (lower : (n : ℚ) ≤ x + 1 / 2)
    (upper : x < n + 1 / 2) : NearestAway x n := by
  intro k
  rw [Int.cast_natCast]
  rcases lt_trichotomy k n with hk | rfl | hk
  · have hk' : (k : ℚ) + 1 ≤ n := by exact_mod_cast hk
    have hdist : |x - n| ≤ 1 / 2 := abs_le.mpr ⟨by linarith, by linarith⟩
    have hfar : 1 / 2 ≤ x - k := by linarith
    rw [abs_of_nonneg (by linarith : 0 ≤ x - k)]
    refine ⟨hdist.trans hfar, fun htie => ?_⟩
    -- only the number below is as near
    have hbelow : (n : ℚ) ≤ k + 1 := by linarith
    have hbelow : (n : ℤ) ≤ k + 1 := by exact_mod_cast hbelow
    have hpos : 0 ≤ k ∨ (n = 0 ∧ k = -1) := by omega
    rcases hpos with hpos | ⟨rfl, rfl⟩
    · rw [abs_of_nonneg hpos]
      exact hk.le.trans (le_abs_self _)
    · push_cast at *
      linarith
  · exact ⟨le_rfl, fun _ => le_rfl⟩
  · have hk' : (n : ℚ) + 1 ≤ k := by exact_mod_cast hk
    have hnear : |x - n| ≤ 1 / 2 := abs_le.mpr ⟨by linarith, by linarith⟩
    have hfar : 1 / 2 < k - x := by linarith
    rw [abs_sub_comm x k, abs_of_pos (by linarith : 0 < k - x)]
    exact ⟨hnear.trans hfar.le, fun htie => absurd htie (by linarith)⟩

/-- **A fraction is rounded to the nearest whole number, halves up.** -/
theorem nearestAway_roundHalfUp (num den : ℕ) (hden : 0 < den) :
    NearestAway (num / den) (Ratio.roundHalfUp ⟨num, den⟩) := by
  have hpos : (0 : ℚ) < den := by exact_mod_cast hden
  have hdiv := Nat.div_add_mod (2 * num + den) (2 * den)
  have hmod := Nat.mod_lt (2 * num + den) (by omega : 0 < 2 * den)
  have hround : Ratio.roundHalfUp ⟨num, den⟩ = (2 * num + den) / (2 * den) := rfl
  rw [hround]
  generalize (2 * num + den) / (2 * den) = q at hdiv
  have hlower : 2 * den * q ≤ 2 * num + den := by omega
  have hupper : 2 * num + den < 2 * den * q + 2 * den := by omega
  have hlower : 2 * den * (q : ℚ) ≤ 2 * num + den := by exact_mod_cast hlower
  have hupper : 2 * (num : ℚ) + den < 2 * den * q + 2 * den := by exact_mod_cast hupper
  refine nearestAway_of_mem (div_nonneg num.cast_nonneg hpos.le) ?_ ?_
  · rw [div_add' _ _ _ hpos.ne', le_div_iff₀ hpos]
    linarith
  · rw [div_lt_iff₀ hpos]
    linarith

end ReceiptPrinting
