import ReceiptPrinting.Registry

/-!
# What each operation does to an entry

`closing?` is the view that a session has of the registry: whether it has been asked to close, or
`none` where it has no entry.

* `closing?_register`, `closing?_closeAll`, `closing?_remove`: the three operations through this
  view; waiting does not show in it;
* `poll_eq_returned`, `waiter_remove`: a waiter returns only when it has seen that no session is
  open, and a session that leaves does not make it return.
-/

namespace ReceiptPrinting

namespace Registry

/-! ## 1. Entries -/

/-- A session that registers under a new id starts as the registry is: asked to close exactly if
    every session has been. The others do not notice. -/
theorem closing?_register {r : Registry} {id : Nat} (h : r.closing? id = none) (i : Nat) :
    (r.register id).closing? i = if i = id then some r.closed else r.closing? i := by
  unfold closing? register
  rw [List.find?_append]
  by_cases hi : i = id
  · subst hi
    have hn : r.entries.find? (·.id == i) = none := Option.map_eq_none_iff.mp h
    rw [if_pos rfl, hn]
    simp
  · have hf : ([⟨id, r.closed⟩] : List Entry).find? (·.id == i) = none := by
      rw [List.find?_singleton, if_neg]
      simpa using Ne.symm hi
    rw [if_neg hi, hf, Option.or_none]

/-- Every session that is there has been asked to close. -/
@[simp] theorem closing?_closeAll (r : Registry) (i : Nat) :
    r.closeAll.closing? i = (r.closing? i).map fun _ => true := by
  simp only [closing?, closeAll, List.find?_map, Option.map_map]
  rfl

/-- Only the session that leaves loses its entry. -/
theorem closing?_remove (r : Registry) (i id : Nat) :
    (r.remove id).closing? i = if i = id then none else r.closing? i := by
  unfold closing? remove
  by_cases h : i = id
  · have hn : (r.entries.filter (·.id != id)).find? (·.id == i) = none := by
      rw [List.find?_eq_none]
      intro e he
      have := (List.mem_filter.mp he).2
      simpa [h] using this
    rw [if_pos h, hn]
    rfl
  · rw [if_neg h, List.find?_filter]
    congr 2
    funext e
    by_cases he : e.id = i
    · simp [he, h]
    · simp [he]

@[simp] theorem closing?_wait (r : Registry) (i : Nat) : r.wait.closing? i = r.closing? i := rfl

@[simp] theorem closing?_stepWaiter (r : Registry) (k i : Nat) (f : Waiter → Waiter) :
    (r.stepWaiter k f).closing? i = r.closing? i := rfl

/-- When no session is counted, none has an entry. -/
theorem closing?_eq_none_of_count {r : Registry} (h : r.count = 0) (i : Nat) :
    r.closing? i = none := by
  have he : r.entries = [] := List.eq_nil_of_length_eq_zero h
  simp only [closing?, he]
  rfl

end Registry

/-! ## 2. Waiters -/

namespace Waiter

/-- **A waiter that returns has seen that no session is open.** -/
theorem poll_eq_returned {n : Nat} {w : Waiter} (hw : w ≠ returned) (h : poll n w = returned) :
    n = 0 := by
  by_cases hn : n = 0
  · exact hn
  · cases w with
    | fresh => simp [poll, wake, arm, look, sleep, hn] at h
    | armed m => simp [poll, wake, arm, look, sleep, hn] at h
    | seen m => simp [poll, wake, arm, look, sleep] at h
    | asleep m => cases m <;> simp [poll, wake, arm, look, sleep, hn] at h
    | returned => exact absurd rfl hw

/-- A notification makes no one return; it only wakes. -/
theorem notify_ne_returned {w : Waiter} (hw : w ≠ returned) : w.notify ≠ returned := by
  cases w with
  | returned => exact absurd rfl hw
  | fresh | armed m | seen m | asleep m => simp [notify]

theorem hasReturned_iff {w : Waiter} : w.hasReturned = true ↔ w = returned := by
  cases w <;> simp [hasReturned]

end Waiter

/-- A session that leaves does not let anyone go who waits. -/
theorem Registry.waiter_remove {r : Registry} {i : Nat} {w : Waiter} (id : Nat)
    (h : r.waiters[i]? = some w) (hw : w ≠ .returned) :
    ∃ w', (r.remove id).waiters[i]? = some w' ∧ w' ≠ .returned := by
  unfold remove
  by_cases hl : (r.entries.filter (·.id != id)).isEmpty
  · refine ⟨w.notify, ?_, Waiter.notify_ne_returned hw⟩
    simp only [if_pos hl, List.getElem?_map, h, Option.map_some]
  · refine ⟨w, ?_, hw⟩
    simp only [if_neg hl, h]

end ReceiptPrinting
