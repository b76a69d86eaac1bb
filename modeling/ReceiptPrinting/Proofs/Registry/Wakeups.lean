import ReceiptPrinting.Proofs.Registry.Accounts

/-!
# No notification is lost

A waiter looks whether anyone is there and then sleeps; between the two, the last session may leave.
The waiter hears of it all the same, for it has made itself known before it looked.

* `Waiter.Step`: all that a move can do to the waiter at an index, its own move or another's;
* `waiter_apply`, `waiter_origin`: every move of the registry does one of these;
* `Told`: where no session is open, no one sleeps who has not been notified; `told_after`: every
  move keeps this, hence every run does;
* `others_run`: what others do shows at a waiter by the notification alone;
* **`no_wakeup_lost`**: who returns has looked and seen no one; who sleeps is notified as soon as no
  session is open, also after it has woken up in vain.
-/

namespace ReceiptPrinting

namespace Registry

/-! ## 1. What a move does to a waiter -/

/-- The waiter that makes a move, if one does. -/
def Move.waiter? : Move → Option Nat
  | .arm i | .look i | .sleep i | .wake i => some i
  | .register _ | .leave _ | .closeAll | .wait => none

/-- With the move a session leaves, and none is open after it. -/
def Empties (r : Registry) : Move → Prop
  | .leave id => (r.remove id).count = 0
  | .register _ | .closeAll | .wait | .arm _ | .look _ | .sleep _ | .wake _ => False

end Registry

open Registry (Move after)

/-- **What a move does to the waiter at an index**: the waiter after the move. -/
inductive Waiter.Step (r : Registry) (i : Nat) (w : Waiter) : Move → Waiter → Prop where
  /-- Nothing: the move is another's, and someone is still there or no one leaves. -/
  | rest (m : Move) (hm : m.waiter? ≠ some i) (he : ¬ r.Empties m) : Step r i w m w
  | notified (m : Move) (he : r.Empties m) : Step r i w m w.notify
  | arm : Step r i w (.arm i) w.arm
  | look : Step r i w (.look i) (w.look r.count)
  | sleep : Step r i w (.sleep i) w.sleep
  | wake : Step r i w (.wake i) w.wake

namespace Registry

section

variable {r : Registry} {m : Move} {i : Nat} {w : Waiter}

/-- The own step of a waiter shows at its index only. -/
theorem waiter_stepWaiter (r : Registry) (j i : Nat) (f : Waiter → Waiter) :
    (r.stepWaiter j f).waiters[i]? = (r.waiters[i]?).map fun w => if j = i then f w else w :=
  List.getElem?_modify ..

theorem stepWaiter_self (h : r.waiters[i]? = some w) (f : Waiter → Waiter) :
    (r.stepWaiter i f).waiters[i]? = some (f w) := by
  rw [waiter_stepWaiter, h, Option.map_some, if_pos rfl]

/-- A session that leaves shows at all waiters alike, if none is open after it. -/
theorem waiter_leave (r : Registry) (id i : Nat) :
    ((r.remove id).count = 0 → (r.remove id).waiters[i]? = (r.waiters[i]?).map Waiter.notify) ∧
    ((r.remove id).count ≠ 0 → (r.remove id).waiters[i]? = r.waiters[i]?) := by
  have hc : (r.entries.filter (·.id != id)).isEmpty = true ↔ (r.remove id).count = 0 :=
    List.isEmpty_iff_length_eq_zero
  refine ⟨fun h => ?_, fun h => ?_⟩
  · simp only [remove, if_pos (hc.mpr h), List.getElem?_map]
  · simp only [remove, if_neg (mt hc.mp h)]

/-- **Every move does one of these things to a waiter that is there.** -/
theorem waiter_apply (m : Move) (h : r.waiters[i]? = some w) :
    ∃ w', (r.apply m).waiters[i]? = some w' ∧ Waiter.Step r i w m w' := by
  have own (j : Nat) (f : Waiter → Waiter) (m : Move) (hm : m.waiter? = some j)
      (he : ¬ r.Empties m) (hs : j = i → Waiter.Step r i w m (f w)) :
      ∃ w', (r.stepWaiter j f).waiters[i]? = some w' ∧ Waiter.Step r i w m w' := by
    refine ⟨if j = i then f w else w, by rw [waiter_stepWaiter, h]; rfl, ?_⟩
    by_cases hj : j = i
    · rw [if_pos hj]
      exact hs hj
    · rw [if_neg hj]
      exact .rest m (by rw [hm]; simpa using hj) he
  cases m with
  | register id => exact ⟨w, h, .rest _ nofun nofun⟩
  | closeAll => exact ⟨w, h, .rest _ nofun nofun⟩
  | leave id =>
    by_cases he : (r.remove id).count = 0
    · exact ⟨w.notify, by rw [apply, (waiter_leave r id i).1 he, h]; rfl, .notified _ he⟩
    · exact ⟨w, by rw [apply, (waiter_leave r id i).2 he, h], .rest _ nofun he⟩
  | wait =>
    have hi : i < r.waiters.length := (List.getElem?_eq_some_iff.mp h).1
    exact ⟨w, (List.getElem?_append_left hi).trans h, .rest _ nofun nofun⟩
  | arm j => exact own j Waiter.arm _ rfl nofun fun hj => hj ▸ .arm
  | look j => exact own j (Waiter.look r.count) _ rfl nofun fun hj => hj ▸ .look
  | sleep j => exact own j Waiter.sleep _ rfl nofun fun hj => hj ▸ .sleep
  | wake j => exact own j Waiter.wake _ rfl nofun fun hj => hj ▸ .wake

/-- A waiter that is there after a move was there before it, or has just started to wait. -/
theorem fresh_of_none {w' : Waiter} (h : (r.apply m).waiters[i]? = some w')
    (hn : r.waiters[i]? = none) : w' = .fresh := by
  cases m with
  | register id => cases hn.symm.trans h
  | closeAll => cases hn.symm.trans h
  | leave id =>
    by_cases he : (r.remove id).count = 0
    · rw [apply, (waiter_leave r id i).1 he, hn] at h
      cases h
    · rw [apply, (waiter_leave r id i).2 he, hn] at h
      cases h
  | wait =>
    have hi : r.waiters.length ≤ i := List.getElem?_eq_none_iff.mp hn
    have hm : w' ∈ ([.fresh] : List Waiter) :=
      List.mem_of_getElem? ((List.getElem?_append_right hi).symm.trans h)
    exact List.mem_singleton.mp hm
  | arm j | look j | sleep j | wake j =>
    rw [apply, waiter_stepWaiter, hn] at h
    cases h

/-- **Where a waiter comes from.** -/
theorem waiter_origin {w' : Waiter} (h : (r.apply m).waiters[i]? = some w') :
    w' = .fresh ∨ ∃ w, r.waiters[i]? = some w ∧ Waiter.Step r i w m w' := by
  cases hw : r.waiters[i]? with
  | none => exact .inl (fresh_of_none h hw)
  | some w =>
    obtain ⟨u, hu, hs⟩ := waiter_apply m hw
    obtain rfl : u = w' := Option.some.inj (hu.symm.trans h)
    exact .inr ⟨w, rfl, hs⟩

/-- Where no session is open after a move, none was before it, or the last one leaves with it. -/
theorem count_of_apply (h : (r.apply m).count = 0) : r.count = 0 ∨ r.Empties m := by
  cases m with
  | register id =>
    have hl : (r.register id).count = r.count + 1 := List.length_append
    rw [apply, hl] at h
    cases h
  | leave id => exact .inr h
  | closeAll => exact .inl ((List.length_map _).symm.trans h)
  | wait | arm j | look j | sleep j | wake j => exact .inl h

/-! ## 2. Who sleeps where no session is open -/

end

end Registry

namespace Waiter

/-- It has seen someone, and has not been notified since it made itself known. -/
def isUnmarked : Waiter → Bool
  | seen marked | asleep marked => !marked
  | fresh | armed _ | returned => false

theorem isUnmarked_notify (w : Waiter) : w.notify.isUnmarked = false := by
  cases w <;> rfl

theorem isUnmarked_arm (w : Waiter) : w.arm.isUnmarked = w.isUnmarked := by
  cases w <;> rfl

theorem isUnmarked_look_zero (w : Waiter) : (w.look 0).isUnmarked = w.isUnmarked := by
  cases w <;> rfl

theorem isUnmarked_sleep (w : Waiter) : w.sleep.isUnmarked = w.isUnmarked := by
  cases w <;> rfl

/-- Only a waiter that is marked wakes up. -/
theorem isUnmarked_wake (w : Waiter) : w.wake.isUnmarked = w.isUnmarked := by
  cases w with
  | asleep marked => cases marked <;> rfl
  | fresh | armed marked | seen marked | returned => rfl

end Waiter

namespace Registry

section

variable {r : Registry} {m : Move} {i : Nat} {w : Waiter}

/-- A waiter that is unmarked after a step was so before, unless it has seen someone just now. And
    the last session has not left with this step. -/
theorem unmarked_step {w' : Waiter} (h : Waiter.Step r i w m w') (hw : w'.isUnmarked = true) :
    ¬ r.Empties m ∧ (w.isUnmarked = true ∨ r.count ≠ 0) := by
  cases h with
  | rest _ _ he => exact ⟨he, .inl hw⟩
  | notified _ _ =>
    rw [Waiter.isUnmarked_notify] at hw
    cases hw
  | arm => exact ⟨not_false, .inl (w.isUnmarked_arm.symm.trans hw)⟩
  | look =>
    refine ⟨not_false, ?_⟩
    by_cases hc : r.count = 0
    · rw [hc, Waiter.isUnmarked_look_zero] at hw
      exact .inl hw
    · exact .inr hc
  | sleep => exact ⟨not_false, .inl (w.isUnmarked_sleep.symm.trans hw)⟩
  | wake => exact ⟨not_false, .inl (w.isUnmarked_wake.symm.trans hw)⟩

/-- **Where no session is open, everyone has been notified** who has seen someone and sleeps or is
    about to. -/
def Told (r : Registry) : Prop :=
  r.count = 0 → ∀ (i : Nat) (w : Waiter), r.waiters[i]? = some w → w.isUnmarked ≠ true

theorem told_empty : Told empty := fun _ _ _ h => nomatch h

/-- **Every move keeps it.** -/
theorem told_apply (hr : Told r) (m : Move) : Told (r.apply m) := by
  intro hc i w' h hw
  rcases waiter_origin h with rfl | ⟨w, hi, hs⟩
  · cases hw
  · obtain ⟨he, hbefore⟩ := unmarked_step hs hw
    -- no one was there before the move either, for no one has left with it
    have h0 : r.count = 0 := (count_of_apply hc).resolve_right he
    exact hbefore.elim (hr h0 i w hi) fun hn => hn h0

theorem told_applyAll (hr : Told r) (ms : List Move) : Told (r.applyAll ms) := by
  induction ms generalizing r with
  | nil => exact hr
  | cons m ms ih => exact ih (told_apply hr m)

theorem told_after (ms : List Move) : Told (after ms) := told_applyAll told_empty ms

/-! ## 3. Who returns -/

/-- **A waiter returns when it looks and no session is open**, and by no other move. -/
theorem returned_step (h : Waiter.Step r i w m .returned) :
    w = .returned ∨ (m = .look i ∧ r.count = 0 ∧ ∃ marked, w = .armed marked) := by
  generalize hw : Waiter.returned = w' at h
  cases h with
  | rest _ _ _ => exact .inl rfl
  | notified _ _ | arm | sleep =>
    cases w with
    | fresh | armed b | seen b | asleep b => cases hw
    | returned => exact .inl rfl
  | wake =>
    cases w with
    | asleep b => cases b <;> cases hw
    | fresh | armed b | seen b => cases hw
    | returned => exact .inl rfl
  | look =>
    cases w with
    | armed b =>
      by_cases hc : r.count = 0
      · exact .inr ⟨rfl, hc, b, rfl⟩
      · rw [Waiter.look, if_neg hc] at hw
        cases hw
    | fresh | seen b | asleep b => cases hw
    | returned => exact .inl rfl

theorem returned_applyAll {ms : List Move} (h : (r.applyAll ms).waiters[i]? = some .returned) :
    r.waiters[i]? = some .returned ∨ ∃ before later marked, ms = before ++ .look i :: later ∧
      (r.applyAll before).waiters[i]? = some (.armed marked) ∧ (r.applyAll before).count = 0 := by
  induction ms generalizing r with
  | nil => exact .inl h
  | cons m ms ih =>
    rcases ih h with h | ⟨before, later, b, rfl, hb, hc⟩
    · rcases waiter_origin h with hf | ⟨w, hi, hs⟩
      · cases hf
      · rcases returned_step hs with rfl | ⟨rfl, hc, b, rfl⟩
        · exact .inl hi
        · exact .inr ⟨[], ms, b, rfl, hi, hc⟩
    · exact .inr ⟨m :: before, later, b, rfl, hb, hc⟩

/-! ## 4. What the others do meanwhile -/

/-- None of the moves is the waiter's own. -/
def Others (i : Nat) (ms : List Move) : Prop := ∀ m ∈ ms, m.waiter? ≠ some i

/-- With one of the moves the last session leaves. -/
def EmptiesAmong (r : Registry) (ms : List Move) : Prop :=
  ∃ before m later, ms = before ++ m :: later ∧ (r.applyAll before).Empties m

@[simp] theorem applyAll_nil (r : Registry) : r.applyAll [] = r := rfl

@[simp] theorem applyAll_cons (r : Registry) (m : Move) (ms : List Move) :
    r.applyAll (m :: ms) = (r.apply m).applyAll ms := rfl

@[simp] theorem applyAll_append (r : Registry) (ms ns : List Move) :
    r.applyAll (ms ++ ns) = (r.applyAll ms).applyAll ns := List.foldl_append

theorem not_emptiesAmong_nil : ¬ r.EmptiesAmong [] := by
  rintro ⟨before, m, later, he, -⟩
  exact List.append_ne_nil_of_right_ne_nil before (List.cons_ne_nil _ _) he.symm

theorem emptiesAmong_cons {ms : List Move} :
    r.EmptiesAmong (m :: ms) ↔ r.Empties m ∨ (r.apply m).EmptiesAmong ms := by
  constructor
  · rintro ⟨before, n, later, he, hn⟩
    cases before with
    | nil =>
      cases he
      exact .inl hn
    | cons x before =>
      cases he
      exact .inr ⟨before, n, later, rfl, hn⟩
  · rintro (h | ⟨before, n, later, rfl, hn⟩)
    · exact ⟨[], m, ms, rfl, h⟩
    · exact ⟨m :: before, n, later, rfl, hn⟩

theorem emptiesAmong_append {ms ns : List Move} :
    r.EmptiesAmong (ms ++ ns) ↔ r.EmptiesAmong ms ∨ (r.applyAll ms).EmptiesAmong ns := by
  induction ms generalizing r with
  | nil => exact ⟨.inr, fun h => h.resolve_left not_emptiesAmong_nil⟩
  | cons m ms ih =>
    rw [List.cons_append, emptiesAmong_cons, emptiesAmong_cons, ih, or_assoc]
    rfl

/-- **What others do shows at a waiter by the notification alone**: it is marked as soon as the last
    session leaves, and stays so. `k` is what it is at, with its mark. -/
theorem others_run {ms : List Move} {marked : Bool} (k : Bool → Waiter)
    (hk : ∀ b, (k b).notify = k true) (h : r.waiters[i]? = some (k marked)) (ho : Others i ms) :
    ∃ b, (r.applyAll ms).waiters[i]? = some (k b) ∧
      (b = true ↔ marked = true ∨ r.EmptiesAmong ms) := by
  induction ms generalizing r marked with
  | nil => exact ⟨marked, h, .inl, fun h => h.resolve_right not_emptiesAmong_nil⟩
  | cons m ms ih =>
    have hm : m.waiter? ≠ some i := ho m List.mem_cons_self
    have hms : Others i ms := fun n hn => ho n (List.mem_cons_of_mem _ hn)
    obtain ⟨w', hw', hs⟩ := waiter_apply m h
    obtain ⟨b, hb, hd⟩ : ∃ b, w' = k b ∧ (b = true ↔ marked = true ∨ r.Empties m) := by
      cases hs with
      | rest _ _ he => exact ⟨marked, rfl, .inl, fun h => h.resolve_right he⟩
      | notified _ he => exact ⟨true, hk marked, fun _ => .inr he, fun _ => rfl⟩
      | arm | look | sleep | wake => exact absurd rfl hm
    obtain ⟨b', hb', hd'⟩ := ih (hw'.trans (congrArg some hb)) hms
    exact ⟨b', hb', by rw [hd', hd, emptiesAmong_cons, or_assoc]⟩

/-- **A waiter that has looked and seen someone sleeps, and is marked exactly if the last session
    has left since it made itself known**: before it looked, before it slept, or after. -/
theorem sleeps_marked {b c d : List Move} (h : r.waiters[i]? = some (.armed false))
    (hb : Others i b) (hc : Others i c) (hd : Others i d) (hn : (r.applyAll b).count ≠ 0) :
    ∃ marked, (r.applyAll (b ++ .look i :: c ++ .sleep i :: d)).waiters[i]? =
        some (.asleep marked) ∧
      (marked = true ↔ r.EmptiesAmong (b ++ .look i :: c ++ .sleep i :: d)) := by
  obtain ⟨m₁, h₁, e₁⟩ := others_run .armed (fun _ => rfl) h hb
  have look : ((r.applyAll b).apply (.look i)).waiters[i]? = some (.seen m₁) :=
    (stepWaiter_self h₁ _).trans (congrArg some (if_neg hn))
  obtain ⟨m₂, h₂, e₂⟩ := others_run .seen (fun _ => rfl) look hc
  have sleep : ((((r.applyAll b).apply (.look i)).applyAll c).apply (.sleep i)).waiters[i]? =
      some (.asleep m₂) := stepWaiter_self h₂ _
  obtain ⟨m₃, h₃, e₃⟩ := others_run .asleep (fun _ => rfl) sleep hd
  have hrun : r.applyAll (b ++ .look i :: c ++ .sleep i :: d) =
      ((((r.applyAll b).apply (.look i)).applyAll c).apply (.sleep i)).applyAll d := by
    rw [List.append_assoc, applyAll_append, List.cons_append, applyAll_cons, applyAll_append,
      applyAll_cons]
  refine ⟨m₃, by rw [hrun]; exact h₃, ?_⟩
  -- neither looking nor falling asleep makes a session leave
  have hlook : ¬ (r.applyAll b).Empties (.look i) := nofun
  have hsleep : ¬ (((r.applyAll b).apply (.look i)).applyAll c).Empties (.sleep i) := nofun
  rw [e₃, e₂, e₁, List.append_assoc, emptiesAmong_append, List.cons_append, emptiesAmong_cons,
    emptiesAmong_append, emptiesAmong_cons]
  simp only [Bool.false_eq_true, hlook, hsleep, false_or, or_assoc]

/-- A waiter that looks where no session is open returns, whether it is marked or not. -/
theorem looks_returned {b : List Move} (h : r.waiters[i]? = some (.armed false))
    (hb : Others i b) (h0 : (r.applyAll b).count = 0) :
    (r.applyAll (b ++ [.look i])).waiters[i]? = some .returned := by
  obtain ⟨m, hm, -⟩ := others_run .armed (fun _ => rfl) h hb
  rw [applyAll_append]
  exact (stepWaiter_self hm _).trans (congrArg some (if_pos h0))

/-- A notified waiter wakes up and makes itself known again, whatever others do between. Its mark is
    used up. -/
theorem wakes_armed {a : List Move} (h : r.waiters[i]? = some (.asleep true)) (ha : Others i a) :
    (r.applyAll (.wake i :: a ++ [.arm i])).waiters[i]? = some (.armed false) := by
  have wake : (r.apply (.wake i)).waiters[i]? = some .fresh := stepWaiter_self h _
  -- whether the fresh waiter counts as marked does not matter
  obtain ⟨m, hm, -⟩ :=
    @others_run (r.apply (.wake i)) i a false (fun _ => .fresh) (fun _ => rfl) wake ha
  rw [List.cons_append, applyAll_cons, applyAll_append]
  exact stepWaiter_self hm _

end

/-! ## 5. No notification is lost -/

/-- **What waiters can rely on after moves**, whoever makes them and in whatever order. -/
structure LosesNoWakeup (ms : List Move) : Prop where
  /-- Who has returned has looked, and no session was open then. -/
  returns : ∀ i : Nat, (after ms).waiters[i]? = some .returned →
    ∃ before later marked, ms = before ++ .look i :: later ∧
      (after before).waiters[i]? = some (.armed marked) ∧ (after before).count = 0
  /-- Where no session is open, whoever sleeps has been notified, and returns when it goes on. -/
  notified : (after ms).count = 0 → ∀ (i : Nat) (marked : Bool),
    (after ms).waiters[i]? = some (.asleep marked) → marked = true ∧
      ((after ms).stepWaiter i (Waiter.poll (after ms).count)).waiters[i]? = some .returned
  /-- Who has been notified wakes up and makes itself known again. When it then looks, it returns if
      no session is open; else it sleeps again, and is notified exactly if the last session leaves
      at any moment from when it made itself known. Others may do anything between its moves. -/
  startsOver : ∀ (i : Nat) (a b : List Move), (after ms).waiters[i]? = some (.asleep true) →
    Others i a → Others i b → ∀ known, known = after (ms ++ (.wake i :: a ++ [.arm i])) →
    ((known.applyAll b).count = 0 →
      (known.applyAll (b ++ [.look i])).waiters[i]? = some .returned) ∧
    ((known.applyAll b).count ≠ 0 → ∀ c d, Others i c → Others i d →
      ∃ marked, (known.applyAll (b ++ .look i :: c ++ .sleep i :: d)).waiters[i]? =
          some (.asleep marked) ∧
        (marked = true ↔ known.EmptiesAmong (b ++ .look i :: c ++ .sleep i :: d)))

/-- **No notification is lost**, whatever moves sessions and waiters make, and in whatever order. -/
theorem no_wakeup_lost (ms : List Move) : LosesNoWakeup ms := by
  constructor
  case returns =>
    intro i h
    rcases returned_applyAll h with h | h
    · cases h
    · exact h
  case notified =>
    intro h0 i marked h
    have hm : marked = true := by
      cases marked with
      | true => rfl
      | false => exact absurd rfl (told_after ms h0 i _ h)
    refine ⟨hm, ?_⟩
    rw [h0, stepWaiter_self h, hm]
    rfl
  case startsOver =>
    rintro i a b h ha hb known rfl
    have hk : (after (ms ++ (.wake i :: a ++ [.arm i]))).waiters[i]? = some (.armed false) := by
      rw [after_append]
      exact wakes_armed h ha
    exact ⟨looks_returned hk hb, fun hn c d hc hd => sleeps_marked hk hb hc hd hn⟩

/-- The first session leaves before the waiter sleeps, and a second one has come before it wakes. -/
example :
    let comesAndGoes : List Move := [.register 1, .wait, .arm 0, .look 0, .leave 1, .register 2,
      .sleep 0, .wake 0, .arm 0, .look 0, .sleep 0]
    (after comesAndGoes).waiters = [.asleep false] ∧
      (after (comesAndGoes ++ [.leave 2])).waiters = [.asleep true] := by decide

end Registry

end ReceiptPrinting
