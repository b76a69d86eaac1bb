import ReceiptPrinting.Proofs.Registry.Wakeups
import ReceiptPrinting.Proofs.Server.Coherence

/-!
# The registry of a server that runs

Every event makes moves in the registry, or none. So what holds of the registry after any moves
holds in every state of a server: it keeps account of the sessions, and no notification is lost.

* `moves`: the moves that an event makes; `registry_step`: the registry after an event is the one
  after its moves;
* `registry_of_reaches`: the registry of a server is one after moves, in which each session has
  registered under an id of its own;
* **`clients_of_reaches`**: the sessions that are counted are those that have begun and have not
  left;
* **`look_stops`**: a server that waits stops as soon as it looks, if no session is open.
-/

namespace ReceiptPrinting

open Registry (Move after registered)

/-! ## 1. Waiters between events -/

/-- Going on until it returns or sleeps, a waiter makes its moves with no one else's between. -/
theorem Registry.stepWaiter_poll (r : Registry) (i : Nat) :
    r.stepWaiter i (Waiter.poll r.count) = r.applyAll [.wake i, .arm i, .look i, .sleep i] := by
  simp only [applyAll_cons, applyAll_nil, apply, stepWaiter, List.modify_modify_eq]
  rfl

namespace Waiter

/-- Between events, a waiter is not about to do anything. -/
def atRest : Waiter → Bool
  | fresh | asleep _ | returned => true
  | armed _ | seen _ => false

theorem atRest_notify {w : Waiter} (h : w.atRest = true) : w.notify.atRest = true := by
  cases w <;> first | rfl | cases h

theorem atRest_poll (n : Nat) {w : Waiter} (h : w.atRest = true) :
    (w.poll n).atRest = true := by
  have hlook (m : Bool) : (sleep (look n (armed m))).atRest = true := by
    rw [look]
    split <;> rfl
  cases w with
  | fresh => exact hlook false
  | asleep m =>
    cases m with
    | true => exact hlook false
    | false => rfl
  | returned => rfl
  | armed m | seen m => cases h

/-- A waiter at rest that has been notified, or has not begun, returns if no one is there. -/
theorem poll_zero {w : Waiter} (h : w.atRest = true) (hn : w.isUnmarked ≠ true) :
    w.poll 0 = .returned := by
  cases w with
  | fresh | returned => rfl
  | asleep m =>
    cases m with
    | true => rfl
    | false => exact absurd rfl hn
  | armed m | seen m => cases h

end Waiter

namespace Server

/-! ## 2. Events and moves -/

/-- The moves that an event makes in the registry. -/
def moves (v : Server) : Event → List Move
  | .connect => [.register v.sessions.length]
  | .leave id => [.leave id]
  | .closeAll => [.closeAll]
  | .drained => [.wait]
  | .look =>
    match v.phase with
    | .waiting i => [.wake i, .arm i, .look i, .sleep i]
    | .serving | .draining | .stopped | .timedOut => []
  | .arrive _ _ | .poll _ _ _ | .work _ _ | .answer _ _ | .cancel | .deadline => []

section

variable {settings : Settings} {outlets : Outlets} {es : List Event} {v w : Server} {e : Event}

/-- **The registry after an event** is the one after its moves. -/
theorem registry_step (h : v.step e = some w) : w.registry = v.registry.applyAll (v.moves e) := by
  have turn := step_turn h
  generalize w.registry = r, w.phase = p, w.cancelled = c at turn
  cases turn with
  | session e id he => cases e <;> first | rfl | cases he
  | looks i r hp hr _ | stops i r hp hr _ => rw [hr, Registry.stepWaiter_poll, moves, hp]
  | connect | leave _ _ _ _ | cancel | closeAll _ _ | closesLate _ _ | drained _
  | deadline _ _ => rfl

/-- A session registers with the event that begins it, and with no other. -/
theorem registered_moves (v : Server) (e : Event) :
    registered (v.moves e) = if e = .connect then [v.sessions.length] else [] := by
  cases e with
  | look =>
    rw [moves]
    split <;> rfl
  | connect | arrive _ _ | poll _ _ _ | work _ _ | answer _ _ | leave _ | cancel | closeAll
  | drained | deadline => rfl

/-- **The registry of a server is one after moves**, in which the sessions have registered under the
    ids 0, 1, 2 and so on. -/
theorem registry_of_reaches (h : Reaches settings outlets es v) :
    ∃ ms, v.registry = after ms ∧ registered ms = List.range v.sessions.length := by
  induction h with
  | start => exact ⟨[], rfl, rfl⟩
  | @step es e v w _ he ih =>
    obtain ⟨ms, hr, hn⟩ := ih
    refine ⟨ms ++ v.moves e, ?_, ?_⟩
    · rw [registry_step he, hr, Registry.after_append]
    · rw [Registry.registered_append, hn, registered_moves, sessions_length_step he]
      split
      · exact List.range_succ.symm
      · exact List.append_nil _

/-! ## 3. The sessions that are open -/

/-- A session that leaves has begun. -/
theorem lt_of_left (h : Reaches settings outlets es v) {id : Nat} (hl : .leave id ∈ es) :
    id < v.sessions.length := by
  induction h with
  | start => cases hl
  | @step es e v w hr he ih =>
    rw [sessions_length_step he]
    rcases List.mem_append.mp hl with hl | hl
    · exact Nat.lt_of_lt_of_le (ih hl) (Nat.le_add_right _ _)
    · obtain rfl := List.mem_singleton.mp hl
      obtain ⟨s, hs, -⟩ := Option.bind_eq_some_iff.mp he
      exact (coherent_of_reaches hr).fresh id s hs

/-- The ids of the sessions that have begun and have not left. -/
def openIds (v : Server) (es : List Event) : List Nat :=
  (List.range v.sessions.length).filter fun id => .leave id ∉ es

/-- What an event does to the entries of the registry. -/
theorem ids_step (h : v.step e = some w) :
    (e = .connect ∧ w.registry.ids = v.registry.ids ++ [v.sessions.length]) ∨
    (∃ id, e = .leave id ∧ w.registry.ids = v.registry.ids.filter (· != id)) ∨
    (e ≠ .connect ∧ (∀ id, e ≠ .leave id) ∧ w.registry.ids = v.registry.ids) := by
  have turn := step_turn h
  generalize w.registry = r, w.phase = p, w.cancelled = c at turn
  cases turn with
  | connect => exact .inl ⟨rfl, Registry.ids_register _ _⟩
  | leave id _ _ _ => exact .inr (.inl ⟨id, rfl, Registry.ids_remove _ _⟩)
  | session e id he =>
    refine .inr (.inr ⟨?_, ?_, rfl⟩)
    · rintro rfl
      cases he
    · rintro i rfl
      cases he
  | closeAll _ _ | closesLate _ _ => exact .inr (.inr ⟨nofun, nofun, Registry.ids_closeAll _⟩)
  | looks i r _ hr _ | stops i r _ hr _ =>
    rw [hr]
    exact .inr (.inr ⟨nofun, nofun, rfl⟩)
  | cancel | drained _ | deadline _ _ => exact .inr (.inr ⟨nofun, nofun, rfl⟩)

/-- **The registry holds the sessions that have begun and have not left**, in their order. -/
theorem ids_of_reaches (h : Reaches settings outlets es v) : v.registry.ids = v.openIds es := by
  induction h with
  | start => rfl
  | @step es e v w hr he ih =>
    have hlen := sessions_length_step he
    have keep (hn : ∀ id, e ≠ .leave id) (id : Nat) :
        decide (.leave id ∉ es ++ [e]) = decide (.leave id ∉ es) := by
      have : .leave id ≠ e := (hn id).symm
      simp [this]
    rcases ids_step he with ⟨rfl, hi⟩ | ⟨j, rfl, hi⟩ | ⟨hc, hn, hi⟩
    · -- the session that begins has not left yet
      have hnew : .leave v.sessions.length ∉ es := fun hl => Nat.lt_irrefl _ (lt_of_left hr hl)
      simp only [openIds, hlen, if_true, keep nofun, List.range_succ, List.filter_append]
      rw [hi, ih, openIds]
      simp [hnew]
    · rw [if_neg nofun, Nat.add_zero] at hlen
      rw [hi, ih, openIds, openIds, hlen, List.filter_filter]
      refine List.filter_congr fun id _ => ?_
      by_cases hj : id = j <;> simp [hj]
    · rw [if_neg hc, Nat.add_zero] at hlen
      rw [hi, ih, openIds, openIds, hlen]
      exact List.filter_congr fun id _ => (keep hn id).symm

/-- **What the agent tells of its health**: the number of the sessions that have begun and have not
    left. -/
theorem clients_of_reaches (h : Reaches settings outlets es v) {q : Http.Query}
    (hm : q.method = "GET") (hp : Http.pathOf q.target = "/health") :
    ∃ p, v.react q = .response p ∧ p.status = 200 ∧
      p.body = (Health.healthy (UInt64.ofNat (v.openIds es).length)).text := by
  refine ⟨_, Registry.react_health hm hp, rfl, ?_⟩
  rw [← ids_of_reaches h, Registry.ids, List.length_map]
  rfl

/-! ## 4. The end of waiting -/

/-- Between events, every waiter is at rest. -/
def Rests (r : Registry) : Prop :=
  ∀ (i : Nat) (a : Waiter), r.waiters[i]? = some a → a.atRest = true

theorem rests_step (hv : Rests v.registry) (h : v.step e = some w) : Rests w.registry := by
  intro i a ha
  have turn := step_turn h
  generalize w.registry = r, w.phase = p, w.cancelled = c at turn ha
  cases turn with
  | connect | session _ _ _ | cancel | closeAll _ _ | closesLate _ _ | deadline _ _ =>
    exact hv i a ha
  | leave id _ _ _ =>
    by_cases h0 : (v.registry.remove id).count = 0
    · rw [(Registry.waiter_leave _ id i).1 h0] at ha
      obtain ⟨b, hb, rfl⟩ := Option.map_eq_some_iff.mp ha
      exact Waiter.atRest_notify (hv i b hb)
    · rw [(Registry.waiter_leave _ id i).2 h0] at ha
      exact hv i a ha
  | drained _ =>
    have ha : (v.registry.apply .wait).waiters[i]? = some a := ha
    rcases Registry.waiter_origin ha with rfl | ⟨b, hb, hs⟩
    · rfl
    · cases hs with
      | rest _ _ _ => exact hv i a hb
      | notified _ he => cases he
  | looks j r _ hr _ | stops j r _ hr _ =>
    rw [hr, Registry.waiter_stepWaiter] at ha
    obtain ⟨b, hb, rfl⟩ := Option.map_eq_some_iff.mp ha
    split
    · exact Waiter.atRest_poll _ (hv i b hb)
    · exact hv i b hb

theorem rests_of_reaches (h : Reaches settings outlets es v) : Rests v.registry := by
  induction h with
  | start => exact fun _ _ ha => nomatch ha
  | step _ he ih => exact rests_step ih he

/-- **A server that waits stops as soon as it looks, if no session is open**: it does not run into
    its deadline for want of a notification. -/
theorem look_stops (h : Reaches settings outlets es v) {i : Nat} (hp : v.phase = .waiting i)
    (h0 : v.registry.count = 0) : ∃ w, v.step .look = some w ∧ w.phase = .stopped := by
  obtain ⟨a, ha, -⟩ := (coherent_of_reaches h).waits i hp
  obtain ⟨ms, hr, -⟩ := registry_of_reaches h
  have told : Registry.Told v.registry := hr ▸ Registry.told_after ms
  have hret : a.poll 0 = .returned :=
    Waiter.poll_zero (rests_of_reaches h i a ha) (told h0 i a ha)
  have hw : (v.registry.stepWaiter i (Waiter.poll v.registry.count)).waiters[i]? =
      some .returned := by
    rw [h0, Registry.stepWaiter_self ha, hret]
  simp only [step, hp, hw]
  exact ⟨_, rfl, rfl⟩

end

end Server

end ReceiptPrinting
