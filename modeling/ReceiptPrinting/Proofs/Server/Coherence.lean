import ReceiptPrinting.Proofs.Registry.Entries
import ReceiptPrinting.Proofs.Server.Step

/-!
# Sessions, their entries, and the server itself

Whether a session has been asked to close lies in the registry, what it is at lies with the session,
and what the server is at lies with neither. An event can change one without the others, and still
they fit together in every state that events lead to.

* `Turn`: all that an event can do to the registry and to the server itself; `Effect` says the same
  of the sessions;
* `closing?_step`: what an event does to the question whether a session has been asked to close;
* `Coherent`: how the three fit together;
* **`coherent_of_reaches`**: they do, whatever happens and in whatever order;
* `stops_step`: a server stops when it has seen that no session is open, or when the time is up.
-/

namespace ReceiptPrinting

namespace Server

/-! ## 1. The registry and the server itself -/

/-- **What an event does to the registry and to the server itself**: the registry, the phase, and
    whether the server has been cancelled, after the event. -/
inductive Turn (v : Server) : Event → Registry → ServerPhase → Bool → Prop where
  | connect : Turn v .connect (v.registry.register v.sessions.length) v.phase v.cancelled
  /-- The event is about a session, and does not show here. -/
  | session (e : Event) (id : Nat) (he : e.subject? = some id) :
      Turn v e v.registry v.phase v.cancelled
  | leave (id : Nat) (s : Session) (hs : v.session? id = some s) (hp : s.phase = .ended) :
      Turn v (.leave id) (v.registry.remove id) v.phase v.cancelled
  | cancel : Turn v .cancel v.registry v.phase true
  | closeAll (hc : v.cancelled = true) (hp : v.phase = .serving) :
      Turn v .closeAll v.registry.closeAll .draining v.cancelled
  /-- Sessions are asked to close after the time is up. -/
  | closesLate (hc : v.cancelled = true) (hp : v.phase = .timedOut) :
      Turn v .closeAll v.registry.closeAll v.phase v.cancelled
  | drained (hp : v.phase = .draining) :
      Turn v .drained v.registry.wait (.waiting v.registry.waiters.length) v.cancelled
  /-- The waiter goes on, and stays. -/
  | looks (i : Nat) (r : Registry) (hp : v.phase = .waiting i)
      (hr : r = v.registry.stepWaiter i (Waiter.poll v.registry.count))
      (hw : r.waiters[i]? ≠ some .returned) : Turn v .look r (.waiting i) v.cancelled
  /-- The waiter goes on, and returns. -/
  | stops (i : Nat) (r : Registry) (hp : v.phase = .waiting i)
      (hr : r = v.registry.stepWaiter i (Waiter.poll v.registry.count))
      (hw : r.waiters[i]? = some .returned) : Turn v .look r .stopped v.cancelled
  | deadline (hc : v.cancelled = true) (hs : v.hasStopped = false) :
      Turn v .deadline v.registry .timedOut v.cancelled

/-- **Every event does one of these.** -/
theorem step_turn {v w : Server} {e : Event} (h : v.step e = some w) :
    Turn v e w.registry w.phase w.cancelled := by
  cases e with
  | connect => cases h; exact .connect
  | arrive i f | work i jobId | answer i delivered =>
    obtain ⟨s, -, rfl⟩ := Option.map_eq_some_iff.mp h
    exact .session _ i rfl
  | poll i ping jobId =>
    obtain ⟨s, -, h⟩ := Option.bind_eq_some_iff.mp h
    obtain ⟨c, -, h⟩ := Option.bind_eq_some_iff.mp h
    cases h
    exact .session _ i rfl
  | leave i =>
    obtain ⟨s, hs, h⟩ := Option.bind_eq_some_iff.mp h
    split at h
    case isTrue hp => cases h; exact .leave i s hs hp
    case isFalse => cases h
  | cancel => cases h; exact .cancel
  | closeAll =>
    rcases step_closeAll_iff.mp h with ⟨hc, -, ⟨hp, rfl⟩ | ⟨hp, rfl⟩⟩
    · exact .closeAll hc hp
    · exact .closesLate hc hp
  | drained =>
    simp only [step] at h
    split at h
    case isTrue hp => cases h; exact .drained hp
    case isFalse => cases h
  | look =>
    simp only [step] at h
    split at h
    case h_1 i hp =>
      cases h
      dsimp only
      split
      case isTrue hd =>
        obtain ⟨w, hw, hr⟩ := (Option.any_eq_true _ _).mp hd
        exact .stops i _ hp rfl (hw.trans (congrArg some (Waiter.hasReturned_iff.mp hr)))
      case isFalse hd =>
        refine .looks i _ hp rfl fun hw => hd ?_
        rw [hw]
        rfl
    case h_2 => cases h
  | deadline =>
    simp only [step] at h
    split at h
    case isTrue hc =>
      cases h
      obtain ⟨hc, hs⟩ := (Bool.and_eq_true _ _).mp hc
      exact .deadline hc (Bool.not_eq_true _ ▸ (Bool.not_eq_true' _).mp hs)
    case isFalse => cases h

/-- Whether a session has been asked to close, after an event. Three events change it. -/
def closingAfter (v : Server) (id : Nat) : Event → Option Bool
  | .connect => if id = v.sessions.length then some v.registry.closed else v.registry.closing? id
  | .leave i => if id = i then none else v.registry.closing? id
  | .closeAll => (v.registry.closing? id).map fun _ => true
  | _ => v.registry.closing? id

section

variable {v : Server} {e : Event} {id : Nat}

/-- An entry begins with its session. -/
theorem closingAfter_of_none (h : v.registry.closing? id = none) :
    v.closingAfter id e =
      if e = .connect ∧ id = v.sessions.length then some v.registry.closed else none := by
  cases e <;> simp [closingAfter, h]

/-- An entry ends when its session leaves. -/
theorem closingAfter_eq_none (hi : id ≠ v.sessions.length) :
    v.closingAfter id e = none ↔ e = .leave id ∨ v.registry.closing? id = none := by
  cases e with
  | leave i =>
    by_cases h : id = i
    · simp [closingAfter, h]
    · simp [closingAfter, h, Ne.symm h]
  | connect | closeAll | arrive _ _ | poll _ _ _ | work _ _ | answer _ _ | cancel | drained | look
  | deadline => simp [closingAfter, hi]

/-- That a session has been asked to close is not taken back. -/
theorem closingAfter_asked (hi : id = v.sessions.length → v.registry.closed = true)
    (h : v.registry.closing? id ≠ some false) : v.closingAfter id e ≠ some false := by
  cases e with
  | connect =>
    by_cases hid : id = v.sessions.length
    · simp [closingAfter, hid, hi hid]
    · simpa [closingAfter, hid] using h
  | leave i =>
    by_cases hid : id = i
    · simp [closingAfter, hid]
    · simpa [closingAfter, hid] using h
  | closeAll => simp [closingAfter]
  | arrive _ _ | poll _ _ _ | work _ _ | answer _ _ | cancel | drained | look | deadline => exact h

end

/-- A server that waits has not seen that no session is open. -/
def StillWaits (r : Registry) (p : ServerPhase) : Prop :=
  ∀ i, p = .waiting i → ∃ w, r.waiters[i]? = some w ∧ w ≠ .returned

section

variable {v : Server} {e : Event} {r : Registry} {p : ServerPhase} {c : Bool}

theorem Turn.closing? (h : Turn v e r p c)
    (hf : v.registry.closing? v.sessions.length = none) (id : Nat) :
    r.closing? id = v.closingAfter id e := by
  cases h with
  | connect => exact Registry.closing?_register hf id
  | session e i he => cases e <;> first | rfl | cases he
  | leave i s hs hp => exact Registry.closing?_remove _ _ _
  | closeAll hc hp | closesLate hc hp => exact Registry.closing?_closeAll _ _
  | drained hp => exact Registry.closing?_wait _ _
  | looks i r hp hr hw | stops i r hp hr hw =>
    rw [hr]
    exact Registry.closing?_stepWaiter _ _ _ _
  | cancel | deadline hc hs => rfl

/-- Every session is asked to close by one event, and this is not taken back. -/
theorem Turn.closed (h : Turn v e r p c) :
    r.closed = true ↔ v.registry.closed = true ∨ e = .closeAll := by
  cases h with
  | closeAll hc hp | closesLate hc hp => exact ⟨fun _ => .inr rfl, fun _ => rfl⟩
  | session e i he =>
    have hn : e ≠ .closeAll := by rintro rfl; cases he
    exact ⟨.inl, fun h => h.resolve_right hn⟩
  | connect | leave i s hs hp | cancel | drained hp | deadline hc hs =>
    exact ⟨.inl, fun h => h.resolve_right nofun⟩
  | looks i r hp hr hw | stops i r hp hr hw =>
    rw [hr]
    exact ⟨.inl, fun h => h.resolve_right nofun⟩

theorem Turn.cancelled (h : Turn v e r p c) :
    c = true ↔ v.cancelled = true ∨ e = .cancel := by
  cases h with
  | cancel => exact ⟨fun _ => .inr rfl, fun _ => rfl⟩
  | session e i he =>
    have hn : e ≠ .cancel := by rintro rfl; cases he
    exact ⟨.inl, fun h => h.resolve_right hn⟩
  | connect | leave i s hs hp | closeAll hc hp | closesLate hc hp | drained hp | deadline hc hs
  | looks i r hp hr hw | stops i r hp hr hw => exact ⟨.inl, fun h => h.resolve_right nofun⟩

/-- A session leaves only after it has ended. -/
theorem Turn.ended_of_leave {id : Nat} {s : Session} (h : Turn v (.leave id) r p c)
    (hs : v.session? id = some s) : s.phase = .ended := by
  cases h with
  | session _ i he => cases he
  | leave i u hu hp =>
    obtain rfl : u = s := Option.some.inj (hu.symm.trans hs)
    exact hp

/-- What a server is at tells whether it has been cancelled: it goes on from taking connections only
    after that. -/
theorem Turn.cancelled_of_phase (h : Turn v e r p c)
    (hv : v.phase ≠ .serving → v.cancelled = true) (hp : p ≠ .serving) : c = true := by
  cases h with
  | connect | session _ _ _ | leave _ _ _ _ => exact hv hp
  | cancel => rfl
  | closeAll hc _ | closesLate hc _ | deadline hc _ => exact hc
  | drained hq | looks _ _ hq _ _ | stops _ _ hq _ _ => exact hv (by rw [hq]; exact nofun)

/-- And whether sessions have been asked to close: it waits for them only after that. -/
theorem Turn.closed_of_phase (h : Turn v e r p c)
    (hv : v.phase ≠ .serving → v.phase ≠ .timedOut → v.registry.closed = true)
    (hp : p ≠ .serving) (hq : p ≠ .timedOut) : r.closed = true := by
  refine h.closed.mpr ?_
  cases h with
  | connect | session _ _ _ | leave _ _ _ _ | cancel => exact .inl (hv hp hq)
  | closeAll _ _ | closesLate _ _ => exact .inr rfl
  | drained hi | looks _ _ hi _ _ | stops _ _ hi _ _ =>
    rw [hi] at hv
    exact .inl (hv nofun nofun)
  | deadline _ _ => exact absurd rfl hq

theorem Turn.stillWaits (h : Turn v e r p c) (hw : StillWaits v.registry v.phase) :
    StillWaits r p := by
  intro i hp
  cases h with
  | connect | session _ _ _ | cancel | closesLate _ _ => exact hw i hp
  | leave id s hs he =>
    obtain ⟨w, hi, hn⟩ := hw i hp
    exact Registry.waiter_remove id hi hn
  | drained hd =>
    cases hp
    exact ⟨.fresh, List.getElem?_concat_length, nofun⟩
  | looks j r hj hr hn =>
    cases hp
    obtain ⟨w, hi, -⟩ := hw i hj
    have hl : r.waiters[i]? = some (w.poll v.registry.count) := by
      rw [hr]
      simp only [Registry.stepWaiter, List.getElem?_modify_eq, hi]
      rfl
    exact ⟨_, hl, fun h => hn (hl.trans (congrArg some h))⟩
  | closeAll _ _ | stops _ _ _ _ _ | deadline _ _ => cases hp

/-- **A server that stops by looking has seen that no session is open.** -/
theorem Turn.count_of_stops (h : Turn v e r p c) (hw : StillWaits v.registry v.phase)
    (hv : v.phase ≠ .stopped) (hp : p = .stopped) : e = .look ∧ r.count = 0 := by
  cases h with
  | stops i r hi hr hl =>
    obtain ⟨w, hw, hn⟩ := hw i hi
    refine ⟨rfl, ?_⟩
    rw [hr] at hl ⊢
    rw [Registry.stepWaiter, List.getElem?_modify_eq, hw] at hl
    exact Waiter.poll_eq_returned hn (Option.some.inj hl)
  | connect | session _ _ _ | leave _ _ _ _ | cancel | closesLate _ _ => exact absurd hp hv
  | closeAll _ _ | drained _ | looks _ _ _ _ _ | deadline _ _ => cases hp

/-- A server whose time is up has had its deadline. -/
theorem Turn.deadline_of_timedOut (h : Turn v e r p c) (hv : v.phase ≠ .timedOut)
    (hp : p = .timedOut) : e = .deadline := by
  cases h with
  | deadline _ _ => rfl
  | connect | session _ _ _ | leave _ _ _ _ | cancel | closesLate _ _ => exact absurd hp hv
  | closeAll _ _ | drained _ | looks _ _ _ _ _ | stops _ _ _ _ _ => cases hp

end

/-! ## 2. Coherence -/

/-- **How sessions, their entries and the server itself fit together.** -/
structure Coherent (v : Server) : Prop where
  /-- The next session gets an id that none has had. -/
  fresh : ∀ id s, v.session? id = some s → id < v.sessions.length
  /-- Each entry is a session's. -/
  entered : ∀ id c, v.registry.closing? id = some c → ∃ s, v.session? id = some s
  /-- A session leaves the registry after it has ended. -/
  left : ∀ id s, v.session? id = some s → v.registry.closing? id = none → s.phase = .ended
  /-- Once every session has been asked to close, none is there that has not been. -/
  asked : v.registry.closed = true → ∀ id, v.registry.closing? id ≠ some false
  cancelled : v.phase ≠ .serving → v.cancelled = true
  /-- Before the server waits for sessions, it asks them to close. -/
  closed : v.phase ≠ .serving → v.phase ≠ .timedOut → v.registry.closed = true
  waits : StillWaits v.registry v.phase

theorem coherent_start (settings : Settings) (outlets : Outlets) :
    (start settings outlets).Coherent where
  fresh _ _ h := nomatch h
  entered _ _ h := nomatch h
  left _ _ h := nomatch h
  asked h := nomatch h
  cancelled h := absurd rfl h
  closed h := absurd rfl h
  waits _ h := nomatch h

section

variable {v w : Server} {e : Event}

theorem Coherent.unentered (hv : v.Coherent) {id : Nat} (h : v.session? id = none) :
    v.registry.closing? id = none := by
  cases hc : v.registry.closing? id with
  | none => rfl
  | some c =>
    obtain ⟨s, hs⟩ := hv.entered id c hc
    rw [h] at hs
    cases hs

theorem Coherent.unborn (hv : v.Coherent) : v.session? v.sessions.length = none := by
  cases hs : v.session? v.sessions.length with
  | none => rfl
  | some s => exact absurd (hv.fresh _ s hs) (Nat.lt_irrefl _)

/-- What an event does to the question whether a session has been asked to close. -/
theorem closing?_step (hv : v.Coherent) (h : v.step e = some w) (id : Nat) :
    w.registry.closing? id = v.closingAfter id e :=
  (step_turn h).closing? (hv.unentered hv.unborn) id

/-- The number of sessions there have been. -/
theorem sessions_length_step (h : v.step e = some w) :
    w.sessions.length = v.sessions.length + if e = .connect then 1 else 0 := by
  cases step_effect h with
  | begins he hs hl => rw [hs, if_pos he, List.length_append]; rfl
  | moves id s t ds he hs ht hw hl =>
    have hn : e ≠ .connect := by rintro rfl; cases he
    rw [hw, if_neg hn, putSession, List.length_map]
    rfl
  | still he hc hs hl => rw [hs, if_neg hc]; rfl

/-- A session that has ended stays as it is. -/
theorem ended_step {settings : Settings} {outlets : Outlets} {closing : Option Bool} {id : Nat}
    {s t : Session} {ds : List Delivered} (hs : s.phase = .ended)
    (h : Session.Step settings outlets closing id s e t ds) : t.phase = .ended := by
  cases h with
  | rest _ _ | arrive f => exact hs
  | goodbye _ _ hp _ | ping _ hp _ | pingLost _ hp _ | take _ _ _ hp _ _ | work _ _ hp
  | reply _ hp | replyLost _ hp => cases hs.symm.trans hp

/-- **Every event keeps it.** -/
theorem coherent_step (hv : v.Coherent) (h : v.step e = some w) : w.Coherent where
  fresh id t ht := by
    rw [sessions_length_step h]
    rcases session_origin h ht with ⟨s, ds, hs, -, -⟩ | ⟨-, -, he, hid, -⟩
    · exact Nat.lt_of_lt_of_le (hv.fresh id s hs) (Nat.le_add_right _ _)
    · rw [if_pos he, hid]
      exact Nat.lt_succ_self _
  entered id c hc := by
    cases hs : v.session? id with
    | some s =>
      obtain ⟨t, -, ht, -⟩ := session_step h hs
      exact ⟨t, ht⟩
    | none =>
      obtain ⟨-, -, hw⟩ := session_birth h hs
      rw [closing?_step hv h, closingAfter_of_none (hv.unentered hs)] at hc
      split at hc
      case isTrue hb => exact ⟨.start, hw.trans (if_pos hb)⟩
      case isFalse => cases hc
  left id t ht hc := by
    rw [closing?_step hv h] at hc
    rcases session_origin h ht with ⟨s, ds, hs, -, hst⟩ | ⟨hs, -, he, hid, -⟩
    · refine ended_step ?_ hst
      rcases (closingAfter_eq_none (Nat.ne_of_lt (hv.fresh id s hs))).mp hc with rfl | hn
      · exact (step_turn h).ended_of_leave hs
      · exact hv.left id s hs hn
    · rw [closingAfter_of_none (hv.unentered hs), if_pos ⟨he, hid⟩] at hc
      cases hc
  asked ha id := by
    rw [closing?_step hv h]
    rcases (step_turn h).closed.mp ha with ha | rfl
    · exact closingAfter_asked (fun _ => ha) (hv.asked ha id)
    · simp [closingAfter]
  cancelled hp := (step_turn h).cancelled_of_phase hv.cancelled hp
  closed hp hq := (step_turn h).closed_of_phase hv.closed hp hq
  waits := (step_turn h).stillWaits hv.waits

theorem coherent_of_reaches {settings : Settings} {outlets : Outlets} {es : List Event}
    (h : Reaches settings outlets es v) : v.Coherent := by
  induction h with
  | start => exact coherent_start settings outlets
  | step _ he ih => exact coherent_step ih he

theorem coherent_of_leads {es : List Event} (hv : v.Coherent) (h : Leads v es w) : w.Coherent := by
  induction h with
  | refl => exact hv
  | step _ he ih => exact coherent_step ih he

/-! ## 3. What has happened -/

/-- Every session has been asked to close exactly if this has been done. -/
theorem closed_iff_of_reaches {settings : Settings} {outlets : Outlets} {es : List Event}
    (h : Reaches settings outlets es v) : v.registry.closed = true ↔ .closeAll ∈ es := by
  induction h with
  | start => exact ⟨nofun, nofun⟩
  | step _ he ih =>
    rw [(step_turn he).closed, ih, List.mem_append, List.mem_singleton, eq_comm]

theorem cancelled_iff_of_reaches {settings : Settings} {outlets : Outlets} {es : List Event}
    (h : Reaches settings outlets es v) : v.cancelled = true ↔ .cancel ∈ es := by
  induction h with
  | start => exact ⟨nofun, nofun⟩
  | step _ he ih =>
    rw [(step_turn he).cancelled, ih, List.mem_append, List.mem_singleton, eq_comm]

/-- **A server stops in one of two ways**: it has looked and no session is open, each having ended,
    or the time is up. -/
theorem stops_step (hv : v.Coherent) (h : v.step e = some w) (hs : v.hasStopped = false)
    (ht : w.hasStopped = true) :
    (e = .look ∧ w.phase = .stopped ∧ w.registry.count = 0 ∧
      ∀ id s, w.session? id = some s → s.phase = .ended) ∨
    (e = .deadline ∧ w.phase = .timedOut) := by
  have hw : w.Coherent := coherent_step hv h
  by_cases hp : w.phase = .stopped
  · have hn : v.phase ≠ .stopped := fun hq => by rw [hasStopped, hq] at hs; cases hs
    obtain ⟨he, h0⟩ := (step_turn h).count_of_stops hv.waits hn hp
    refine .inl ⟨he, hp, h0, fun id s hi => ?_⟩
    exact hw.left id s hi (Registry.closing?_eq_none_of_count h0 id)
  · refine .inr ?_
    have hq : w.phase = .timedOut := by
      unfold hasStopped at ht
      split at ht
      case h_1 hq => exact absurd hq hp
      case h_2 hq => exact hq
      case h_3 => cases ht
    have hn : v.phase ≠ .timedOut := fun hr => by rw [hasStopped, hr] at hs; cases hs
    exact ⟨(step_turn h).deadline_of_timedOut hn hq, hq⟩

end

end Server

end ReceiptPrinting
