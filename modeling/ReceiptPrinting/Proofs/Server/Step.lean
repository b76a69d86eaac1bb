import ReceiptPrinting.Server

/-!
# What one event does to a session

Sessions share a server, but an event moves at most one of them, and how it moves that one depends
on nothing but the session itself, the settings, what the outlets answer, and whether the session
has been asked to close. This is said once, here; whatever is known of all runs is read off it.

* `Session.Step`: all that an event can do to the session of an id, with what reaches printers for
  it;
* `step_closeAll_iff`: when sessions can be asked to close, and what comes of it;
* **`session_step`**: an event of the server does one of these to each session that is there;
* `session_birth`: a session begins with a `connect` and in no other way, as `Session.start`;
* `session_origin`: so that a session was there before an event, or has just begun;
* `Leads`: the servers that events lead to from a server; `run` finds the one, if there is one.
-/

namespace ReceiptPrinting

/-! ## 1. Sessions -/

/-- **What an event does to the session of an id**: the session after the event, and what has
    reached printers for it. `closing` says whether the session has been asked to close. -/
inductive Session.Step (settings : Settings) (outlets : Outlets) (closing : Option Bool) (id : Nat)
    (s : Session) : Event → Session → List Delivered → Prop where
  /-- Nothing: the event is another's, or the session has nothing to do for it. -/
  | rest (e : Event) (h : ∀ f, e ≠ .arrive id f) : Step settings outlets closing id s e s []
  | arrive (f : Incoming) : Step settings outlets closing id s (.arrive id f) (s.arrive f) []
  | goodbye (ping : Keepalive) (jobId : String) (hp : s.phase = .open) (hc : closing = some true) :
      Step settings outlets closing id s (.poll id ping jobId)
        { s with sent := s.sent ++ [Session.goodbye], phase := .ended } []
  | ping (jobId : String) (hp : s.phase = .open) (hc : closing = some false) :
      Step settings outlets closing id s (.poll id (.due true) jobId)
        { s with sent := s.sent ++ [.ping], phase := .open } []
  | pingLost (jobId : String) (hp : s.phase = .open) (hc : closing = some false) :
      Step settings outlets closing id s (.poll id (.due false) jobId) { s with phase := .ended } []
  | take (f : Incoming) (rest : List Incoming) (jobId : String) (hp : s.phase = .open)
      (hc : closing = some false) (hi : s.inbox = f :: rest) :
      Step settings outlets closing id s (.poll id .notDue jobId)
        { s with inbox := rest, taken := s.taken ++ [f], phase := Session.phaseAfter jobId f } []
  | work (x jobId : String) (hp : s.phase = .working x) :
      Step settings outlets closing id s (.work id jobId)
        { s with phase := .answering (Agent.process settings outlets jobId x).1 }
        (Agent.process settings outlets jobId x).2
  | reply (r : Reply) (hp : s.phase = .answering r) :
      Step settings outlets closing id s (.answer id true)
        { s with sent := s.sent ++ [.reply r], phase := .open } []
  | replyLost (r : Reply) (hp : s.phase = .answering r) :
      Step settings outlets closing id s (.answer id false) { s with phase := .ended } []

namespace Session

variable (settings : Settings) (outlets : Outlets) (id : Nat) (s : Session)

/-- A session that looks what to do next does one thing, and being asked to close comes first. -/
theorem poll_step (closing : Bool) (ping : Keepalive) (jobId : String) :
    Step settings outlets (some closing) id s (.poll id ping jobId) (s.poll closing ping jobId)
      [] := by
  have stay : Step settings outlets (some closing) id s (.poll id ping jobId) s [] :=
    .rest _ fun _ h => nomatch h
  unfold poll
  cases hp : s.phase with
  | working x | answering r | ended => exact stay
  | «open» =>
    cases closing with
    | true => exact .goodbye ping jobId hp rfl
    | false =>
      cases ping with
      | due delivered =>
        cases delivered with
        | true => exact .ping jobId hp rfl
        | false => exact .pingLost jobId hp rfl
      | notDue =>
        cases hi : s.inbox with
        | nil => exact stay
        | cons f rest => exact .take f rest jobId hp rfl hi

theorem work_step (closing : Option Bool) (jobId : String) :
    Step settings outlets closing id s (.work id jobId) (s.work settings outlets jobId).1
      (s.work settings outlets jobId).2 := by
  unfold work
  cases hp : s.phase with
  | working x => exact .work x jobId hp
  | «open» | answering r | ended => exact .rest _ fun _ h => nomatch h

theorem answer_step (closing : Option Bool) (delivered : Bool) :
    Step settings outlets closing id s (.answer id delivered) (s.answer delivered) [] := by
  unfold answer
  cases hp : s.phase with
  | answering r =>
    cases delivered with
    | true => exact .reply r hp
    | false => exact .replyLost r hp
  | «open» | working x | ended => exact .rest _ fun _ h => nomatch h

end Session

/-! ## 2. Servers -/

/-- The session that an event is about, if it is about one. -/
def Event.subject? : Event → Option Nat
  | arrive id _ | poll id _ _ | work id _ | answer id _ => some id
  | _ => none

namespace Server

/-- What has reached printers for the session of an id, in order. -/
def deliveredFor (v : Server) (id : Nat) : List Delivered :=
  (v.log.filter (·.1 == id)).map (·.2)

/-- Replacing a session shows at its own id only. -/
theorem session?_putSession (v : Server) (i j : Nat) (s : Session) :
    (v.putSession i s).session? j =
      if j = i then (v.session? j).map fun _ => s else v.session? j := by
  have hf : ((fun p : Nat × Session => p.1 == j) ∘ fun p => if p.1 = i then (i, s) else p) =
      fun p => p.1 == j := by
    funext p
    by_cases hp : p.1 = i <;> simp [hp]
  unfold session? putSession
  rw [List.find?_map, hf, Option.map_map]
  cases hq : v.sessions.find? (·.1 == j) with
  | none => simp
  | some p =>
    have hp : p.1 = j := by simpa using List.find?_some hq
    by_cases h : j = i <;> simp [hp, h]

theorem session?_putSession_self {v : Server} {i : Nat} {s t : Session}
    (h : v.session? i = some s) :
    (v.putSession i t).session? i = some t := by
  rw [session?_putSession, if_pos rfl, h]
  rfl

theorem session?_putSession_of_ne {v : Server} {i j : Nat} {s : Session} (h : j ≠ i) :
    (v.putSession i s).session? j = v.session? j := by
  rw [session?_putSession, if_neg h]

/-- Two servers with the same sessions find the same one under an id. -/
theorem session?_congr {v w : Server} (h : w.sessions = v.sessions) (id : Nat) :
    w.session? id = v.session? id := by
  unfold session?
  rw [h]

/-- Log entries of one session show at its own id only. -/
theorem deliveredFor_append {v w : Server} {i : Nat} {ds : List Delivered}
    (h : w.log = v.log ++ ds.map fun d => (i, d)) (id : Nat) :
    w.deliveredFor id = v.deliveredFor id ++ if id = i then ds else [] := by
  unfold deliveredFor
  rw [h, List.filter_append, List.map_append, List.filter_map, List.map_map]
  congr 1
  by_cases hi : id = i
  · have ht : ds.filter ((fun p : Nat × Delivered => p.1 == id) ∘ fun d => (i, d)) = ds :=
      List.filter_eq_self.mpr fun d _ => by simpa using hi.symm
    rw [if_pos hi, ht]
    exact List.map_id _
  · have hn : ds.filter ((fun p : Nat × Delivered => p.1 == id) ∘ fun d => (i, d)) = [] :=
      List.filter_eq_nil_iff.mpr fun d _ => by simpa using Ne.symm hi
    rw [if_neg hi, hn]
    rfl

/-! ## 3. Events -/

/-- **What an event does to the sessions of a server**, and to what has been delivered. -/
inductive Effect (v : Server) (e : Event) (w : Server) : Prop where
  /-- A session begins. -/
  | begins (he : e = .connect) (hs : w.sessions = v.sessions ++ [(v.sessions.length, .start)])
      (hl : w.log = v.log)
  /-- The session that the event is about does one thing. -/
  | moves (id : Nat) (s t : Session) (ds : List Delivered) (he : e.subject? = some id)
      (hs : v.session? id = some s)
      (ht : Session.Step v.settings v.outlets (v.registry.closing? id) id s e t ds)
      (hw : w.sessions = (v.putSession id t).sessions)
      (hl : w.log = v.log ++ ds.map fun d => (id, d))
  /-- The event is about the registry, or about the server itself. -/
  | still (he : e.subject? = none) (hc : e ≠ .connect) (hs : w.sessions = v.sessions)
      (hl : w.log = v.log)

/-- **Sessions are asked to close once the server has been cancelled**, and only once: while it
    takes connections, which it then no longer does, or after its time was up. -/
theorem step_closeAll_iff {v w : Server} :
    v.step .closeAll = some w ↔ v.cancelled = true ∧ v.registry.closed = false ∧
      (v.phase = .serving ∧ w = { v with registry := v.registry.closeAll, phase := .draining } ∨
        v.phase = .timedOut ∧ w = { v with registry := v.registry.closeAll }) := by
  simp only [step]
  constructor
  · intro h
    split at h
    case isTrue hc =>
      refine ⟨hc.1, by simpa using hc.2, ?_⟩
      split at h
      case h_1 hp => cases h; exact .inl ⟨hp, rfl⟩
      case h_2 hp => cases h; exact .inr ⟨hp, rfl⟩
      case h_3 | h_4 | h_5 => cases h
    case isFalse => cases h
  · intro h
    rcases h with ⟨hc, ho, ⟨hp, rfl⟩ | ⟨hp, rfl⟩⟩
    · simp [hc, ho, hp]
    · simp [hc, ho, hp]

/-- The settings, and what the outlets answer, stay as they are. -/
theorem step_fixed {v w : Server} {e : Event} (h : v.step e = some w) :
    w.settings = v.settings ∧ w.outlets = v.outlets := by
  cases e with
  | connect | cancel => cases h; exact ⟨rfl, rfl⟩
  | arrive i f | work i jobId | answer i delivered =>
    obtain ⟨s, -, rfl⟩ := Option.map_eq_some_iff.mp h
    exact ⟨rfl, rfl⟩
  | poll i ping jobId =>
    obtain ⟨s, -, h⟩ := Option.bind_eq_some_iff.mp h
    obtain ⟨c, -, h⟩ := Option.bind_eq_some_iff.mp h
    cases h
    exact ⟨rfl, rfl⟩
  | leave i =>
    obtain ⟨s, -, h⟩ := Option.bind_eq_some_iff.mp h
    split at h <;> cases h
    exact ⟨rfl, rfl⟩
  | closeAll =>
    rcases step_closeAll_iff.mp h with ⟨-, -, ⟨-, rfl⟩ | ⟨-, rfl⟩⟩
    · exact ⟨rfl, rfl⟩
    · exact ⟨rfl, rfl⟩
  | drained | look | deadline =>
    simp only [step] at h
    split at h <;> cases h
    exact ⟨rfl, rfl⟩

/-- **Every event has one of these effects.** -/
theorem step_effect {v w : Server} {e : Event} (h : v.step e = some w) : Effect v e w := by
  cases e with
  | connect => cases h; exact .begins rfl rfl rfl
  | arrive i f =>
    obtain ⟨s, hs, rfl⟩ := Option.map_eq_some_iff.mp h
    exact .moves i s _ [] rfl hs (.arrive f) rfl (List.append_nil _).symm
  | poll i ping jobId =>
    obtain ⟨s, hs, h⟩ := Option.bind_eq_some_iff.mp h
    obtain ⟨c, hc, h⟩ := Option.bind_eq_some_iff.mp h
    cases h
    refine .moves i s _ [] rfl hs ?_ rfl (List.append_nil _).symm
    rw [hc]
    exact Session.poll_step _ _ _ _ c ping jobId
  | work i jobId =>
    obtain ⟨s, hs, rfl⟩ := Option.map_eq_some_iff.mp h
    exact .moves i s _ _ rfl hs (Session.work_step _ _ _ _ _ jobId) rfl rfl
  | answer i delivered =>
    obtain ⟨s, hs, rfl⟩ := Option.map_eq_some_iff.mp h
    exact .moves i s _ [] rfl hs (Session.answer_step _ _ _ _ _ delivered) rfl
      (List.append_nil _).symm
  | leave i =>
    obtain ⟨s, -, h⟩ := Option.bind_eq_some_iff.mp h
    split at h <;> cases h
    exact .still rfl nofun rfl rfl
  | cancel => cases h; exact .still rfl nofun rfl rfl
  | closeAll =>
    rcases step_closeAll_iff.mp h with ⟨-, -, ⟨-, rfl⟩ | ⟨-, rfl⟩⟩
    · exact .still rfl nofun rfl rfl
    · exact .still rfl nofun rfl rfl
  | drained | look | deadline =>
    simp only [step] at h
    split at h <;> cases h
    exact .still rfl nofun rfl rfl

/-- **Each session that is there does one of the things of `Session.Step`**, whatever the event. -/
theorem session_step {v w : Server} {e : Event} {id : Nat} {s : Session}
    (h : v.step e = some w) (hs : v.session? id = some s) :
    ∃ t ds, w.session? id = some t ∧ w.deliveredFor id = v.deliveredFor id ++ ds ∧
      Session.Step v.settings v.outlets (v.registry.closing? id) id s e t ds := by
  cases step_effect h with
  | begins he hw hl =>
    refine ⟨s, [], ?_, ?_, .rest e fun f hf => nomatch he.symm.trans hf⟩
    · obtain ⟨p, hp, hps⟩ := Option.map_eq_some_iff.mp hs
      simp only [session?, hw, List.find?_append, hp, Option.some_or, Option.map_some, hps]
    · rw [List.append_nil, deliveredFor, hl, deliveredFor]
  | moves i u t ds he hu ht hw hl =>
    by_cases hi : id = i
    · subst hi
      obtain rfl : u = s := Option.some.inj (hu.symm.trans hs)
      refine ⟨t, ds, (session?_congr hw id).trans (session?_putSession_self hs), ?_, ht⟩
      rw [deliveredFor_append hl, if_pos rfl]
    · refine ⟨s, [], ?_, ?_, .rest e fun f hf => ?_⟩
      · rw [session?_congr hw, session?_putSession_of_ne hi, hs]
      · rw [deliveredFor_append hl, if_neg hi]
      · rw [hf] at he
        exact hi (Option.some.inj he)
  | still he hc hw hl =>
    refine ⟨s, [], (session?_congr hw id).trans hs, ?_, .rest e fun f hf => ?_⟩
    · rw [List.append_nil, deliveredFor, hl, deliveredFor]
    · rw [hf] at he
      cases he

/-- **A session begins when a client connects**, and in no other way; until then nothing arrives for
    it and nothing is delivered for it. -/
theorem session_birth {v w : Server} {e : Event} {id : Nat}
    (h : v.step e = some w) (hs : v.session? id = none) :
    w.deliveredFor id = v.deliveredFor id ∧ (∀ f, e ≠ .arrive id f) ∧
      w.session? id = if e = .connect ∧ id = v.sessions.length then some .start else none := by
  cases step_effect h with
  | begins he hw hl =>
    have hf : ∀ f, e ≠ .arrive id f := fun f hf => nomatch he.symm.trans hf
    refine ⟨by rw [deliveredFor, hl, deliveredFor], hf, ?_⟩
    have hn : v.sessions.find? (·.1 == id) = none := Option.map_eq_none_iff.mp hs
    by_cases hi : id = v.sessions.length
    · subst hi
      rw [if_pos ⟨he, rfl⟩]
      simp [session?, hw, List.find?_append, hn]
    · rw [if_neg fun hc => hi hc.2]
      simp [session?, hw, List.find?_append, hn, Ne.symm hi]
  | moves i u t ds he hu ht hw hl =>
    have hi : id ≠ i := fun hi => by rw [hi, hu] at hs; cases hs
    refine ⟨?_, fun f hf => hi ?_, ?_⟩
    · rw [deliveredFor_append hl, if_neg hi, List.append_nil]
    · rw [hf] at he
      exact Option.some.inj he
    · rw [session?_congr hw, session?_putSession_of_ne hi, hs, if_neg]
      rintro ⟨rfl, -⟩
      cases he
  | still he hc hw hl =>
    refine ⟨by rw [deliveredFor, hl, deliveredFor], fun f hf => ?_, ?_⟩
    · rw [hf] at he
      cases he
    · rw [session?_congr hw, hs, if_neg]
      rintro ⟨rfl, -⟩
      exact hc rfl

/-- **Where a session comes from**: it was there before the event, or the event began it. -/
theorem session_origin {v w : Server} {e : Event} {id : Nat} {t : Session}
    (h : v.step e = some w) (ht : w.session? id = some t) :
    (∃ s ds, v.session? id = some s ∧ w.deliveredFor id = v.deliveredFor id ++ ds ∧
      Session.Step v.settings v.outlets (v.registry.closing? id) id s e t ds) ∨
    (v.session? id = none ∧ w.deliveredFor id = v.deliveredFor id ∧ e = .connect ∧
      id = v.sessions.length ∧ t = .start) := by
  cases hs : v.session? id with
  | some s =>
    obtain ⟨u, ds, hu, hd, hst⟩ := session_step h hs
    obtain rfl : u = t := Option.some.inj (hu.symm.trans ht)
    exact .inl ⟨s, ds, rfl, hd, hst⟩
  | none =>
    obtain ⟨hd, -, hw⟩ := session_birth h hs
    rw [ht] at hw
    split at hw
    case isTrue hc => exact .inr ⟨rfl, hd, hc.1, hc.2, Option.some.inj hw⟩
    case isFalse => cases hw

/-! ## 4. Runs -/

/-- The servers that events lead to from a server, the events in their order. -/
inductive Leads (v : Server) : List Event → Server → Prop where
  | refl : Leads v [] v
  | step {es : List Event} {e : Event} {w x : Server} :
    Leads v es w → w.step e = some x → Leads v (es ++ [e]) x

/-- Events lead from the beginning to where the later ones lead from where the earlier ones did. -/
theorem reaches_trans {settings : Settings} {outlets : Outlets} {es es' : List Event}
    {v w : Server} (hv : Reaches settings outlets es v) (hw : Leads v es' w) :
    Reaches settings outlets (es ++ es') w := by
  induction hw with
  | refl => rwa [List.append_nil]
  | step _ h ih =>
    rw [← List.append_assoc]
    exact .step ih h

/-- The server after events, if each of them can happen where the ones before it lead. -/
def run (v : Server) (es : List Event) : Option Server := es.foldlM step v

/-- An event and what it leads to, the event first. -/
theorem leads_cons {v w x : Server} {e : Event} {es : List Event} (h : v.step e = some w)
    (hw : Leads w es x) : Leads v (e :: es) x := by
  induction hw with
  | refl => exact .step .refl h
  | step _ he ih => exact .step ih he

theorem leads_of_run {v w : Server} {es : List Event} (h : v.run es = some w) : Leads v es w := by
  induction es generalizing v with
  | nil =>
    cases h
    exact .refl
  | cons e es ih =>
    obtain ⟨x, hx, h⟩ := Option.bind_eq_some_iff.mp h
    exact leads_cons hx (ih h)

theorem reaches_of_run {settings : Settings} {outlets : Outlets} {es : List Event} {v : Server}
    (h : (start settings outlets).run es = some v) : Reaches settings outlets es v :=
  reaches_trans .start (leads_of_run h)

end Server

end ReceiptPrinting
