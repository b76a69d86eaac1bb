import ReceiptPrinting.Proofs.Server.Coherence
import ReceiptPrinting.Proofs.Server.Order

/-!
# Shutting down

Once a session has been asked to close, it takes no further frame, whatever waits for it. The job in
hand is run to its end, its reply is sent, the client is told goodbye, and that is all. The server
stops when every session has come this far, or when the time is up.

* `Session.InHand`: the reply that a session owes, and what is yet to reach printers for it;
* `Session.WindsDown`: how far a session is on its way to the end, one case for each place;
* `closesSession_step`: every event keeps to this way, hence every run does;
* **`servers_shut_down`**: sessions wind down, those that begin late never begin to work, and the
  server leaves none behind unless the time is up.
-/

namespace ReceiptPrinting

/-! ## 1. Sessions -/

namespace Session

section

variable (settings : Settings) (outlets : Outlets)

/-- The reply that a session has in hand, and what is yet to reach printers before it is sent. -/
inductive InHand (s : Session) : Reply → List Delivered → Prop where
  /-- The job is run as it always is. -/
  | job (x jobId : String) (hp : s.phase = .working x) :
      InHand s (Agent.process settings outlets jobId x).1
        (Agent.process settings outlets jobId x).2
  | reply (r : Reply) (hp : s.phase = .answering r) : InHand s r []

/-- **How far a session is, once it has been asked to close**: what it has sent since, what has
    reached printers for it since, and what it is at. `lost`: a reply of it could not be sent. -/
inductive WindsDown (s : Session) (lost : Prop) :
    List Outgoing → List Delivered → Phase → Prop where
  | stays (p : Phase) (hp : s.phase = p) : WindsDown s lost [] [] p
  /-- The job in hand has run. -/
  | ran (r : Reply) (ds : List Delivered) (h : InHand settings outlets s r ds) :
      WindsDown s lost [] ds (.answering r)
  | replied (r : Reply) (ds : List Delivered) (h : InHand settings outlets s r ds) :
      WindsDown s lost [.reply r] ds .open
  | unanswered (r : Reply) (ds : List Delivered) (h : InHand settings outlets s r ds)
      (hl : lost) : WindsDown s lost [] ds .ended
  | left (hp : s.phase = .open) : WindsDown s lost [goodbye] [] .ended
  | repliedAndLeft (r : Reply) (ds : List Delivered) (h : InHand settings outlets s r ds) :
      WindsDown s lost [.reply r, goodbye] ds .ended

end

variable {settings : Settings} {outlets : Outlets} {s t u : Session} {said : List Outgoing}
  {ds ds' : List Delivered} {lost lost' : Prop} {p : Phase}

theorem WindsDown.mono (hl : lost → lost') (h : s.WindsDown settings outlets lost said ds p) :
    s.WindsDown settings outlets lost' said ds p := by
  cases h with
  | stays _ hp => exact .stays p hp
  | ran r _ h => exact .ran r ds h
  | replied r _ h => exact .replied r ds h
  | unanswered r _ h hx => exact .unanswered r ds h (hl hx)
  | left hp => exact .left hp
  | repliedAndLeft r _ h => exact .repliedAndLeft r ds h

/-- **Every step of a session keeps to the way**, if the session has been asked to close or is no
    longer there to be asked. -/
theorem windsDown_step {closing : Option Bool} {id : Nat} {e : Event} (hc : closing ≠ some false)
    (hl : lost → lost') (hx : ∀ r, t.phase = .answering r → e = .answer id false → lost')
    (h : s.WindsDown settings outlets lost said ds t.phase)
    (ht : Step settings outlets closing id t e u ds') :
    u.taken = t.taken ∧ ∃ more, u.sent = t.sent ++ more ∧
      s.WindsDown settings outlets lost' (said ++ more) (ds ++ ds') u.phase := by
  have h : s.WindsDown settings outlets lost' said ds t.phase := h.mono hl
  cases ht with
  | rest _ _ | arrive f =>
    refine ⟨rfl, [], (List.append_nil _).symm, ?_⟩
    rw [List.append_nil, List.append_nil]
    exact h
  | goodbye ping i hp _ =>
    refine ⟨rfl, [goodbye], rfl, ?_⟩
    rw [hp] at h
    cases h with
    | stays _ hs => exact .left hs
    | replied r _ h =>
      rw [List.append_nil]
      exact .repliedAndLeft r ds h
  | ping _ _ hc' | pingLost _ _ hc' | take _ _ _ _ hc' _ => exact absurd hc' hc
  | work x i hp =>
    refine ⟨rfl, [], (List.append_nil _).symm, ?_⟩
    rw [hp] at h
    cases h with
    | stays _ hs => exact .ran _ _ (.job x i hs)
  | reply r hp =>
    refine ⟨rfl, [.reply r], rfl, ?_⟩
    rw [hp] at h
    rw [List.append_nil]
    cases h with
    | stays _ hs => exact .replied r [] (.reply r hs)
    | ran _ _ h => exact .replied r ds h
  | replyLost r hp =>
    refine ⟨rfl, [], (List.append_nil _).symm, ?_⟩
    have hlost : lost' := hx r hp rfl
    rw [hp] at h
    rw [List.append_nil, List.append_nil]
    cases h with
    | stays _ hs => exact .unanswered r [] (.reply r hs) hlost
    | ran _ _ h => exact .unanswered r ds h hlost

/-- A session with nothing in hand does nothing but say goodbye, if it has not ended. -/
theorem windsDown_idle (hs : s.phase = .open ∨ s.phase = .ended)
    (h : s.WindsDown settings outlets lost said ds p) :
    ds = [] ∧ (said = [] ∧ p = s.phase ∨ s.phase = .open ∧ said = [goodbye] ∧ p = .ended) := by
  have hn (r : Reply) (ds : List Delivered) : ¬ InHand settings outlets s r ds := by
    intro hi
    cases hi with
    | job x i hp | reply _ hp =>
      rw [hp] at hs
      rcases hs with hs | hs <;> cases hs
  cases h with
  | stays _ hp => exact ⟨rfl, .inl ⟨rfl, hp.symm⟩⟩
  | left hp => exact ⟨rfl, .inr ⟨hp, rfl, rfl⟩⟩
  | ran r _ h | replied r _ h | unanswered r _ h _ | repliedAndLeft r _ h => exact absurd h (hn _ _)

/-- A session that has wound down has said goodbye, unless its reply was lost. -/
theorem windsDown_ended (hs : s.phase ≠ .ended)
    (h : s.WindsDown settings outlets lost said ds .ended) :
    lost ∨ said.getLast? = some goodbye := by
  cases h with
  | stays _ hp => exact absurd hp hs
  | unanswered r _ _ hl => exact .inl hl
  | left _ | repliedAndLeft _ _ _ => exact .inr rfl

end Session

/-! ## 2. Runs -/

namespace Server

/-- Among events there is one by which the reply that a session is about to send cannot be sent. -/
def LosesReply (v : Server) (id : Nat) (es : List Event) : Prop :=
  ∃ before after w s r, es = before ++ .answer id false :: after ∧ Leads v before w ∧
    w.session? id = some s ∧ s.phase = .answering r

/-- **The session of an id on its way to the end**: `s` is the session when it has been asked to
    close, at the server `v`, and `t` is what events have made of it. -/
structure ClosesSession (v : Server) (id : Nat) (s : Session) (es : List Event) (w : Server)
    (t : Session) (said : List Outgoing) (ds : List Delivered) : Prop where
  session : w.session? id = some t
  /-- No further frame is taken. -/
  taken : t.taken = s.taken
  sent : t.sent = s.sent ++ said
  delivered : w.deliveredFor id = v.deliveredFor id ++ ds
  winds : s.WindsDown v.settings v.outlets (v.LosesReply id es) said ds t.phase

section

variable {v w x : Server} {id : Nat} {s t : Session} {es : List Event} {e : Event}
  {said : List Outgoing} {ds : List Delivered}

theorem losesReply_append (e : Event) (h : v.LosesReply id es) : v.LosesReply id (es ++ [e]) := by
  obtain ⟨before, after, w, s, r, rfl, hw, hs, hp⟩ := h
  exact ⟨before, after ++ [e], w, s, r, List.append_assoc _ _ _, hw, hs, hp⟩

theorem leads_fixed (h : Leads v es w) : w.settings = v.settings ∧ w.outlets = v.outlets := by
  induction h with
  | refl => exact ⟨rfl, rfl⟩
  | step _ he ih =>
    obtain ⟨hs, ho⟩ := step_fixed he
    exact ⟨hs.trans ih.1, ho.trans ih.2⟩

/-- That a session has been asked to close is not taken back while it is there. -/
theorem asked_step (hv : v.Coherent) (hs : v.session? id = some s)
    (ha : v.registry.closing? id ≠ some false) (h : v.step e = some w) :
    w.registry.closing? id ≠ some false := by
  rw [closing?_step hv h]
  exact closingAfter_asked (fun hi => absurd hi (Nat.ne_of_lt (hv.fresh id s hs))) ha

/-- **Every event keeps a session on its way.** -/
theorem closesSession_step (hw : Leads v es w) (ha : w.registry.closing? id ≠ some false)
    (hc : v.ClosesSession id s es w t said ds) (h : w.step e = some x) :
    ∃ u more ds', v.ClosesSession id s (es ++ [e]) x u (said ++ more) (ds ++ ds') := by
  obtain ⟨u, ds', hu, hd, hst⟩ := session_step h hc.session
  obtain ⟨hset, hout⟩ := leads_fixed hw
  rw [hset, hout] at hst
  have hx : ∀ r, t.phase = .answering r → e = .answer id false → v.LosesReply id (es ++ [e]) := by
    rintro r hp rfl
    exact ⟨es, [], w, t, r, rfl, hw, hc.session, hp⟩
  obtain ⟨htaken, more, hsent, hwinds⟩ :=
    Session.windsDown_step ha (losesReply_append e) hx hc.winds hst
  refine ⟨u, more, ds', ?_⟩
  constructor
  case session => exact hu
  case taken => rw [htaken, hc.taken]
  case sent => rw [hsent, hc.sent, List.append_assoc]
  case delivered => rw [hd, hc.delivered, List.append_assoc]
  case winds => exact hwinds

/-- **A session that has been asked to close is on its way from then on.** -/
theorem closesSession_of_leads (hv : v.Coherent) (hs : v.session? id = some s)
    (ha : v.registry.closing? id ≠ some false) (h : Leads v es w) :
    w.registry.closing? id ≠ some false ∧ ∃ t said ds, v.ClosesSession id s es w t said ds := by
  induction h with
  | refl =>
    exact ⟨ha, s, [], [], hs, rfl, (List.append_nil _).symm, (List.append_nil _).symm,
      .stays _ rfl⟩
  | step hw he ih =>
    obtain ⟨hw', t, said, ds, hc⟩ := ih
    obtain ⟨u, more, ds', hu⟩ := closesSession_step hw hw' hc he
    exact ⟨asked_step (coherent_of_leads hv hw) hc.session hw' he, u, _, _, hu⟩

/-- A session that begins after all have been asked to close is on its way from the start. -/
theorem closesSession_of_late (hv : v.Coherent) (hc : v.registry.closed = true)
    (hn : v.session? id = none) (h : Leads v es w) :
    w.registry.closed = true ∧ (w.session? id = none ∧ w.deliveredFor id = v.deliveredFor id ∨
      ∃ t said ds, v.ClosesSession id .start es w t said ds) := by
  induction h with
  | refl => exact ⟨hc, .inl ⟨hn, rfl⟩⟩
  | @step es e w x hw he ih =>
    obtain ⟨hclosed, ih⟩ := ih
    have hx : x.registry.closed = true := (step_turn he).closed.mpr (.inl hclosed)
    refine ⟨hx, ?_⟩
    rcases ih with ⟨hnone, hd⟩ | ⟨t, said, ds, ht⟩
    · obtain ⟨hdx, -, -⟩ := session_birth he hnone
      cases hs : x.session? id with
      | none => exact .inl ⟨rfl, hdx.trans hd⟩
      | some t =>
        rcases session_origin he hs with ⟨u, _, hu, -, -⟩ | ⟨-, -, -, -, rfl⟩
        · cases hnone.symm.trans hu
        · refine .inr ⟨.start, [], [], hs, rfl, rfl, ?_, .stays _ rfl⟩
          rw [hdx, hd, List.append_nil]
    · have ha : w.registry.closing? id ≠ some false :=
        (coherent_of_leads hv hw).asked hclosed id
      obtain ⟨u, more, ds', hu⟩ := closesSession_step hw ha ht he
      exact .inr ⟨u, _, _, hu⟩

/-- A session that has been asked to close says goodbye as soon as it looks what to do next. -/
theorem poll_asked (hs : v.session? id = some s) (ha : v.registry.closing? id = some true)
    (hp : s.phase = .open) (ping : Keepalive) (jobId : String) :
    ∃ w, v.step (.poll id ping jobId) = some w ∧
      w.session? id = some { s with sent := s.sent ++ [Session.goodbye], phase := .ended } ∧
      w.registry = v.registry ∧ w.log = v.log := by
  refine ⟨v.putSession id (s.poll true ping jobId), ?_, ?_, rfl, rfl⟩
  · simp only [step, hs, ha]
    rfl
  · rw [session?_putSession_self hs]
    simp only [Session.poll, hp, Session.choose, if_true]

/-- A job in hand can be run, answered, and followed by goodbye: what reaches printers and what is
    replied is what the job comes to. -/
theorem finishes_asked {text : String} (hs : v.session? id = some s)
    (ha : v.registry.closing? id = some true) (hp : s.phase = .working text) (i : String)
    (ping : Keepalive) (j : String) :
    ∃ w, Leads v [.work id i, .answer id true, .poll id ping j] w ∧
      w.session? id = some
        { s with
          sent := s.sent ++
            [.reply (Agent.process v.settings v.outlets i text).1, Session.goodbye]
          phase := .ended } ∧
      w.deliveredFor id =
        v.deliveredFor id ++ (Agent.process v.settings v.outlets i text).2 := by
  -- the job runs
  have hwork : s.work v.settings v.outlets i =
      ({ s with phase := .answering (Agent.process v.settings v.outlets i text).1 },
        (Agent.process v.settings v.outlets i text).2) := by
    simp only [Session.work, hp]
  obtain ⟨w₁, h₁, hs₁, hr₁, hl₁⟩ : ∃ w₁, v.step (.work id i) = some w₁ ∧
      w₁.session? id = some (s.work v.settings v.outlets i).1 ∧ w₁.registry = v.registry ∧
      w₁.log = v.log ++ (s.work v.settings v.outlets i).2.map fun d => (id, d) := by
    refine ⟨_, congrArg (Option.map _) hs, ?_, rfl, rfl⟩
    exact session?_putSession_self hs
  rw [hwork] at hs₁ hl₁
  -- the reply is sent
  obtain ⟨w₂, h₂, hs₂, hr₂, hl₂⟩ : ∃ w₂, w₁.step (.answer id true) = some w₂ ∧
      w₂.session? id = some
        { s with
          sent := s.sent ++ [.reply (Agent.process v.settings v.outlets i text).1]
          phase := .open } ∧
      w₂.registry = w₁.registry ∧ w₂.log = w₁.log := by
    refine ⟨_, congrArg (Option.map _) hs₁, ?_, rfl, rfl⟩
    exact session?_putSession_self hs₁
  -- and the session looks what to do next
  have ha₂ : w₂.registry.closing? id = some true := by rw [hr₂, hr₁, ha]
  obtain ⟨w₃, h₃, hs₃, -, hl₃⟩ := poll_asked hs₂ ha₂ rfl ping j
  refine ⟨w₃, .step (.step (.step .refl h₁) h₂) h₃, ?_, ?_⟩
  · rw [hs₃, List.append_assoc]
    rfl
  · have hl : w₃.log = v.log ++
        (Agent.process v.settings v.outlets i text).2.map fun d => (id, d) := by
      rw [hl₃, hl₂, hl₁]
    rw [deliveredFor_append hl, if_pos rfl]

/-- **Once no session is left, nothing more reaches a printer.** -/
theorem quiet_of_stopped (hv : v.Coherent) (hc : v.registry.closed = true)
    (h0 : v.registry.count = 0) (h : Leads v es w) (id : Nat) :
    w.deliveredFor id = v.deliveredFor id := by
  cases hs : v.session? id with
  | some s =>
    have hn : v.registry.closing? id = none := Registry.closing?_eq_none_of_count h0 id
    have ha : v.registry.closing? id ≠ some false := by
      rw [hn]
      exact nofun
    obtain ⟨-, t, said, ds, ht⟩ := closesSession_of_leads hv hs ha h
    obtain ⟨hds, -⟩ := Session.windsDown_idle (.inr (hv.left id s hs hn)) ht.winds
    rw [ht.delivered, hds, List.append_nil]
  | none =>
    obtain ⟨-, ⟨-, hd⟩ | ⟨t, said, ds, ht⟩⟩ := closesSession_of_late hv hc hs h
    · exact hd
    · obtain ⟨hds, -⟩ := Session.windsDown_idle (.inl rfl) ht.winds
      rw [ht.delivered, hds, List.append_nil]

end

/-! ## 3. Shutting down -/

/-- **Shutting down.** `es` are the events that have led to the server; whatever events follow, each
    of the following holds of them. -/
structure ShutsDown (settings : Settings) (outlets : Outlets) (es : List Event) (v : Server) :
    Prop where
  /-- Asking every session to close reaches each one that has not ended. -/
  asked : .closeAll ∈ es → ∀ id s, v.session? id = some s → s.phase ≠ .ended →
    v.registry.closing? id = some true
  /-- A session that has been asked takes no further frame; it runs the job in hand, sends its
      reply, says goodbye, each at most once and in this order, and nothing else. -/
  closes : ∀ id s, v.session? id = some s → v.registry.closing? id = some true →
    ∀ fs w, Leads v fs w → ∃ t said ds, v.ClosesSession id s fs w t said ds
  /-- It runs the job in hand as it would have otherwise, and can always come to the end. -/
  finishes : ∀ id s x, v.session? id = some s → v.registry.closing? id = some true →
    s.phase = .working x → ∀ i ping j, ∃ w,
      Leads v [.work id i, .answer id true, .poll id ping j] w ∧
      w.session? id = some
        { s with
          sent := s.sent ++ [.reply (Agent.process settings outlets i x).1, Session.goodbye]
          phase := .ended } ∧
      w.deliveredFor id = v.deliveredFor id ++ (Agent.process settings outlets i x).2
  /-- If it ends, it has said goodbye last, unless its reply could not be sent. -/
  goodbye : ∀ id s, v.session? id = some s → v.registry.closing? id = some true →
    s.phase ≠ .ended → ∀ fs w t, Leads v fs w → w.session? id = some t → t.phase = .ended →
      v.LosesReply id fs ∨ t.sent.getLast? = some Session.goodbye
  /-- An open session that has been asked says goodbye the next time it looks what to do. -/
  leaves : ∀ id s, v.session? id = some s → v.registry.closing? id = some true →
    s.phase = .open → ∀ ping j, ∃ w, v.step (.poll id ping j) = some w ∧
      w.session? id = some { s with sent := s.sent ++ [Session.goodbye], phase := .ended }
  /-- A session that begins after all have been asked takes no frame, and says goodbye only. -/
  late : .closeAll ∈ es → ∀ id, v.session? id = none → ∀ fs w t, Leads v fs w →
    w.session? id = some t → t.taken = [] ∧ w.deliveredFor id = [] ∧
      (t.sent = [] ∧ t.phase = .open ∨ t.sent = [Session.goodbye] ∧ t.phase = .ended)
  /-- A server that has stopped has been cancelled. -/
  cancelled : v.hasStopped = true → .cancel ∈ es
  /-- A server stops when each session has ended and left, and then nothing more reaches a printer;
      or it stops because the time is up. -/
  stops : ∀ e w, v.step e = some w → v.hasStopped = false → w.hasStopped = true →
    (e = .look ∧ w.phase = .stopped ∧ w.registry.count = 0 ∧
      (∀ id s, w.session? id = some s → s.phase = .ended) ∧
      ∀ fs x id, Leads w fs x → x.deliveredFor id = w.deliveredFor id) ∨
    (e = .deadline ∧ w.phase = .timedOut)

/-- **From every state that events lead to, a server shuts down in this way**, whatever it is at. -/
theorem servers_shut_down {settings : Settings} {outlets : Outlets} {es : List Event} {v : Server}
    (h : Reaches settings outlets es v) : v.ShutsDown settings outlets es := by
  have hv : v.Coherent := coherent_of_reaches h
  have asked {id : Nat} (ha : v.registry.closing? id = some true) :
      v.registry.closing? id ≠ some false := by
    simp [ha]
  constructor
  case asked =>
    intro hc id s hs hp
    have hn : v.registry.closing? id ≠ some false :=
      hv.asked ((closed_iff_of_reaches h).mpr hc) id
    cases ha : v.registry.closing? id with
    | none => exact absurd (hv.left id s hs ha) hp
    | some c =>
      cases c with
      | true => rfl
      | false => exact absurd ha hn
  case closes =>
    intro id s hs ha fs w hw
    exact (closesSession_of_leads hv hs (asked ha) hw).2
  case finishes =>
    intro id s x hs ha hp i ping j
    obtain ⟨hset, hout⟩ := reaches_fixed h
    rw [← hset, ← hout]
    exact finishes_asked hs ha hp i ping j
  case goodbye =>
    intro id s hs ha hp fs w t hw ht he
    obtain ⟨-, u, said, ds, hu⟩ := closesSession_of_leads hv hs (asked ha) hw
    obtain rfl : u = t := Option.some.inj (hu.session.symm.trans ht)
    have hwinds := hu.winds
    rw [he] at hwinds
    rcases Session.windsDown_ended hp hwinds with hl | hl
    · exact .inl hl
    · refine .inr ?_
      rw [hu.sent, List.getLast?_append, hl]
      rfl
  case leaves =>
    intro id s hs ha hp ping j
    obtain ⟨w, hw, ht, -, -⟩ := poll_asked hs ha hp ping j
    exact ⟨w, hw, ht⟩
  case late =>
    intro hc id hn fs w t hw ht
    have hclosed : v.registry.closed = true := (closed_iff_of_reaches h).mpr hc
    obtain ⟨-, ⟨hnone, -⟩ | ⟨u, said, ds, hu⟩⟩ := closesSession_of_late hv hclosed hn hw
    · cases hnone.symm.trans ht
    · obtain rfl : u = t := Option.some.inj (hu.session.symm.trans ht)
      obtain ⟨hds, hsaid⟩ := Session.windsDown_idle (.inl rfl) hu.winds
      refine ⟨hu.taken, ?_, ?_⟩
      · rw [hu.delivered, hds, (unborn_of_reaches h hn).2]
        rfl
      · rw [hu.sent]
        rcases hsaid with ⟨rfl, hp⟩ | ⟨-, rfl, hp⟩
        · exact .inl ⟨rfl, hp⟩
        · exact .inr ⟨rfl, hp⟩
  case cancelled =>
    intro hs
    refine (cancelled_iff_of_reaches h).mp (hv.cancelled fun hp => ?_)
    rw [hasStopped, hp] at hs
    cases hs
  case stops =>
    intro e w he hs ht
    have hw : w.Coherent := coherent_step hv he
    rcases stops_step hv he hs ht with ⟨hl, hp, h0, hall⟩ | hd
    · refine .inl ⟨hl, hp, h0, hall, fun fs x id hx => ?_⟩
      have hclosed : w.registry.closed = true := hw.closed (by simp [hp]) (by simp [hp])
      exact quiet_of_stopped hw hclosed h0 hx id
    · exact .inr hd

/-- A session is asked to close with a job in hand and another one waiting; a second one begins
    late. The server looks too early, sleeps, and stops when both have left. -/
def closingTime : List Event :=
  [.connect, .arrive 0 (.text "\x7b\"type\":\"drawer\"\x7d"), .poll 0 .notDue "1",
    .arrive 0 (.text "\x7b\"type\":\"drawer\"\x7d"), .cancel, .closeAll, .connect,
    .arrive 1 (.text "\x7b\"type\":\"drawer\"\x7d"), .drained, .look, .work 0 "1",
    .answer 0 true, .poll 1 .notDue "2", .poll 0 .notDue "3", .leave 1, .look, .leave 0, .look]

theorem servers_shut_down_closingTime : ∃ v,
    Reaches .standard (.oneQueue "Bar") closingTime v ∧ v.phase = .stopped ∧
    v.session? 0 = some
      { inbox := [.text "\x7b\"type\":\"drawer\"\x7d"]
        taken := [.text "\x7b\"type\":\"drawer\"\x7d"]
        sent := [.reply (.done "1" "Cash drawer opened via Bar"), Session.goodbye]
        phase := .ended } ∧
    (v.session? 1).map (·.sent) = some [Session.goodbye] ∧ v.log.length = 1 ∧
    v.ShutsDown .standard (.oneQueue "Bar") closingTime := by
  have hrun : ((start .standard (.oneQueue "Bar")).run closingTime).map (fun v =>
      (v.phase, v.session? 0, (v.session? 1).map (·.sent), v.log.length)) =
      some (.stopped, some
        { inbox := [.text "\x7b\"type\":\"drawer\"\x7d"]
          taken := [.text "\x7b\"type\":\"drawer\"\x7d"]
          sent := [.reply (.done "1" "Cash drawer opened via Bar"), Session.goodbye]
          phase := .ended }, some [Session.goodbye], 1) := by
    decide +kernel
  obtain ⟨v, hv, hf⟩ := Option.map_eq_some_iff.mp hrun
  obtain ⟨hp, h0, h1, hl⟩ : _ ∧ _ ∧ _ ∧ _ := by simpa only [Prod.mk.injEq] using hf
  have hr : Reaches .standard (.oneQueue "Bar") closingTime v := reaches_of_run hv
  exact ⟨v, hr, hp, h0, h1, hl, servers_shut_down hr⟩

end Server

end ReceiptPrinting
