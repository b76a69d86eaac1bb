import ReceiptPrinting.Proofs.Delivery
import ReceiptPrinting.Proofs.Server.Step

/-!
# Order within a session, however sessions take turns

Sessions share one agent and one spooler, and their steps come in any order. What a session does to
its own frames is what it would do alone: it takes them as they arrive, none twice and none left
out, and answers each that wants an answer before it takes the next.

* `Agent.verdict?`, `Agent.spoolJobs`: what one frame comes to on its own;
* `Session.Standing`: how far a session is with the frames it has taken, one case for each phase;
* `standing_step`, `standing_of_reaches`: every event keeps it, hence every run does;
* `IsInterleaving`: a list that is put together from the lists of several owners;
* **`sessions_keep_order`**: the order of frames, replies and spool jobs in every state that events
  lead to.
-/

namespace ReceiptPrinting

/-! ## 1. One frame on its own -/

/-- What a reply says, whatever the attempt is called. -/
def Reply.verdict (r : Reply) : Bool × String := (r.success, r.message)

/-- The reply in what is sent to a client, if it is one. -/
def Outgoing.reply? : Outgoing → Option Reply
  | reply r => some r
  | ping | close _ _ => none

/-- The replies that a session has sent, in order. -/
def Session.replies (s : Session) : List Reply := s.sent.filterMap Outgoing.reply?

/-- Is it a job for the spooler? -/
def Delivered.isSpooled : Delivered → Bool
  | spooled .. => true
  | sent .. => false

namespace Agent

section

variable (settings : Settings) (outlets : Outlets) (jobId : String)

/-- What a frame is answered, taken alone. A text is a job, a binary frame is none, and all other
    frames want no answer. -/
def verdict? : Incoming → Option (Bool × String)
  | .text x => some (process settings outlets jobId x).1.verdict
  | .binary _ => some (false, "Invalid print job format")
  | .ping _ | .pong _ | .close | .ended | .broken => none

/-- What reaches printers for a frame, taken alone. -/
def deliveries : Incoming → List Delivered
  | .text x => (process settings outlets jobId x).2
  | .binary _ | .ping _ | .pong _ | .close | .ended | .broken => []

/-- The spool job of a frame, taken alone, if it is a job that succeeds. -/
def spoolJobs : Incoming → List Delivered
  | .text x =>
    if (process settings outlets jobId x).1.success then
      (process settings outlets jobId x).2.filter Delivered.isSpooled
    else []
  | .binary _ | .ping _ | .pong _ | .close | .ended | .broken => []

/-- The name of an attempt is all that two attempts at one text differ in. -/
theorem process_jobId (i x : String) :
    (process settings outlets i x).1.verdict = (process settings outlets jobId x).1.verdict ∧
      (process settings outlets i x).2 = (process settings outlets jobId x).2 := by
  rcases process_cases settings outlets x with ⟨j, t, -, hp⟩ | ⟨-, message, hp⟩
  all_goals
    rw [hp i, hp jobId]
    exact ⟨rfl, rfl⟩

/-- A job that fails leaves nothing at the spooler, so that the jobs there are those that
    succeeded. -/
theorem filter_deliveries (f : Incoming) :
    (deliveries settings outlets jobId f).filter Delivered.isSpooled =
      spoolJobs settings outlets jobId f := by
  cases f with
  | text x =>
    rcases process_cases settings outlets x with ⟨j, t, -, hp⟩ | ⟨-, message, hp⟩
    · simp only [deliveries, spoolJobs, hp, Reply.done, if_true]
    · simp only [deliveries, spoolJobs, hp, List.filter_nil, ite_self]
  | binary d | ping d | pong d | close | ended | broken => rfl

/-- One frame is one job at most. -/
theorem length_spoolJobs_le (f : Incoming) : (spoolJobs settings outlets jobId f).length ≤ 1 := by
  rw [← filter_deliveries]
  refine Nat.le_trans (List.length_filter_le _ _) ?_
  cases f with
  | text x =>
    rcases process_cases settings outlets x with ⟨j, t, -, hp⟩ | ⟨-, message, hp⟩
    · simp only [deliveries, hp]
      exact Nat.le_refl 1
    · simp only [deliveries, hp]
      exact Nat.zero_le 1
  | binary d | ping d | pong d | close | ended | broken => exact Nat.zero_le 1

end

end Agent

/-! ## 2. How far a session is -/

/-- **How far a session is with the frames it has taken**: what it has replied, and what has reached
    printers for it. All frames have their reply but for the last one, which may be in hand. -/
inductive Session.Standing (settings : Settings) (outlets : Outlets) (jobId : String)
    (taken : List Incoming) (replies : List Reply) (delivered : List Delivered) :
    Phase → Prop where
  | idle
      (hr : replies.map Reply.verdict = taken.filterMap (Agent.verdict? settings outlets jobId))
      (hd : delivered = taken.flatMap (Agent.deliveries settings outlets jobId)) :
      Standing settings outlets jobId taken replies delivered .open
  /-- The job in hand has not reached a printer. -/
  | working (fs : List Incoming) (x : String) (ht : taken = fs ++ [.text x])
      (hr : replies.map Reply.verdict = fs.filterMap (Agent.verdict? settings outlets jobId))
      (hd : delivered = fs.flatMap (Agent.deliveries settings outlets jobId)) :
      Standing settings outlets jobId taken replies delivered (.working x)
  | answering (fs : List Incoming) (f : Incoming) (r : Reply) (ht : taken = fs ++ [f])
      (hv : Agent.verdict? settings outlets jobId f = some r.verdict)
      (hr : replies.map Reply.verdict = fs.filterMap (Agent.verdict? settings outlets jobId))
      (hd : delivered = taken.flatMap (Agent.deliveries settings outlets jobId)) :
      Standing settings outlets jobId taken replies delivered (.answering r)
  | ended
      (hr : replies.map Reply.verdict = taken.filterMap (Agent.verdict? settings outlets jobId))
      (hd : delivered = taken.flatMap (Agent.deliveries settings outlets jobId)) :
      Standing settings outlets jobId taken replies delivered .ended
  /-- The reply to the last frame could not be sent. -/
  | unanswered (fs : List Incoming) (f : Incoming) (ht : taken = fs ++ [f])
      (hr : replies.map Reply.verdict = fs.filterMap (Agent.verdict? settings outlets jobId))
      (hd : delivered = taken.flatMap (Agent.deliveries settings outlets jobId)) :
      Standing settings outlets jobId taken replies delivered .ended

section

variable {settings : Settings} {outlets : Outlets} {jobId : String}

open Session (Standing)

/-- A frame that is taken becomes the one in hand, or is dealt with at once. -/
theorem standing_take {taken : List Incoming} {replies : List Reply} {delivered : List Delivered}
    (h : Standing settings outlets jobId taken replies delivered .open) (i : String)
    (f : Incoming) :
    Standing settings outlets jobId (taken ++ [f]) replies delivered (Session.phaseAfter i f) := by
  cases h with
  | idle hr hd =>
    cases f with
    | text x => exact .working taken x rfl hr hd
    | binary d =>
      refine .answering taken (.binary d) _ rfl rfl hr ?_
      rw [List.flatMap_append, ← hd]
      exact (List.append_nil _).symm
    | ping d | pong d =>
      refine .idle ?_ ?_
      · rw [List.filterMap_append, ← hr]
        exact (List.append_nil _).symm
      · rw [List.flatMap_append, ← hd]
        exact (List.append_nil _).symm
    | close | ended | broken =>
      refine .ended ?_ ?_
      · rw [List.filterMap_append, ← hr]
        exact (List.append_nil _).symm
      · rw [List.flatMap_append, ← hd]
        exact (List.append_nil _).symm

/-- **Every step of a session keeps its standing.** -/
theorem standing_step {closing : Option Bool} {id : Nat} {e : Event} {s t : Session}
    {delivered ds : List Delivered}
    (h : Standing settings outlets jobId s.taken s.replies delivered s.phase)
    (hs : Session.Step settings outlets closing id s e t ds) :
    Standing settings outlets jobId t.taken t.replies (delivered ++ ds) t.phase := by
  -- what is sent besides replies does not count
  have said (o : Outgoing) (ho : o.reply? = none) :
      (s.sent ++ [o]).filterMap Outgoing.reply? = s.replies := by
    simp [Session.replies, List.filterMap_append, ho]
  cases hs with
  | rest _ _ | arrive f => rwa [List.append_nil]
  | goodbye ping i hp hc =>
    rw [hp] at h
    cases h with
    | idle hr hd =>
      rw [List.append_nil]
      exact .ended (by rw [Session.replies, said _ rfl, hr]) hd
  | ping i hp hc =>
    rw [hp] at h
    cases h with
    | idle hr hd =>
      rw [List.append_nil]
      exact .idle (by rw [Session.replies, said _ rfl, hr]) hd
  | pingLost i hp hc =>
    rw [hp] at h
    cases h with
    | idle hr hd =>
      rw [List.append_nil]
      exact .ended hr hd
  | take f rest i hp hc hi =>
    rw [hp] at h
    rw [List.append_nil]
    exact standing_take h i f
  | work x i hp =>
    rw [hp] at h
    cases h with
    | working fs y ht hr hd =>
      obtain ⟨hv, hl⟩ := Agent.process_jobId settings outlets jobId i x
      refine .answering fs (.text x) _ ht ?_ hr ?_
      · rw [hv]
        rfl
      · rw [ht, List.flatMap_append, ← hd, hl]
        exact congrArg _ (List.append_nil _).symm
  | reply r hp =>
    rw [hp] at h
    cases h with
    | answering fs f _ ht hv hr hd =>
      rw [List.append_nil]
      refine .idle ?_ hd
      have hf : [f].filterMap (Agent.verdict? settings outlets jobId) = [r.verdict] := by
        simp [hv]
      rw [ht, List.filterMap_append, ← hr, hf, Session.replies, List.filterMap_append,
        List.map_append]
      rfl
  | replyLost r hp =>
    rw [hp] at h
    cases h with
    | answering fs f _ ht hv hr hd =>
      rw [List.append_nil]
      exact .unanswered fs f ht hr hd

/-! ## 3. Arrivals -/

/-- The frame that an event brings to the session of an id. -/
def Event.arrival? (id : Nat) : Event → Option Incoming
  | arrive i f => if i = id then some f else none
  | _ => none

/-- The frames that events bring to the session of an id, in order. -/
def arrivals (id : Nat) (es : List Event) : List Incoming := es.filterMap (Event.arrival? id)

theorem arrivals_append (id : Nat) (es : List Event) (e : Event) :
    arrivals id (es ++ [e]) = arrivals id es ++ (e.arrival? id).toList := by
  unfold arrivals
  rw [List.filterMap_append]
  cases h : e.arrival? id <;> simp [h]

theorem arrival?_eq_none {id : Nat} {e : Event} (h : ∀ f, e ≠ .arrive id f) :
    e.arrival? id = none := by
  cases e with
  | arrive i f => exact if_neg fun hi => h f (by rw [hi])
  | connect | poll _ _ _ | work _ _ | answer _ _ | leave _ | cancel | closeAll | drained | look
  | deadline => rfl

/-- A frame that has arrived waits until it is taken, and those that arrived before it are taken
    first. -/
theorem frames_step {closing : Option Bool} {id : Nat} {e : Event} {s t : Session}
    {ds : List Delivered} (hs : Session.Step settings outlets closing id s e t ds) :
    t.taken ++ t.inbox = s.taken ++ s.inbox ++ (e.arrival? id).toList := by
  cases hs with
  | rest _ h =>
    rw [arrival?_eq_none h]
    exact (List.append_nil _).symm
  | arrive f =>
    have ha : (Event.arrive id f).arrival? id = some f := if_pos rfl
    rw [ha]
    exact (List.append_assoc _ _ _).symm
  | take f rest i hp hc hi =>
    show s.taken ++ [f] ++ rest = s.taken ++ s.inbox ++ []
    rw [hi, List.append_nil, List.append_assoc]
    rfl
  | goodbye _ _ _ _ | ping _ _ _ | pingLost _ _ _ | work _ _ _ | reply _ _ | replyLost _ _ =>
    exact (List.append_nil _).symm

/-! ## 4. Runs -/

namespace Server

theorem reaches_fixed {es : List Event} {v : Server} (h : Reaches settings outlets es v) :
    v.settings = settings ∧ v.outlets = outlets := by
  induction h with
  | start => exact ⟨rfl, rfl⟩
  | step _ he ih =>
    obtain ⟨hs, ho⟩ := step_fixed he
    exact ⟨hs.trans ih.1, ho.trans ih.2⟩

/-- Before a session begins, nothing arrives for it and nothing is delivered for it. -/
theorem unborn_of_reaches {es : List Event} {v : Server} (h : Reaches settings outlets es v)
    {id : Nat} (hn : v.session? id = none) : arrivals id es = [] ∧ v.deliveredFor id = [] := by
  induction h with
  | start => exact ⟨rfl, rfl⟩
  | @step es e v w _ he ih =>
    cases hv : v.session? id with
    | some s =>
      obtain ⟨t, -, ht, -⟩ := session_step he hv
      rw [hn] at ht
      cases ht
    | none =>
      obtain ⟨ha, hd⟩ := ih hv
      obtain ⟨hl, hf, -⟩ := session_birth he hv
      rw [arrivals_append, arrival?_eq_none hf, ha, hl, hd]
      exact ⟨rfl, rfl⟩

/-- **In every state that events lead to, each session has taken its frames in order and is in good
    standing with them**: it is so when it begins, and every event keeps it. -/
theorem standing_of_reaches (jobId : String) {es : List Event} {v : Server}
    (h : Reaches settings outlets es v) {id : Nat} {s : Session} (hs : v.session? id = some s) :
    s.taken ++ s.inbox = arrivals id es ∧
      Standing settings outlets jobId s.taken s.replies (v.deliveredFor id) s.phase := by
  induction h generalizing s with
  | start => cases hs
  | @step es e v w hr he ih =>
    rcases session_origin he hs with ⟨u, ds, hv, hd, hst⟩ | ⟨hv, hl, -, -, rfl⟩
    · obtain ⟨hf, hu⟩ := ih hv
      obtain ⟨hset, hout⟩ := reaches_fixed hr
      rw [hset, hout] at hst
      rw [arrivals_append, ← hf, hd]
      exact ⟨frames_step hst, standing_step hu hst⟩
    · obtain ⟨ha, hd⟩ := unborn_of_reaches hr hv
      have hf : ∀ f, e ≠ .arrive id f := (session_birth he hv).2.1
      rw [arrivals_append, arrival?_eq_none hf, ha, hl, hd]
      exact ⟨rfl, .idle rfl rfl⟩

end Server

/-! ## 5. Answers -/

/-- **Each frame has its own answer, and in order.** Of the frames taken, those `answered` have had
    their replies, one for each that wants one, each saying what it says to its frame alone; the
    frame in `hand`, one at most, has not, and a session that looks for the next frame has none in
    hand. The spooler has got the jobs of the same frames, in their order, and `done`, which is at
    most the job of the frame in hand. -/
structure Session.AnswersInOrder (settings : Settings) (outlets : Outlets) (jobId : String)
    (s : Session) (spooled : List Delivered) (answered hand : List Incoming)
    (done : List Delivered) : Prop where
  taken : s.taken = answered ++ hand
  hand_le : hand.length ≤ 1
  hand_open : s.phase = .open → hand = []
  replies :
    s.replies.map Reply.verdict = answered.filterMap (Agent.verdict? settings outlets jobId)
  spooled : spooled = answered.flatMap (Agent.spoolJobs settings outlets jobId) ++ done
  done_prefix : done <+: hand.flatMap (Agent.spoolJobs settings outlets jobId)
  done_le : done.length ≤ 1

/-- The jobs that frames leave at the spooler are those that succeed. -/
theorem filter_flatMap_deliveries (fs : List Incoming) :
    (fs.flatMap (Agent.deliveries settings outlets jobId)).filter Delivered.isSpooled =
      fs.flatMap (Agent.spoolJobs settings outlets jobId) := by
  rw [List.filter_flatMap]
  simp only [Agent.filter_deliveries]

theorem answersInOrder_of_standing {s : Session} {delivered : List Delivered}
    (h : Standing settings outlets jobId s.taken s.replies delivered s.phase) :
    ∃ answered hand done, s.AnswersInOrder settings outlets jobId
      (delivered.filter Delivered.isSpooled) answered hand done := by
  generalize hp : s.phase = p at h
  cases h with
  | idle hr hd | ended hr hd =>
    refine ⟨s.taken, [], [], ?_⟩
    constructor
    case taken => exact (List.append_nil _).symm
    case hand_le | done_le => exact Nat.zero_le 1
    case hand_open => exact fun _ => rfl
    case replies => exact hr
    case spooled => rw [hd, filter_flatMap_deliveries, List.append_nil]
    case done_prefix => exact List.nil_prefix
  | working fs x ht hr hd =>
    refine ⟨fs, [.text x], [], ?_⟩
    constructor
    case taken => exact ht
    case hand_le => exact Nat.le_refl 1
    case hand_open => rw [hp]; exact nofun
    case replies => exact hr
    case spooled => rw [hd, filter_flatMap_deliveries, List.append_nil]
    case done_prefix => exact List.nil_prefix
    case done_le => exact Nat.zero_le 1
  | answering fs f r ht hv hr hd | unanswered fs f ht hr hd =>
    -- the job in hand has run: what it left at the spooler is all that its frame can leave
    refine ⟨fs, [f], [f].flatMap (Agent.spoolJobs settings outlets jobId), ?_⟩
    constructor
    case taken => exact ht
    case hand_le => exact Nat.le_refl 1
    case hand_open => rw [hp]; exact nofun
    case replies => exact hr
    case spooled => rw [hd, ht, filter_flatMap_deliveries, List.flatMap_append]
    case done_prefix => exact List.prefix_refl _
    case done_le =>
      rw [List.flatMap_singleton]
      exact Agent.length_spoolJobs_le settings outlets jobId f

end

/-! ## 6. The spooler -/

/-- A list that is put together from the lists of several owners: its items can be given owners so
    that the items of each, in their order, are its own list. -/
def IsInterleaving {α : Type} (part : Nat → List α) (whole : List α) : Prop :=
  ∃ owned : List (Nat × α), owned.map (·.2) = whole ∧
    ∀ i, (owned.filter (·.1 == i)).map (·.2) = part i

namespace Server

/-- The jobs that the spooler has got, in order. -/
def spoolLog (v : Server) : List Delivered := (v.log.map (·.2)).filter Delivered.isSpooled

/-- The jobs that the spooler has got for the session of an id, in order. -/
def spooledFor (v : Server) (id : Nat) : List Delivered :=
  (v.deliveredFor id).filter Delivered.isSpooled

theorem isInterleaving_spoolLog (v : Server) : IsInterleaving v.spooledFor v.spoolLog := by
  refine ⟨v.log.filter fun p => p.2.isSpooled, ?_, fun i => ?_⟩
  · rw [spoolLog, List.filter_map]
    rfl
  · rw [spooledFor, deliveredFor, List.filter_map, List.filter_filter, List.filter_filter]
    congr 2
    funext p
    exact Bool.and_comm _ _

end Server

/-! ## 7. Order -/

/-- What ends a session: it is asked to close, a ping or a reply cannot be sent, or its client
    closes, is gone, or sends what is no frame. How a job came out is no reason. -/
inductive Session.EndsBy (closing : Option Bool) (id : Nat) (s : Session) :
    Event → Prop where
  | asked (ping : Keepalive) (jobId : String) (hc : closing = some true) :
      EndsBy closing id s (.poll id ping jobId)
  | pingLost (jobId : String) : EndsBy closing id s (.poll id (.due false) jobId)
  | client (f : Incoming) (rest : List Incoming) (jobId : String) (hi : s.inbox = f :: rest)
      (hf : f = .close ∨ f = .ended ∨ f = .broken) : EndsBy closing id s (.poll id .notDue jobId)
  | replyLost : EndsBy closing id s (.answer id false)

theorem endsBy_of_step {settings : Settings} {outlets : Outlets} {closing : Option Bool} {id : Nat}
    {e : Event} {s t : Session} {ds : List Delivered}
    (h : Session.Step settings outlets closing id s e t ds) (hs : s.phase ≠ .ended)
    (ht : t.phase = .ended) : s.EndsBy closing id e := by
  cases h with
  | rest _ _ | arrive _ => exact absurd ht hs
  | goodbye ping i hp hc => exact .asked ping i hc
  | pingLost i hp hc => exact .pingLost i
  | take f rest i hp hc hi =>
    refine .client f rest i hi ?_
    cases f with
    | text _ | binary _ | ping _ | pong _ => cases ht
    | close => exact .inl rfl
    | ended => exact .inr (.inl rfl)
    | broken => exact .inr (.inr rfl)
  | replyLost r hp => exact .replyLost
  | ping _ _ _ | work _ _ _ | reply _ _ => cases ht

namespace Server

/-- **Order within each session.** `es` are the events that have led to the server; `jobId` is any
    name for the attempts that a frame is compared with. -/
structure KeepsOrder (settings : Settings) (outlets : Outlets) (jobId : String) (es : List Event)
    (v : Server) : Prop where
  /-- Frames are taken as they arrive, none twice and none left out. -/
  frames : ∀ id s, v.session? id = some s → s.taken ++ s.inbox = arrivals id es
  /-- Frames are answered in order, one at a time, and each as if it were alone. -/
  answers : ∀ id s, v.session? id = some s → ∃ answered hand done,
    s.AnswersInOrder settings outlets jobId (v.spooledFor id) answered hand done
  /-- What the spooler has got is put together from what it has got for each session. -/
  spool : IsInterleaving v.spooledFor v.spoolLog ∧
    ∀ id, v.session? id = none → v.spooledFor id = []
  /-- A session that ends has a reason, and that a job failed is none. -/
  ends : ∀ id s e w t, v.session? id = some s → v.step e = some w → w.session? id = some t →
    s.phase ≠ .ended → t.phase = .ended → s.EndsBy (v.registry.closing? id) id e

/-- **Order is kept in every state that events lead to**, however many sessions there are and
    however they take turns. -/
theorem sessions_keep_order {settings : Settings} {outlets : Outlets} {es : List Event}
    {v : Server} (h : Reaches settings outlets es v) (jobId : String) :
    v.KeepsOrder settings outlets jobId es where
  frames id s hs := (standing_of_reaches jobId h hs).1
  answers id s hs := answersInOrder_of_standing (standing_of_reaches jobId h hs).2
  spool := by
    refine ⟨isInterleaving_spoolLog v, fun id hn => ?_⟩
    rw [spooledFor, (unborn_of_reaches h hn).2]
    rfl
  ends id s e w t hs he ht hsp htp := by
    obtain ⟨u, ds, hu, -, hst⟩ := session_step he hs
    obtain rfl : u = t := Option.some.inj (hu.symm.trans ht)
    exact endsBy_of_step hst hsp htp

/-- Two sessions that take turns. The first one has a job done, then sends a text that is no job,
    then pings; the second one sends what is no text, and its next job has run but is not yet
    answered. -/
def takingTurns : List Event :=
  [.connect, .connect, .arrive 0 (.text "\x7b\"type\":\"drawer\"\x7d"), .arrive 1 (.binary [0x1B]),
    .poll 1 .notDue "1", .poll 0 .notDue "2", .arrive 0 (.text "?"), .work 0 "2", .answer 1 true,
    .arrive 1 (.text "\x7b\"type\":\"drawer\"\x7d"), .poll 1 .notDue "3", .answer 0 true,
    .poll 0 .notDue "4", .work 1 "3", .arrive 0 (.ping []), .work 0 "4", .answer 0 true,
    .poll 0 .notDue "5"]

theorem sessions_keep_order_takingTurns : ∃ v, Reaches .standard (.oneQueue "Bar") takingTurns v ∧
    (v.session? 0).map (·.replies.map Reply.success) = some [true, false] ∧
    (v.session? 1).map (·.replies.map Reply.success) = some [false] ∧
    (v.spooledFor 0).length = 1 ∧ (v.spooledFor 1).length = 1 ∧
    v.KeepsOrder .standard (.oneQueue "Bar") "7" takingTurns := by
  have hrun : ((start .standard (.oneQueue "Bar")).run takingTurns).map (fun v =>
      ((v.session? 0).map (·.replies.map Reply.success),
        (v.session? 1).map (·.replies.map Reply.success), (v.spooledFor 0).length,
        (v.spooledFor 1).length)) =
      some (some [true, false], some [false], 1, 1) := by
    decide +kernel
  obtain ⟨v, hv, hf⟩ := Option.map_eq_some_iff.mp hrun
  obtain ⟨h0, h1, hs0, hs1⟩ : _ ∧ _ ∧ _ ∧ _ := by simpa only [Prod.mk.injEq] using hf
  have hr : Reaches .standard (.oneQueue "Bar") takingTurns v := reaches_of_run hv
  exact ⟨v, hr, h0, h1, hs0, hs1, sessions_keep_order hr "7"⟩

end Server

end ReceiptPrinting
