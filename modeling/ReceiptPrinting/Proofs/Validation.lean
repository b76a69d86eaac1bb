import ReceiptPrinting.Job
import ReceiptPrinting.Proofs.Shapes
import ReceiptPrinting.Proofs.Text.Trim

/-!
# Which texts become jobs, and what is wrong with the others

A text goes through five stages on its way to a job: it is JSON; the value is a request; the kind is
one of four; what needs a ticket has data; the data is a ticket. A text that passes all of them is a
job, and of any other the first stage that it fails is reported.

* `Verdict`: how a text fares, stage by stage;
* `Job.parse_eq_iff`: that is what becomes of it;
* **`Job.parse_validates`**: the stages, and what is known of a job that has passed them.
-/

namespace ReceiptPrinting

open Json (Denotes)

/-! ## 1. Kinds -/

namespace JobKind

/-- A kind is known by its name alone. -/
theorem ofKeyword?_eq_some_iff {s : String} {k : JobKind} : ofKeyword? s = some k ↔ s = k.name := by
  constructor
  · intro h
    unfold ofKeyword? at h
    split at h <;> cases h <;> rfl
  · rintro rfl
    cases k <;> rfl

theorem ofName?_eq_some_iff {s : String} {k : JobKind} :
    ofName? s = some k ↔ Text.lower (Text.trim s) = k.name := ofKeyword?_eq_some_iff

theorem ofName?_eq_none_iff {s : String} :
    ofName? s = none ↔ ∀ k : JobKind, Text.lower (Text.trim s) ≠ k.name := by
  rw [Option.eq_none_iff_forall_not_mem]
  exact forall_congr' fun k => not_congr ofName?_eq_some_iff

end JobKind

/-! ## 2. Stages -/

/-- What a job of a kind has to print, given the data of its request. -/
inductive JobKind.Wants : JobKind → Option Json.Value → Content → Prop where
  | receipt {d : Json.Value} {t : Ticket} (h : Ticket.Form d t) :
    JobKind.Wants .receipt (some d) (.receipt t)
  | kitchen {d : Json.Value} {t : Ticket} (h : Ticket.Form d t) :
    JobKind.Wants .kitchen (some d) (.kitchen t)
  | test (data : Option Json.Value) : JobKind.Wants .test data .test
  | drawer (data : Option Json.Value) : JobKind.Wants .drawer data .drawer

/-- How a text fares on its way to a job: it passes all stages, or it fails one of them and has
    passed those before. -/
inductive Verdict (text : String) : Except JobError Job → Prop where
  | notJson {f : Json.Failure} (failure : Json.parse text = .error f)
    (fails : ∀ v, ¬ Denotes text v) : Verdict text (.error (.invalidJson text f))
  | noRequest {v : Json.Value} (json : Denotes text v) (fails : ∀ r, ¬ Request.Form v r) :
    Verdict text (.error .invalidFormat)
  | unknownKind {v : Json.Value} {r : Request} (json : Denotes text v)
    (request : Request.Form v r) (fails : ∀ k : JobKind, Text.lower (Text.trim r.kind) ≠ k.name) :
    Verdict text (.error (.unknownKind r.kind))
  | noData {v : Json.Value} {r : Request} {k : JobKind} (json : Denotes text v)
    (request : Request.Form v r) (kind : Text.lower (Text.trim r.kind) = k.name)
    (needed : k = .receipt ∨ k = .kitchen) (fails : r.data = none) :
    Verdict text (.error .missingData)
  | noTicket {v d : Json.Value} {r : Request} {k : JobKind} (json : Denotes text v)
    (request : Request.Form v r) (kind : Text.lower (Text.trim r.kind) = k.name)
    (needed : k = .receipt ∨ k = .kitchen) (data : r.data = some d)
    (fails : ∀ t, ¬ Ticket.Form d t) : Verdict text (.error .invalidFormat)
  | job {v : Json.Value} {r : Request} {k : JobKind} {c : Content} (json : Denotes text v)
    (request : Request.Form v r) (kind : Text.lower (Text.trim r.kind) = k.name)
    (wanted : JobKind.Wants k r.data c) : Verdict text (.ok ⟨c, r.target, r.paperWidth⟩)

namespace Request

variable {v : Json.Value} {r : Request}

/-- The data of a request is not `null`: to ask for nothing is to leave it out. -/
theorem Form.data_ne_null (h : Request.Form v r) : r.data ≠ some .null := by
  intro hdata
  obtain ⟨ms, -, h⟩ := h
  have hnullable := h.data
  rw [hdata] at hnullable
  generalize ms.lookup "data" = o at hnullable
  cases hnullable with
  | present h =>
    cases h with
    | given ne_null heq => exact ne_null heq

theorem Form.data_ordered (h : Request.Form v r) (hv : v.Ordered) {d : Json.Value}
    (hd : r.data = some d) : d.Ordered := by
  obtain ⟨ms, hms, h⟩ := h
  have hnullable := h.data
  have hpart := hv.lookup slots_record.nodup hms "data"
  rw [hd] at hnullable
  generalize ms.lookup "data" = o at hnullable hpart
  cases hnullable with
  | present h =>
    cases h with
    | given _ heq => exact heq ▸ hpart _ rfl

end Request

/-! ## 3. Verdicts -/

namespace Job

/-- The ticket in the data, if there is data and it is a ticket. -/
theorem ticketOf_eq_of_ne_null {d : Json.Value} (hd : d ≠ .null) :
    ticketOf (some d) = match Ticket.decoder.convert d with
      | .ok t => .ok t
      | .error _ => .error .invalidFormat := by
  cases d with
  | null => exact absurd rfl hd
  | bool | number | string | array | object => rfl

theorem ticketOf_of_form {d : Json.Value} (hd : d ≠ .null) (hv : d.Ordered) {t : Ticket}
    (h : Ticket.Form d t) : ticketOf (some d) = .ok t := by
  have hread : Ticket.decoder.convert d = .ok t := (Ticket.readsBy_form d hv t).mpr h
  rw [ticketOf_eq_of_ne_null hd, hread]

theorem ticketOf_of_not_form {d : Json.Value} (hd : d ≠ .null) (hv : d.Ordered)
    (h : ∀ t, ¬ Ticket.Form d t) : ticketOf (some d) = .error .invalidFormat := by
  rw [ticketOf_eq_of_ne_null hd]
  cases hread : Ticket.decoder.convert d with
  | error m => rfl
  | ok t => exact absurd ((Ticket.readsBy_form d hv t).mp hread) (h t)

/-- A text that holds a request fares as the request does. -/
theorem parse_of_form {text : String} {v : Json.Value} {r : Request} (json : Denotes text v)
    (request : Request.Form v r) : parse text = ofRequest r := by
  have hread : Request.decoder.convert v = .ok r :=
    (Request.readsBy_form v json.ordered r).mpr request
  simp only [parse, Json.parse_eq_ok_iff.mpr json, hread]

theorem ofRequest_of_name {r : Request} {k : JobKind}
    (kind : Text.lower (Text.trim r.kind) = k.name) :
    ofRequest r = (contentOf r.data k).map fun c => ⟨c, r.target, r.paperWidth⟩ := by
  simp only [ofRequest, JobKind.ofName?_eq_some_iff.mpr kind]

/-- Without a ticket there is nothing to print on a receipt or for the kitchen. -/
theorem contentOf_of_needed {data : Option Json.Value} {k : JobKind} {e : JobError}
    (needed : k = .receipt ∨ k = .kitchen) (h : ticketOf data = .error e) :
    contentOf data k = .error e := by
  rcases needed with rfl | rfl
  all_goals
    rw [contentOf, h]
    rfl

theorem contentOf_of_wanted {v : Json.Value} {r : Request} (hv : v.Ordered)
    (request : Request.Form v r) {k : JobKind} {c : Content} (wanted : JobKind.Wants k r.data c) :
    contentOf r.data k = .ok c := by
  generalize hdata : r.data = data at wanted
  cases wanted with
  | @receipt d t h | @kitchen d t h =>
    have hnull : d ≠ .null := fun heq => request.data_ne_null (heq ▸ hdata)
    rw [contentOf, ticketOf_of_form hnull (request.data_ordered hv hdata) h]
    rfl
  | test | drawer => rfl

/-- A text becomes what its verdict says. -/
theorem parse_of_verdict {text : String} {x : Except JobError Job} (h : Verdict text x) :
    parse text = x := by
  cases h with
  | notJson failure => simp only [parse, failure]
  | @noRequest v json fails =>
    have hread : ∀ r, Request.decoder.convert v ≠ .ok r := fun r hr =>
      fails r ((Request.readsBy_form v json.ordered r).mp hr)
    simp only [parse, Json.parse_eq_ok_iff.mpr json]
    split
    case h_1 => rfl
    case h_2 r hr => exact absurd hr (hread r)
  | unknownKind json request fails =>
    rw [parse_of_form json request]
    simp only [ofRequest, JobKind.ofName?_eq_none_iff.mpr fails]
  | noData json request kind needed fails =>
    rw [parse_of_form json request, ofRequest_of_name kind, fails,
      contentOf_of_needed needed (show ticketOf none = .error .missingData from rfl)]
    rfl
  | @noTicket v d r k json request kind needed data fails =>
    have hnull : d ≠ .null := fun heq => request.data_ne_null (heq ▸ data)
    have hticket := ticketOf_of_not_form hnull (request.data_ordered json.ordered data) fails
    rw [parse_of_form json request, ofRequest_of_name kind, data,
      contentOf_of_needed needed hticket]
    rfl
  | job json request kind wanted =>
    rw [parse_of_form json request, ofRequest_of_name kind,
      contentOf_of_wanted json.ordered request wanted]
    rfl

end Job

/-- A request for a ticket: there is none, there is data that is no ticket, or there is a ticket. -/
theorem exists_verdict_of_needed {text : String} {v : Json.Value} {r : Request} {k : JobKind}
    (json : Denotes text v) (request : Request.Form v r)
    (kind : Text.lower (Text.trim r.kind) = k.name) (needed : k = .receipt ∨ k = .kitchen) :
    ∃ x, Verdict text x := by
  cases hdata : r.data with
  | none => exact ⟨_, .noData json request kind needed hdata⟩
  | some d =>
    by_cases hticket : ∃ t, Ticket.Form d t
    · obtain ⟨t, ht⟩ := hticket
      obtain ⟨c, hc⟩ : ∃ c, JobKind.Wants k r.data c := by
        rw [hdata]
        rcases needed with rfl | rfl
        · exact ⟨_, .receipt ht⟩
        · exact ⟨_, .kitchen ht⟩
      exact ⟨_, .job json request kind hc⟩
    · exact ⟨_, .noTicket json request kind needed hdata (not_exists.mp hticket)⟩

/-- There is a verdict on every text. -/
theorem exists_verdict (text : String) : ∃ x, Verdict text x := by
  by_cases hjson : ∃ v, Denotes text v
  · obtain ⟨v, json⟩ := hjson
    by_cases hrequest : ∃ r, Request.Form v r
    · obtain ⟨r, request⟩ := hrequest
      by_cases hkind : ∃ k : JobKind, Text.lower (Text.trim r.kind) = k.name
      · obtain ⟨k, kind⟩ := hkind
        cases k with
        | receipt => exact exists_verdict_of_needed json request kind (.inl rfl)
        | kitchen => exact exists_verdict_of_needed json request kind (.inr rfl)
        | test => exact ⟨_, .job json request kind (.test _)⟩
        | drawer => exact ⟨_, .job json request kind (.drawer _)⟩
      · exact ⟨_, .unknownKind json request (not_exists.mp hkind)⟩
    · exact ⟨_, .noRequest json (not_exists.mp hrequest)⟩
  · have hfails := not_exists.mp hjson
    cases hparse : Json.parse text with
    | error f => exact ⟨_, .notJson hparse hfails⟩
    | ok v => exact absurd (Json.parse_eq_ok_iff.mp hparse) (hfails v)

namespace Job

/-- **A text becomes exactly what the stages say.** -/
theorem parse_eq_iff {text : String} {x : Except JobError Job} :
    parse text = x ↔ Verdict text x := by
  refine ⟨?_, parse_of_verdict⟩
  rintro rfl
  obtain ⟨x, hx⟩ := exists_verdict text
  rwa [parse_of_verdict hx]

/-! ## 4. Jobs -/

/-- No printer is named: the part is missing, it is `null`, or it is blank. -/
inductive Unnamed : Option Json.Value → Prop where
  | missing : Unnamed none
  | null : Unnamed (some .null)
  | blank {s : String} (h : Text.Blank s) : Unnamed (some (.string s))

/-- What a job has of the members of its request. -/
structure From (ms : Json.Members) (j : Job) : Prop where
  /-- Receipts and kitchen copies have a ticket, and no other job has. -/
  ticket : (∃ t, j.content.ticket? = some t) ↔
    j.content.kind = .receipt ∨ j.content.kind = .kitchen
  /-- The ticket is the one in the data. -/
  data : ∀ t, j.content.ticket? = some t →
    ∃ d, ms.lookup "data" = some d ∧ d ≠ .null ∧ Ticket.Form d t
  /-- That ticket is what is printed. -/
  printed : ∀ (s : Settings) t, j.content.ticket? = some t →
    j.render s = ((j.paper s).sheet s.page).print
      (if j.content.kind = .receipt then Receipt.layout (j.paper s) s.texts t
        else KitchenCopy.layout t)
  /-- The name of a printer is not empty and has no blank ends. -/
  named : ∀ n, j.target = some n → n ≠ "" ∧ Text.Trimmed n.toList
  unnamed : j.target = none ↔ Unnamed (ms.lookup "printerName")

end Job

namespace Request

variable {ms : Json.Members} {r : Request}

/-- A printer is named by a text with something in it. -/
theorem Members.target_eq_none_iff (h : Request.Members ms r) :
    r.target = none ↔ Job.Unnamed (ms.lookup "printerName") := by
  have hname := h.printerName
  rw [target]
  generalize ms.lookup "printerName" = o at hname
  generalize r.printerName = name at hname
  cases hname with
  | absent => exact iff_of_true rfl .missing
  | present hname =>
    cases hname with
    | null => exact iff_of_true rfl .null
    | given _ hname =>
      obtain ⟨s⟩ := hname
      rw [Option.bind_some, ← Option.not_isSome_iff_eq_none, Text.printable_isSome_iff, not_not]
      constructor
      · exact .blank
      · intro h
        cases h with
        | blank h => exact h

theorem target_eq_some {n : String} (h : r.target = some n) :
    n ≠ "" ∧ Text.Trimmed n.toList := by
  obtain ⟨s, -, hs⟩ := Option.bind_eq_some_iff.mp h
  obtain ⟨hblank, rfl⟩ := Text.printable_eq_some_iff.mp hs
  refine ⟨fun hempty => hblank ?_, Text.trimmed_trim s⟩
  rw [← Text.trim_isEmpty, hempty]
  rfl

theorem Members.data_eq_some {d : Json.Value} (h : Request.Members ms r) (hd : r.data = some d) :
    ms.lookup "data" = some d ∧ d ≠ .null := by
  have hdata := h.data
  rw [hd] at hdata
  generalize ms.lookup "data" = o at hdata ⊢
  cases hdata with
  | present hdata =>
    cases hdata with
    | given ne_null heq => exact ⟨by rw [heq], heq ▸ ne_null⟩

end Request

namespace Job

/-- A ticket that is wanted is the one in the data. -/
theorem form_of_wanted {k : JobKind} {data : Option Json.Value} {c : Content} {t : Ticket}
    (h : JobKind.Wants k data c) (ht : c.ticket? = some t) :
    ∃ d, data = some d ∧ Ticket.Form d t := by
  cases h with
  | receipt h | kitchen h =>
    cases ht
    exact ⟨_, rfl, h⟩
  | test | drawer => cases ht

theorem from_of_wanted {ms : Json.Members} {r : Request} (h : Request.Members ms r) {k : JobKind}
    {c : Content} (wanted : JobKind.Wants k r.data c) : From ms ⟨c, r.target, r.paperWidth⟩ where
  ticket := by
    rw [← Option.isSome_iff_exists, c.isSome_ticket?]
    cases c <;> simp [JobKind.needsTicket, Content.kind]
  data t ht := by
    obtain ⟨d, hd, hform⟩ := form_of_wanted wanted ht
    obtain ⟨hlookup, hnull⟩ := h.data_eq_some hd
    exact ⟨d, hlookup, hnull, hform⟩
  printed s t ht := by
    cases c with
    | receipt | kitchen =>
      cases ht
      rfl
    | test | drawer => cases ht
  named n hn := Request.target_eq_some hn
  unnamed := h.target_eq_none_iff

/-- What is known of a job that a text has become. -/
theorem from_of_parse {text : String} {j : Job} (h : parse text = .ok j) :
    ∃ v ms, Denotes text v ∧ v.members? Request.names = some ms ∧ From ms j := by
  cases parse_eq_iff.mp h with
  | @job v r k c json request kind wanted =>
    obtain ⟨ms, hms, hmembers⟩ := request
    exact ⟨v, ms, json, hms, from_of_wanted hmembers wanted⟩

/-- **A text becomes a job exactly if it passes all stages**, and otherwise the first that it fails
    is reported. A job has the ticket that its data is if it is a receipt or a kitchen copy, and
    prints it; its printer has a name with something in it, unless none is named. -/
theorem parse_validates :
    (∀ text x, parse text = x ↔ Verdict text x) ∧
    ∀ text j, parse text = .ok j → ∃ v ms, Denotes text v ∧
      v.members? Request.names = some ms ∧ From ms j :=
  ⟨fun _ _ => parse_eq_iff, fun _ _ => from_of_parse⟩

/-- A list of parts opens the drawer at the bar; a kind that is none of the four is named as it was
    written. -/
theorem parse_validates_drawer :
    parse "[\"Drawer \", \" Bar\", \x7b\x7d]" = .ok ⟨.drawer, some "Bar", none⟩ ∧
    Verdict "[\"Drawer \", \" Bar\", \x7b\x7d]" (.ok ⟨.drawer, some "Bar", none⟩) ∧
    (∃ v ms, Denotes "[\"Drawer \", \" Bar\", \x7b\x7d]" v ∧ v.members? Request.names = some ms ∧
      From ms ⟨.drawer, some "Bar", none⟩) ∧
    Verdict "\x7b\"type\": \"Poster \"\x7d" (.error (.unknownKind "Poster ")) := by
  have hdrawer : parse "[\"Drawer \", \" Bar\", \x7b\x7d]" = .ok ⟨.drawer, some "Bar", none⟩ := by
    decide +kernel
  have hposter : parse "\x7b\"type\": \"Poster \"\x7d" = .error (.unknownKind "Poster ") := by
    decide +kernel
  exact ⟨hdrawer, (parse_validates.1 _ _).mp hdrawer, parse_validates.2 _ _ hdrawer,
    (parse_validates.1 _ _).mp hposter⟩

end Job

end ReceiptPrinting
