import ReceiptPrinting.Proofs.Address
import ReceiptPrinting.Proofs.Delivery
import ReceiptPrinting.Proofs.Validation

/-!
# Who is called for a job

The name of its printer decides where a job goes, and who is called for it. A job that names its
printer never has the spooler asked for the default one. An address is connected to, and the spooler
never sees it, even if a queue of that name is there; a queue gets its job from the spooler, and no
connection is opened.

* `Call`, `Course`: the calls to spooler and network, one by one, each waiting for its answer;
* `Course.delivery`, `deliver_eq_course`: the delivery of a job, call by call, comes to what
  `Outlets.deliver` says;
* `Agent.Routed`: how a job fares whose printer has a name;
* `Agent.Routes`: how a job fares, by the name in its request and the default printer;
* **`process_routes`**: every job fares so.
-/

namespace ReceiptPrinting

/-! ## 1. Calls -/

/-- A call to the outside. -/
inductive Call where
  /-- The spooler is asked for its default printer. -/
  | askDefault
  /-- The spooler is handed a document for a queue. -/
  | submit (printer document : String) (data : Bytes)
  /-- A connection to an address is opened, and the data sent if it is accepted. -/
  | connect (a : Address) (data : Bytes)
deriving DecidableEq, Repr

namespace Call

/-- What a call comes back with. -/
@[reducible]
def Returns : Call → Type
  | askDefault => Answer (Option String)
  | submit .. => Answer Unit
  | connect .. => Connection

/-- What spooler and network answer to a call. -/
def answer (o : Outlets) : (c : Call) → c.Returns
  | askDefault => o.defaultPrinter
  | submit printer document data => o.submit printer document data
  | connect a _ => o.connect a

/-- What a call delivers, by its answer. -/
def delivers : (c : Call) → c.Returns → List Delivered
  | submit printer document data, .ok () => [.spooled printer document data]
  | connect a data, .accepted => [.sent a data]
  | _, _ => []

end Call

/-- A course of calls. Nothing is known of spooler and network but the answers to the calls, and
    each answer decides how the course goes on. -/
inductive Course where
  | done (r : Except DeliveryError Target)
  | call (c : Call) (next : c.Returns → Course)

namespace Course

/-- What a course comes to. -/
def result (o : Outlets) : Course → Except DeliveryError Target
  | done r => r
  | call c next => (next (c.answer o)).result o

/-- The calls of a course, in their order. -/
def calls (o : Outlets) : Course → List Call
  | done _ => []
  | call c next => c :: (next (c.answer o)).calls o

/-- What the calls of a course deliver. -/
def delivered (o : Outlets) (k : Course) : List Delivered :=
  (k.calls o).flatMap fun c => c.delivers (c.answer o)

/-- **Who is not called does not matter**: only the answers to its calls decide a course. -/
theorem congr {o o' : Outlets} {k : Course} (h : ∀ c ∈ k.calls o, c.answer o' = c.answer o) :
    k.result o' = k.result o ∧ k.delivered o' = k.delivered o := by
  have hsame : k.result o' = k.result o ∧ k.calls o' = k.calls o := by
    induction k with
    | done r => exact ⟨rfl, rfl⟩
    | call c next ih =>
      obtain ⟨hcall, hrest⟩ := List.forall_mem_cons.mp h
      obtain ⟨hresult, hcalls⟩ := ih _ hrest
      rw [result, result, calls, calls, hcall, hresult, hcalls]
      exact ⟨rfl, rfl⟩
  obtain ⟨hresult, hcalls⟩ := hsame
  refine ⟨hresult, ?_⟩
  rw [delivered, delivered, hcalls, List.flatMap_def, List.flatMap_def,
    List.map_congr_left fun c hc => by rw [h c hc]]

/-! ## 2. The course of a delivery -/

/-- Data is handed to a printer. -/
def handing (data : Bytes) : Target → Course
  | .network a => .call (.connect a data) fun
    | .accepted => .done (.ok (.network a))
    | .refused reason => .done (.error (.printer (.connection (a.text ++ ": " ++ reason))))
    | .timedOut => .done (.error (.printer (.timeout a.text)))
  | .queue name => .call (.submit name Outlets.documentName data) fun
    | .ok () => .done (.ok (.queue name))
    | .fault e => .done (.error (.printer e))
    | .crash c => .done (.error (.printer (.spooler ("Task join failed: " ++ c.message))))

/-- Data is handed to the printer of a name. -/
def toName (data : Bytes) (name : String) : Course :=
  match Target.ofName name with
  | .ok t => handing data t
  | .error e => .done (.error e)

/-- Data is delivered to the printer that a job names, or to the default printer. -/
def delivery (data : Bytes) : (target : Option String) → Course
  | some name => toName data name
  | none => .call .askDefault fun
    | .ok answer =>
      match answer.filter fun name => (Text.printable name).isSome with
      | some name => toName data name
      | none => .done (.error .noPrinter)
    | .fault e => .done (.error (.printer e))
    | .crash c => .done (.error (.task c))

end Course

/-- The call that hands data to a printer. -/
def Target.call (data : Bytes) : Target → Call
  | .network a => .connect a data
  | .queue name => .submit name Outlets.documentName data

/-- Where no printer is named, the answer of the spooler decides. -/
theorem Outlets.resolve_none (o : Outlets) :
    o.resolve none =
      match o.defaultPrinter with
      | .ok answer =>
        match answer.filter fun name => (Text.printable name).isSome with
        | some name => Target.ofName name
        | none => .error .noPrinter
      | .fault e => .error (.printer e)
      | .crash c => .error (.task c) := by
  rw [resolve, defaultName]
  cases o.defaultPrinter with
  | ok answer =>
    simp only [asked, Except.map]
    cases answer.filter fun name => (Text.printable name).isSome <;> rfl
  | fault e | crash c => rfl

section

variable (o : Outlets) (data : Bytes)

/-- A printer is called once. -/
theorem Course.calls_handing (t : Target) : (handing data t).calls o = [t.call data] := by
  cases t with
  | network a =>
    rw [handing, calls, Call.answer]
    cases o.connect a <;> rfl
  | queue name =>
    rw [handing, calls, Call.answer]
    cases o.submit name Outlets.documentName data <;> rfl

/-- A job is handed to the printer that is found for it. -/
theorem deliver_eq_handing {target : Option String} {t : Target} (hr : o.resolve target = .ok t) :
    o.deliver data target =
      ((Course.handing data t).result o, (Course.handing data t).delivered o) := by
  rw [Course.delivered, Course.calls_handing, List.flatMap_singleton, Outlets.deliver, hr]
  cases t with
  | network a =>
    simp only [Outlets.send, Course.handing, Course.result, Target.call, Call.answer]
    cases o.connect a <;> rfl
  | queue name =>
    simp only [Outlets.send, Course.handing, Course.result, Target.call, Call.answer]
    cases o.submit name Outlets.documentName data <;> rfl

theorem deliver_eq_toName {target : Option String} {name : String}
    (hr : o.resolve target = Target.ofName name) :
    o.deliver data target =
      ((Course.toName data name).result o, (Course.toName data name).delivered o) := by
  unfold Course.toName
  cases hname : Target.ofName name with
  | error e =>
    rw [hname] at hr
    rw [Outlets.deliver, hr]
    rfl
  | ok t => exact deliver_eq_handing o data (hr.trans hname)

/-- **The delivery of a job, call by call**, comes to the delivery as a whole. -/
theorem deliver_eq_course (target : Option String) :
    o.deliver data target =
      ((Course.delivery data target).result o, (Course.delivery data target).delivered o) := by
  cases target with
  | some name => exact deliver_eq_toName o data rfl
  | none =>
    have hresolve := o.resolve_none
    rw [Course.delivery, Course.result, Course.delivered, Course.calls, List.flatMap_cons,
      Call.answer]
    cases hanswer : o.defaultPrinter with
    | ok answer =>
      rw [hanswer] at hresolve
      simp only at hresolve ⊢
      cases hname : answer.filter fun name => (Text.printable name).isSome with
      | some name =>
        rw [hname] at hresolve
        exact deliver_eq_toName o data hresolve
      | none =>
        rw [hname] at hresolve
        rw [Outlets.deliver, hresolve]
        rfl
    | fault e | crash c =>
      rw [hanswer] at hresolve
      rw [Outlets.deliver, hresolve]
      rfl

end

/-! ## 3. Printers of a name -/

/-- The host of an address, before it is trimmed. -/
def Address.hostPart (name : String) : String := String.ofList (parts (Text.trim name).toList).1

/-- An address has a host that is not blank. -/
theorem Address.ofText_cases (name : String) :
    (∃ a, ofText name = .ok a ∧ ¬ Text.Blank (hostPart name) ∧
      a.host = Text.trim (hostPart name)) ∨
    ∃ b, ofText name = .error b ∧ Text.Blank (hostPart name) := by
  obtain ⟨port, hread⟩ : ∃ port, ofText name = make (hostPart name) port := ⟨_, ofText_eq name⟩
  by_cases hblank : Text.Blank (hostPart name)
  · cases hmake : make (hostPart name) port with
    | ok a => exact absurd hblank (make_eq_ok_iff.mp hmake).1
    | error b => exact .inr ⟨b, hread.trans hmake, hblank⟩
  · have hmake : make (hostPart name) port = .ok ⟨Text.trim (hostPart name), port⟩ :=
      make_eq_ok_iff.mpr ⟨hblank, rfl, rfl⟩
    exact .inl ⟨_, hread.trans hmake, hblank, rfl⟩

namespace Agent

/-- The reply to a job that was handed to a printer, and what reached the printer. -/
def report (jobId : String) (kind : JobKind) (t : Target) :
    Except DeliveryError Unit × List Delivered → Reply × List Delivered
  | (.ok (), log) => (.done jobId (doneMessage kind t), log)
  | (.error e, log) => (.failed jobId e.message, log)

section

variable {s : Settings} {o : Outlets} {text : String} {j : Job} (jobId : String)

theorem process_of_resolve {t : Target} (h : Job.parse text = .ok j)
    (hr : o.resolve j.target = .ok t) :
    process s o jobId text = report jobId j.content.kind t (o.send (j.render s) t) := by
  simp only [process, h, Outlets.deliver, hr]
  rcases o.send (j.render s) t with ⟨_ | _, log⟩ <;> rfl

theorem process_of_unresolved {e : DeliveryError} (h : Job.parse text = .ok j)
    (hr : o.resolve j.target = .error e) :
    process s o jobId text = (.failed jobId e.message, []) := by
  simp only [process, h, Outlets.deliver, hr]

end

/-- **How a job fares whose printer has a name**: who is called, what is replied, and what reaches a
    printer. -/
inductive Routed (o : Outlets) (jobId : String) (kind : JobKind) (data : Bytes) (name : String) :
    List Call → Reply × List Delivered → Prop where
  /-- The name is an address: it is connected to, and nobody else is called. -/
  | address {a : Address} (colon : ':' ∈ name.toList)
    (not_blank : ¬ Text.Blank (Address.hostPart name))
    (host : a.host = Text.trim (Address.hostPart name)) (read : Address.ofText name = .ok a) :
    Routed o jobId kind data name [.connect a data]
      (report jobId kind (.network a) (o.send data (.network a)))
  /-- The name would be an address, but has no host: nobody is called. -/
  | nowhere (colon : ':' ∈ name.toList) (blank : Text.Blank (Address.hostPart name))
    (port : UInt16) :
    Routed o jobId kind data name []
      (.failed jobId ("Invalid config: Invalid address: :" ++ toString port.toNat), [])
  /-- The name is that of a queue: the spooler is handed the document, and nobody else is called. -/
  | queue (no_colon : ':' ∉ name.toList) :
    Routed o jobId kind data name [.submit name "POS Ticket" data]
      (report jobId kind (.queue name) (o.send data (.queue name)))

/-- A job whose printer has a name fares so. -/
theorem routed_of_resolve {s : Settings} {o : Outlets} {text : String} {j : Job} {name : String}
    (jobId : String) (h : Job.parse text = .ok j) (hr : o.resolve j.target = Target.ofName name) :
    Routed o jobId j.content.kind (j.render s) name
      ((Course.toName (j.render s) name).calls o) (process s o jobId text) := by
  by_cases hcolon : ':' ∈ name.toList
  · rcases Address.ofText_cases name with ⟨a, hread, hblank, hhost⟩ | ⟨b, hread, hblank⟩
    · have hname : Target.ofName name = .ok (.network a) :=
        Target.ofName_eq_network_iff.mpr ⟨hcolon, hread⟩
      rw [process_of_resolve jobId h (hr.trans hname), Course.toName, hname]
      simp only [Course.calls_handing]
      exact .address hcolon hblank hhost hread
    · have hname : Target.ofName name = .error (.printer (.invalidConfig b.message)) := by
        rw [Target.ofName, if_pos hcolon, hread]
      have hwords : "Invalid config: " ++ "Invalid address: :" =
          "Invalid config: Invalid address: :" := by decide +kernel
      have hmessage : (DeliveryError.printer (.invalidConfig b.message)).message =
          "Invalid config: Invalid address: :" ++ toString b.port.toNat := by
        rw [← hwords, String.append_assoc]
        rfl
      rw [process_of_unresolved jobId h (hr.trans hname), Course.toName, hname, hmessage]
      exact .nowhere hcolon hblank b.port
  · have hname : Target.ofName name = .ok (.queue name) := Target.ofName_queue hcolon
    rw [process_of_resolve jobId h (hr.trans hname), Course.toName, hname]
    simp only [Course.calls_handing]
    exact .queue hcolon

/-! ## 4. Jobs -/

/-- **How a job fares**, by the name of a printer in its request, and by the default printer if
    there is none: who is called, what is replied, and what reaches a printer. -/
inductive Routes (o : Outlets) (jobId : String) (kind : JobKind) (data : Bytes)
    (ms : Json.Members) : List Call → Reply × List Delivered → Prop where
  /-- A printer is named: the default printer is not asked for. -/
  | named {n : String} {calls : List Call} {out : Reply × List Delivered}
    (name : ms.lookup "printerName" = some (.string n)) (not_blank : ¬ Text.Blank n)
    (routed : Routed o jobId kind data (Text.trim n) calls out) :
    Routes o jobId kind data ms calls out
  /-- No printer is named, and there is a default printer: its name is taken as it is. -/
  | standard {n : String} {calls : List Call} {out : Reply × List Delivered}
    (unnamed : Job.Unnamed (ms.lookup "printerName")) (answer : o.defaultPrinter = .ok (some n))
    (not_blank : ¬ Text.Blank n) (routed : Routed o jobId kind data n calls out) :
    Routes o jobId kind data ms (.askDefault :: calls) out
  /-- No printer is named, and there is no default printer, or its name is blank. -/
  | noPrinter (unnamed : Job.Unnamed (ms.lookup "printerName")) {answer : Option String}
    (answered : o.defaultPrinter = .ok answer) (blank : ∀ n, answer = some n → Text.Blank n) :
    Routes o jobId kind data ms [.askDefault] (.failed jobId "No printer configured", [])
  /-- No printer is named, and the spooler does not know its default printer. -/
  | fault (unnamed : Job.Unnamed (ms.lookup "printerName")) {e : PrinterError}
    (answer : o.defaultPrinter = .fault e) :
    Routes o jobId kind data ms [.askDefault] (.failed jobId e.message, [])
  /-- No printer is named, and the spooler does not come back when it is asked for its default
      printer. -/
  | crash (unnamed : Job.Unnamed (ms.lookup "printerName")) {c : Crash}
    (answer : o.defaultPrinter = .crash c) :
    Routes o jobId kind data ms [.askDefault]
      (.failed jobId ("Spooler task failed: " ++ c.message), [])

/-- The printer of a request is its name without blank ends, or none is named. -/
theorem target_cases {ms : Json.Members} {r : Request} (h : Request.Members ms r) :
    (∃ n, ms.lookup "printerName" = some (.string n) ∧ ¬ Text.Blank n ∧
      r.target = some (Text.trim n)) ∨
    Job.Unnamed (ms.lookup "printerName") ∧ r.target = none := by
  cases htarget : r.target with
  | none => exact .inr ⟨h.target_eq_none_iff.mp htarget, rfl⟩
  | some t =>
    obtain ⟨n, hn, hprintable⟩ := Option.bind_eq_some_iff.mp htarget
    obtain ⟨hblank, rfl⟩ := Text.printable_eq_some_iff.mp hprintable
    have hname := h.printerName
    rw [hn] at hname
    generalize ms.lookup "printerName" = o at hname ⊢
    cases hname with
    | present hname =>
      cases hname with
      | given _ hstring =>
        cases hstring with
        | mk => exact .inl ⟨n, rfl, hblank, rfl⟩

/-- Where no printer is named, the answer of the spooler tells how the job fares. -/
theorem routes_of_unnamed {s : Settings} {o : Outlets} {text : String} {j : Job}
    {ms : Json.Members} (jobId : String) (h : Job.parse text = .ok j) (htarget : j.target = none)
    (hunnamed : Job.Unnamed (ms.lookup "printerName")) :
    Routes o jobId j.content.kind (j.render s) ms
      ((Course.delivery (j.render s) none).calls o) (process s o jobId text) := by
  have hresolve : o.resolve j.target = _ := (congrArg o.resolve htarget).trans o.resolve_none
  rw [Course.delivery, Course.calls, Call.answer]
  cases hanswer : o.defaultPrinter with
  | ok answer =>
    rw [hanswer] at hresolve
    simp only at hresolve ⊢
    cases hname : answer.filter fun name => (Text.printable name).isSome with
    | some n =>
      obtain ⟨rfl, hprintable⟩ := Option.filter_eq_some_iff.mp hname
      rw [hname] at hresolve
      exact .standard hunnamed hanswer (Text.printable_isSome_iff.mp hprintable)
        (routed_of_resolve jobId h hresolve)
    | none =>
      rw [hname] at hresolve
      rw [process_of_unresolved jobId h hresolve]
      refine .noPrinter hunnamed hanswer fun n hn => by_contra fun hblank => ?_
      rw [hn, Option.filter_some, if_pos (Text.printable_isSome_iff.mpr hblank)] at hname
      cases hname
  | fault e =>
    rw [hanswer] at hresolve
    rw [process_of_unresolved jobId h hresolve]
    exact .fault hunnamed hanswer
  | crash c =>
    rw [hanswer] at hresolve
    rw [process_of_unresolved jobId h hresolve]
    exact .crash hunnamed hanswer

/-- **Every job fares so.** The calls that are told of are those that its delivery makes: taken one
    by one, each with its answer, they come to the outcome of the delivery. Whoever is not called
    does not matter: where these calls are answered alike, the job fares alike. -/
theorem process_routes :
    (∀ (o : Outlets) (data : Bytes) (target : Option String), o.deliver data target =
      ((Course.delivery data target).result o, (Course.delivery data target).delivered o)) ∧
    ∀ (s : Settings) (o : Outlets) (jobId text : String) (j : Job), Job.parse text = .ok j →
      (∃ v ms, Json.Denotes text v ∧ v.members? Request.names = some ms ∧
        Routes o jobId j.content.kind (j.render s) ms
          ((Course.delivery (j.render s) j.target).calls o) (process s o jobId text)) ∧
      ∀ o', (∀ c ∈ (Course.delivery (j.render s) j.target).calls o, c.answer o' = c.answer o) →
        process s o' jobId text = process s o jobId text := by
  refine ⟨deliver_eq_course, fun s o jobId text j h => ⟨?_, fun o' halike => ?_⟩⟩
  · cases Job.parse_eq_iff.mp h with
    | @job v r k c json request kind wanted =>
      obtain ⟨ms, hms, hmembers⟩ := request
      refine ⟨v, ms, json, hms, ?_⟩
      rcases target_cases hmembers with ⟨n, hname, hblank, htarget⟩ | ⟨hunnamed, htarget⟩
      · have hresolve : o.resolve r.target = Target.ofName (Text.trim n) := by rw [htarget]; rfl
        have hrouted := routed_of_resolve (s := s) (o := o) jobId h hresolve
        rw [htarget] at hrouted ⊢
        exact .named hname hblank hrouted
      · have hroutes := routes_of_unnamed (s := s) (o := o) jobId h htarget hunnamed
        rw [htarget] at hroutes ⊢
        exact hroutes
  · obtain ⟨hresult, hdelivered⟩ := Course.congr halike
    have hdeliver : o'.deliver (j.render s) j.target = o.deliver (j.render s) j.target := by
      rw [deliver_eq_course, deliver_eq_course o, hresult, hdelivered]
    simp only [process, h, hdeliver]

/-- A drawer that is opened over the network, though a queue has the name of its address and the
    spooler does not come back when it is asked for its default printer. -/
theorem process_routes_listedAddress :
    let o : Outlets := { Outlets.oneQueue "10.0.0.5:9100" with
      defaultPrinter := .crash (.panicked "1" (some "boom"))
      connect := fun _ => .accepted }
    let o' : Outlets := { Outlets.oneQueue "Bar" with connect := o.connect }
    let text := "\x7b\"type\":\"drawer\",\"printerName\":\" 10.0.0.5:9100 \"\x7d"
    Job.parse text = .ok ⟨.drawer, some "10.0.0.5:9100", none⟩ ∧
    (Course.delivery Job.drawerPulse (some "10.0.0.5:9100")).calls o =
      [.connect ⟨"10.0.0.5", 9100⟩ Job.drawerPulse] ∧
    (∃ v ms, Json.Denotes text v ∧ v.members? Request.names = some ms ∧
      Routes o "7" .drawer Job.drawerPulse ms [.connect ⟨"10.0.0.5", 9100⟩ Job.drawerPulse]
        (process .standard o "7" text)) ∧
    process .standard o' "7" text = process .standard o "7" text := by
  intro o o' text
  have hparse : Job.parse text = .ok ⟨.drawer, some "10.0.0.5:9100", none⟩ := by decide +kernel
  have hcalls : (Course.delivery Job.drawerPulse (some "10.0.0.5:9100")).calls o =
      [.connect ⟨"10.0.0.5", 9100⟩ Job.drawerPulse] := by decide +kernel
  obtain ⟨hroutes, halike⟩ := process_routes.2 .standard o "7" text _ hparse
  refine ⟨hparse, hcalls, ?_, halike o' fun c hc => ?_⟩
  · rw [← hcalls]
    exact hroutes
  · have hmem : c ∈ [Call.connect ⟨"10.0.0.5", 9100⟩ Job.drawerPulse] := by
      rw [← hcalls]
      exact hc
    rw [List.mem_singleton.mp hmem]
    rfl

end Agent

end ReceiptPrinting
