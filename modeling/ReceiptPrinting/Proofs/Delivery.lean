import ReceiptPrinting.Agent

/-!
# Delivered exactly once, or not at all

A job reaches one printer, once, and its reply says so; or it reaches none, and its reply says that.

* `Target.delivery`, `Outlets.Takes`: what a printer gets when it is handed data, and whether it
  takes it;
* `send_of_takes`, `send_of_not_takes`: handing over delivers once or not at all;
* `Agent.Deliverable`: a text is a job whose printer is found and takes it;
* `process_cases`: the two ends of an attempt, and there is no third;
* **`process_delivers_once`**: what the reply says is what happened, for every text, all settings
  and whatever spooler and network answer.
-/

namespace ReceiptPrinting

/-! ## 1. Handing over -/

/-- What reaches a printer that takes data: a connection to its address, or a job in its queue. -/
def Target.delivery (data : Bytes) : Target → Delivered
  | .network a => .sent a data
  | .queue name => .spooled name Outlets.documentName data

namespace Outlets

/-- The printer takes the data: it accepts the connection, or the spooler takes the job. -/
def Takes (o : Outlets) (data : Bytes) : Target → Prop
  | .network a => o.connect a = .accepted
  | .queue name => o.submit name documentName data = .ok ()

section

variable {o : Outlets} {data : Bytes} {target : Option String} {t : Target}

theorem send_of_takes (h : o.Takes data t) : o.send data t = (.ok (), [t.delivery data]) := by
  cases t with
  | network a =>
    have hc : o.connect a = .accepted := h
    simp only [send, hc]
    rfl
  | queue name =>
    have hs : o.submit name documentName data = .ok () := h
    simp only [send, hs]
    rfl

/-- A printer that does not take the data gets nothing of it. -/
theorem send_of_not_takes (h : ¬ o.Takes data t) : ∃ e, o.send data t = (.error e, []) := by
  cases t with
  | network a =>
    cases hc : o.connect a with
    | accepted => exact absurd hc h
    | refused reason =>
      exact ⟨.printer (.connection (a.text ++ ": " ++ reason)), by simp only [send, hc]⟩
    | timedOut => exact ⟨.printer (.timeout a.text), by simp only [send, hc]⟩
  | queue name =>
    cases hs : o.submit name documentName data with
    | ok u => exact absurd hs h
    | fault e => exact ⟨.printer e, by simp only [send, hs]⟩
    | crash c =>
      exact ⟨.printer (.spooler ("Task join failed: " ++ c.message)), by simp only [send, hs]⟩

theorem deliver_of_takes (hr : o.resolve target = .ok t) (h : o.Takes data t) :
    o.deliver data target = (.ok t, [t.delivery data]) := by
  simp only [deliver, hr, send_of_takes h]

/-- A job that no printer is found for, or that its printer does not take, is not delivered. -/
theorem deliver_of_not_takes (h : ∀ t, o.resolve target = .ok t → ¬ o.Takes data t) :
    ∃ e, o.deliver data target = (.error e, []) := by
  cases hr : o.resolve target with
  | error e => exact ⟨e, by simp only [deliver, hr]⟩
  | ok t =>
    obtain ⟨e, he⟩ := send_of_not_takes (h t hr)
    exact ⟨e, by simp only [deliver, hr, he]⟩

end

/-- A spooler with one printer, which is the default and takes everything, and no network. -/
def oneQueue (name : String) : Outlets where
  defaultPrinter := .ok (some name)
  printers := .ok [name]
  submit printer _ _ := if printer = name then .ok () else .fault (.notFound printer)
  connect _ := .refused "Network is unreachable"

end Outlets

/-! ## 2. Attempts -/

namespace Agent

/-- The text is a job, its printer is found, and takes the bytes of the job. -/
structure Deliverable (s : Settings) (o : Outlets) (text : String) (j : Job) (t : Target) :
    Prop where
  parsed : Job.parse text = .ok j
  resolved : o.resolve j.target = .ok t
  taken : o.Takes (j.render s) t

section

variable {s : Settings} {o : Outlets} {text : String} {j : Job} {t : Target}

theorem process_of_deliverable (h : Deliverable s o text j t) (jobId : String) :
    process s o jobId text =
      (.done jobId (doneMessage j.content.kind t), [t.delivery (j.render s)]) := by
  simp only [process, h.parsed, Outlets.deliver_of_takes h.resolved h.taken]

/-- What fails at any stage fails as a whole. The message does not depend on the attempt's name. -/
theorem process_of_not_deliverable (h : ¬ ∃ j t, Deliverable s o text j t) :
    ∃ message, ∀ jobId, process s o jobId text = (.failed jobId message, []) := by
  cases hp : Job.parse text with
  | error e => exact ⟨e.message, fun jobId => by simp only [process, hp]⟩
  | ok j =>
    have hn : ∀ t, o.resolve j.target = .ok t → ¬ o.Takes (j.render s) t :=
      fun t hr ht => h ⟨j, t, hp, hr, ht⟩
    obtain ⟨e, he⟩ := Outlets.deliver_of_not_takes hn
    exact ⟨e.message, fun jobId => by simp only [process, hp, he]⟩

/-- **The two ends of an attempt.** -/
theorem process_cases (s : Settings) (o : Outlets) (text : String) :
    (∃ j t, Deliverable s o text j t ∧ ∀ jobId, process s o jobId text =
      (.done jobId (doneMessage j.content.kind t), [t.delivery (j.render s)])) ∨
    ((¬ ∃ j t, Deliverable s o text j t) ∧ ∃ message, ∀ jobId,
      process s o jobId text = (.failed jobId message, [])) := by
  by_cases h : ∃ j t, Deliverable s o text j t
  · obtain ⟨j, t, hd⟩ := h
    exact .inl ⟨j, t, hd, process_of_deliverable hd⟩
  · exact .inr ⟨h, process_of_not_deliverable h⟩

/-- What is said of a job that was delivered names its printer. -/
theorem doneMessage_eq (kind : JobKind) (t : Target) :
    doneMessage kind t =
      (if kind = .drawer then "Cash drawer opened via " else "Printed to ") ++ t.text := by
  cases kind <;> rfl

/-- **Delivered exactly once or not at all.** The reply carries the attempt's name. If it says that
    the job was done, the text was a job, and one printer got the bytes of that job once: the one
    that was found for it, which the message names. If it says that the job failed, the text was no
    job, or no printer was found that takes it, and nothing reached any printer. -/
theorem process_delivers_once (s : Settings) (o : Outlets) (jobId text : String) :
    (process s o jobId text).1.jobId = jobId ∧
    ((process s o jobId text).1.success = true →
      ∃ j t, Deliverable s o text j t ∧
        (process s o jobId text).2 = [t.delivery (j.render s)] ∧
        (process s o jobId text).1.message =
          (if j.content.kind = .drawer then "Cash drawer opened via " else "Printed to ") ++
            t.text) ∧
    ((process s o jobId text).1.success = false →
      (¬ ∃ j t, Deliverable s o text j t) ∧ (process s o jobId text).2 = []) := by
  rcases process_cases s o text with ⟨j, t, hd, hp⟩ | ⟨hn, message, hp⟩
  · rw [hp jobId]
    refine ⟨rfl, fun _ => ⟨j, t, hd, rfl, doneMessage_eq _ t⟩, fun hf => ?_⟩
    cases hf
  · rw [hp jobId]
    refine ⟨rfl, fun ht => ?_, fun _ => ⟨hn, rfl⟩⟩
    cases ht

example : process .standard (.oneQueue "Bar") "7" "\x7b\"type\":\"drawer\"\x7d" =
    (.done "7" "Cash drawer opened via Bar",
      [.spooled "Bar" "POS Ticket" [0x1B, 0x70, 0x00, 25, 250]]) := by
  decide +kernel

end

end Agent

end ReceiptPrinting
