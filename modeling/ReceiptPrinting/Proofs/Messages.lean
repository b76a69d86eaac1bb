import ReceiptPrinting.Request
import ReceiptPrinting.Proofs.Json.Records

/-!
# Messages arrive as they were sent

Client and agent write their messages as JSON objects. Whatever texts a message holds, the other
side reads the message that was sent, straight from the text as well as by way of a value; so two
replies that are written alike are one reply. The data of a request are a JSON value of any shape,
as long as its numbers are whole and it leaves room for the brace around it.

* `Reply.recovers`, `Health.recovers`, `Request.recovers`: each message is read from its text;
* **`messages_arrive`**: all three, and that the text of a reply tells all of it.
-/

namespace ReceiptPrinting

open Json

/-! ## 1. Replies -/

namespace Reply

/-- A reply is read from its text. -/
theorem recovers (r : Reply) : decoder.Recovers r.text r := by
  have hplain : ∀ m ∈ [("success", Value.bool r.success), ("message", .string r.message),
      ("printJobId", .string r.jobId)], Plain 0 m.2 := by
    simp only [List.forall_mem_cons, List.not_mem_nil]
    exact ⟨.bool 0 r.success, .string 0 r.message, .string 0 r.jobId, nofun⟩
  have hordered : putMembers [("success", .bool r.success), ("message", .string r.message),
      ("printJobId", .string r.jobId)] [] =
        [("message", .string r.message), ("printJobId", .string r.jobId),
          ("success", .bool r.success)] := by
    simp (disch := decide) only [putMembers, List.foldl_cons, List.foldl_nil, putMember_nil,
      putMember_before, putMember_behind]
  refine Record.recovers_object (r := record)
    (s := ⟨some r.success, some r.message, some r.jobId⟩) (by decide) hplain ?_ ?_ rfl
  · exact
      .cons rfl rfl ((Decoder.takes_bool _ r.success).field ..) <|
      .cons rfl rfl ((Decoder.takes_string _ r.message).field ..) <|
      .cons rfl rfl ((Decoder.takes_string _ r.jobId).field ..) (.nil _)
  · rw [hordered]
    exact
      .cons rfl rfl ((Decoder.takes_string _ r.message).field ..) <|
      .cons rfl rfl ((Decoder.takes_string _ r.jobId).field ..) <|
      .cons rfl rfl ((Decoder.takes_bool _ r.success).field ..) (.nil _)

end Reply

/-! ## 2. Health -/

namespace Health

theorem takes_count (depth : Nat) (n : UInt64) :
    countDecoder.Takes depth (.number (.whole n.toNat)) n := by
  have hn := n.toNat_lt
  have hwhole : (Decoder.wholeWithin .count 0 0xFFFFFFFFFFFFFFFF).Takes depth
      (.number (.whole n.toNat)) n.toNat :=
    Decoder.takes_wholeWithin depth (inWords_natCast hn) (by omega)
  have hcount := hwhole.map fun k => UInt64.ofNat k.toNat
  rwa [Int.toNat_natCast, UInt64.ofNat_toNat] at hcount

/-- A health is read from its text. -/
theorem recovers (h : Health) : decoder.Recovers h.text h := by
  have hplain : ∀ m ∈ [("status", Value.string h.status),
      ("connectedClients", .number (.whole h.connectedClients.toNat))], Plain 0 m.2 := by
    simp only [List.forall_mem_cons, List.not_mem_nil]
    exact ⟨.string 0 h.status, .whole 0 (inWords_natCast h.connectedClients.toNat_lt), nofun⟩
  have hordered : putMembers [("status", .string h.status),
      ("connectedClients", .number (.whole h.connectedClients.toNat))] [] =
        [("connectedClients", .number (.whole h.connectedClients.toNat)),
          ("status", .string h.status)] := by
    simp (disch := decide) only [putMembers, List.foldl_cons, List.foldl_nil, putMember_nil,
      putMember_before]
  refine Record.recovers_object (r := record)
    (s := ⟨some h.status, some h.connectedClients⟩) (by decide) hplain ?_ ?_ rfl
  · exact
      .cons rfl rfl ((Decoder.takes_string _ h.status).field ..) <|
      .cons rfl rfl ((takes_count _ h.connectedClients).field ..) (.nil _)
  · rw [hordered]
    exact
      .cons rfl rfl ((takes_count _ h.connectedClients).field ..) <|
      .cons rfl rfl ((Decoder.takes_string _ h.status).field ..) (.nil _)

end Health

/-! ## 3. Requests -/

namespace Request

theorem inWords_width (w : UInt16) : InWords w.toNat :=
  inWords_natCast (Nat.lt_trans w.toNat_lt (by decide))

theorem takes_width (depth : Nat) (w : UInt16) :
    widthDecoder.Takes depth (.number (.whole w.toNat)) w := by
  have hw := w.toNat_lt
  have hwhole : (Decoder.wholeWithin .width 0 0xFFFF).Takes depth
      (.number (.whole w.toNat)) w.toNat :=
    Decoder.takes_wholeWithin depth (inWords_width w) (by omega)
  have hwidth := hwhole.map fun k => UInt16.ofNat k.toNat
  rwa [Int.toNat_natCast, UInt16.ofNat_toNat] at hwidth

/-- The draft of a request that has been read to its end. -/
def draft (r : Request) : Draft where
  kind := some r.kind
  printerName := r.printerName.map some
  data := r.data.map some
  paperWidth := r.paperWidth.map some

theorem finish_draft (r : Request) : record.finish r.draft = r := by
  obtain ⟨kind, printerName, data, paperWidth⟩ := r
  cases printerName <;> cases data <;> cases paperWidth <;> rfl

/-- The members of a request in the order they are written in. -/
def members (r : Request) : Members :=
  ("type", .string r.kind) :: optionalMember "printerName" (r.printerName.map .string) ++
    optionalMember "data" r.data ++
    optionalMember "paperWidth" (r.paperWidth.map fun w => .number (.whole w.toNat))

theorem plain_members {d : Nat} {r : Request} (h : ∀ v, r.data = some v → Plain d v) :
    ∀ m ∈ r.members, Plain d m.2 := by
  simp only [members, List.cons_append, List.forall_mem_cons, List.forall_mem_append]
  refine ⟨.string d r.kind, ⟨plain_optionalMember ?_, plain_optionalMember h⟩,
    plain_optionalMember ?_⟩
  · intro v hv
    obtain ⟨n, -, rfl⟩ := Option.map_eq_some_iff.1 hv
    exact .string d n
  · intro v hv
    obtain ⟨w, -, rfl⟩ := Option.map_eq_some_iff.1 hv
    exact .whole d (inWords_width w)

/-- Can the data be read inside a request? They are not `null`, which would be read as absent, and
    of the brackets that may be open at once, one is the brace of the request. -/
def Sendable (r : Request) : Prop := ∀ v, r.data = some v → v ≠ .null ∧ Plain (maxDepth - 2) v

section

variable (r : Request) (s : Draft)

theorem fills_kind (hs : s.kind = none) :
    record.Fills (maxDepth - 1) s [("type", .string r.kind)] { s with kind := r.draft.kind } := by
  have hunset : (s.kind).isSome = false := by rw [hs]; rfl
  exact .cons rfl hunset ((Decoder.takes_string _ r.kind).field ..) (.nil _)

theorem fills_printerName (hs : s.printerName = none) :
    record.Fills (maxDepth - 1) s (optionalMember "printerName" (r.printerName.map .string))
      { s with printerName := r.draft.printerName } := by
  refine .optional rfl hs (fun n _ => (Decoder.takes_string _ n).optional (.string 0 n) nofun) ?_
  cases hn : r.printerName with
  | none => simp [draft, hn, ← hs]
  | some n => simp [draft, hn]

theorem fills_data (h : r.Sendable) (hs : s.data = none) :
    record.Fills (maxDepth - 1) s (optionalMember "data" r.data)
      { s with data := r.draft.data } := by
  have hdata : record.Fills (maxDepth - 1) s (optionalMember "data" (r.data.map id))
      { s with data := r.draft.data } := by
    refine .optional rfl hs (fun v hv => ?_) ?_
    · obtain ⟨hnull, hplain⟩ := h v hv
      exact (Decoder.takes_value hplain (by decide)).optional hplain hnull
    · cases hv : r.data with
      | none => simp [draft, hv, ← hs]
      | some v => simp [draft, hv]
  rwa [Option.map_id] at hdata

theorem fills_paperWidth (hs : s.paperWidth = none) :
    record.Fills (maxDepth - 1) s
      (optionalMember "paperWidth" (r.paperWidth.map fun w => .number (.whole w.toNat)))
      { s with paperWidth := r.draft.paperWidth } := by
  refine .optional rfl hs (fun w _ => ?_) ?_
  · exact (takes_width _ w).optional (.whole 0 (inWords_width w)) nofun
  · cases hw : r.paperWidth with
    | none => simp [draft, hw, ← hs]
    | some w => simp [draft, hw]

end

/-- The members of a request, as they are written, fill its draft. -/
theorem fills_members {r : Request} (h : r.Sendable) :
    record.Fills (maxDepth - 1) {} r.members r.draft :=
  (((r.fills_kind {} rfl).append (r.fills_printerName _ rfl)).append
    (r.fills_data _ h rfl)).append (r.fills_paperWidth _ rfl)

theorem putMembers_members (r : Request) : putMembers r.members [] =
    optionalMember "data" r.data ++
      optionalMember "paperWidth" (r.paperWidth.map fun w => .number (.whole w.toNat)) ++
      optionalMember "printerName" (r.printerName.map .string) ++ [("type", .string r.kind)] := by
  obtain ⟨kind, printerName, data, paperWidth⟩ := r
  cases printerName <;> cases data <;> cases paperWidth <;>
    simp (disch := decide) only [members, optionalMember, Option.map_some, Option.map_none,
      List.nil_append, List.cons_append, putMembers, List.foldl_cons, List.foldl_nil, putMember_nil,
      putMember_before, putMember_behind]

/-- The members of a request, in the order of their names, fill its draft. -/
theorem fills_putMembers {r : Request} (h : r.Sendable) :
    record.Fills (maxDepth - 1) {} (putMembers r.members []) r.draft := by
  rw [putMembers_members]
  exact (((r.fills_data {} h rfl).append (r.fills_paperWidth _ rfl)).append
    (r.fills_printerName _ rfl)).append (r.fills_kind _ rfl)

/-- A request is read from its text. -/
theorem recovers {r : Request} (h : r.Sendable) : decoder.Recovers r.text r := by
  have hrecovers := Record.recovers_object (by decide) (plain_members fun v hv => (h v hv).2)
    (fills_members h) (fills_putMembers h) rfl
  rwa [finish_draft] at hrecovers

/-- A request whose data leave no room for its brace is not read. -/
theorem not_recovers {d : Nat} {r : Request} {v : Value} (hv : r.data = some v) (h : Plain d v)
    (hdeep : ¬ Plain (maxDepth - 2) v) : ¬ decoder.Recovers r.text r := by
  rintro ⟨-, w, hparse, -⟩
  have hplain : ∀ m ∈ r.members, Plain d m.2 := plain_members fun w hw => by
    rw [hv, Option.some_inj] at hw
    exact hw ▸ h
  have hmember : ("data", v) ∈ r.members := by simp [members, optionalMember, hv]
  obtain ⟨n, hn⟩ := parse_object_tooDeep hplain ⟨_, hmember, hdeep⟩
  have hfault : parse r.text = faultAt n .tooDeep := hn
  rw [hfault] at hparse
  cases hparse

end Request

/-! ## 4. All messages -/

/-- **Messages arrive as they were sent.** Every reply and every health is read from its text, and
    so is every request whose data are absent, or plain and not `null`: each straight from the text,
    and each after the text has been read as a value. The data have to leave room for the brace of
    the request, and that is all that is asked of their brackets. The text of a reply tells whether
    the job was done, the message and the name of the attempt. -/
theorem messages_arrive :
    (∀ r : Reply, Reply.decoder.Recovers r.text r) ∧
    (∀ h : Health, Health.decoder.Recovers h.text h) ∧
    (∀ r : Request, (∀ v, r.data = some v → v ≠ .null ∧ ∃ d, Plain d v) →
      (Request.decoder.Recovers r.text r ↔ ∀ v, r.data = some v → Plain (maxDepth - 2) v)) ∧
    ∀ r₁ r₂ : Reply, r₁.text = r₂.text →
      r₁.success = r₂.success ∧ r₁.message = r₂.message ∧ r₁.jobId = r₂.jobId := by
  refine ⟨Reply.recovers, Health.recovers, fun r h => ⟨fun hrecovers v hv => ?_, fun hroom => ?_⟩,
    fun r₁ r₂ htext => ?_⟩
  · obtain ⟨-, d, hplain⟩ := h v hv
    exact Classical.byContradiction fun hdeep => Request.not_recovers hv hplain hdeep hrecovers
  · exact Request.recovers fun v hv => ⟨(h v hv).1, hroom v hv⟩
  · have h₁ := r₁.recovers
    rw [htext] at h₁
    have heq : r₁ = r₂ := h₁.unique r₂.recovers
    exact ⟨congrArg Reply.success heq, congrArg Reply.message heq, congrArg Reply.jobId heq⟩

/-- A request with quotes and a line feed in a name, and with nested data. -/
def nestedRequest : Request where
  kind := "receipt"
  printerName := some "Bar \"Süd\"\n"
  data := some (.object [("lines", .array [.null, .number (.whole (-3))]), ("note", .string "🍕")])
  paperWidth := some 58

/-- The nested request arrives. -/
theorem messages_arrive_nestedRequest :
    Request.decoder.Recovers nestedRequest.text nestedRequest := by
  have hdata (d : Nat) : Plain (d + 2)
      (.object [("lines", .array [.null, .number (.whole (-3))]), ("note", .string "🍕")]) := by
    refine .object (by decide) ?_
    simp only [List.forall_mem_cons, List.not_mem_nil]
    refine ⟨.array ?_, .string _ _, nofun⟩
    simp only [List.forall_mem_cons, List.not_mem_nil]
    exact ⟨.null d, .whole d ⟨by decide, by decide⟩, nofun⟩
  refine (messages_arrive.2.2.1 nestedRequest fun v hv => ?_).2 fun v hv => ?_
  · cases hv
    exact ⟨nofun, _, hdata 0⟩
  · cases hv
    exact hdata _

end ReceiptPrinting
