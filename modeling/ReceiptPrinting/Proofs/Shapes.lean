import ReceiptPrinting.Proofs.Json.Shapes
import ReceiptPrinting.Request
import ReceiptPrinting.Ticket

/-!
# What requests and tickets look like

Requests, tickets, their lines and their payments are records of named parts. Here stands which
values are one of them, part by part, and that their decoders take exactly those.

* `Request.Form`, `Ticket.Form`, `Line.Form`, `Payment.Form`: the shapes of the four records;
* `Request.readsBy_form` and its like: they are read by their shapes.
-/

namespace ReceiptPrinting

open Json

/-! ## 1. Amounts and payments -/

/-- An amount, given as a number or as a text. A binary number stands for its shortest digits. -/
inductive Decimal.IsAmount : Shape Decimal where
  | whole {n : Int} {d : Decimal} (h : Decimal.ofInt? n = some d) : IsAmount (.number (.whole n)) d
  | real {x : Binary64} {d : Decimal} (h : Decimal.ofFixed? x.plainText = some d) :
    IsAmount (.number (.real x)) d
  | text {s : String} {d : Decimal} (h : Decimal.parse? s = some d) : IsAmount (.string s) d

theorem Decimal.readsBy_isAmount : Decimal.decoder.ReadsBy Decimal.IsAmount := by
  intro v _ d
  cases v with
  | number n =>
    cases n with
    | whole n =>
      have hread : accept (.number (.whole n)) = .ok d ↔ ofInt? n = some d := by
        simp only [accept]
        cases ofInt? n <;> simp
      refine hread.trans ⟨.whole, fun h => ?_⟩
      cases h with
      | whole h => exact h
    | real x =>
      have hread : accept (.number (.real x)) = .ok d ↔ ofFixed? x.plainText = some d := by
        simp only [accept]
        cases ofFixed? x.plainText <;> simp
      refine hread.trans ⟨.real, fun h => ?_⟩
      cases h with
      | real h => exact h
  | string s =>
    have hread : accept (.string s) = .ok d ↔ parse? s = some d := by
      simp only [accept]
      cases parse? s <;> simp
    refine hread.trans ⟨.text, fun h => ?_⟩
    cases h with
    | text h => exact h
  | null | bool | array | object => exact iff_of_false (by rintro ⟨⟩) (by rintro ⟨⟩)

/-- The names of the fields of a payment. -/
def Payment.names : List String := ["provider", "amount", "change"]

/-- The members of a payment. Each may be left out. -/
structure Payment.Members (ms : Json.Members) (p : Payment) : Prop where
  provider : OrElse "" IsString (ms.lookup "provider") p.provider
  amount : OrElse .zero Decimal.IsAmount (ms.lookup "amount") p.amount
  change : OrElse .zero Decimal.IsAmount (ms.lookup "change") p.change

/-- A payment. -/
def Payment.Form : Json.Shape Payment := fun v p =>
  ∃ ms, v.members? Payment.names = some ms ∧ Payment.Members ms p

namespace Payment

/-- The fields of a payment. -/
def slots : List (Slot Draft) := [
  ⟨"provider", false, .string, (·.provider), fun s a => { s with provider := some a }⟩,
  ⟨"amount", false, Decimal.decoder, (·.amount), fun s a => { s with amount := some a }⟩,
  ⟨"change", false, Decimal.decoder, (·.change), fun s a => { s with change := some a }⟩]

theorem slots_record : Slots record slots where
  fields := rfl
  nodup := by decide
  blank := by simp [slots, record]
  get_set := by simp [slots]
  get_set_other := by simp [slots]
  ext := by
    rintro ⟨⟩ ⟨⟩ h
    simpa [slots] using h

theorem readsBy_form : record.decoder.ReadsBy Payment.Form := by
  intro v hv p
  refine (slots_record.fromValue_eq_ok_iff hv).trans ⟨?read, ?shape⟩
  case read =>
    rintro ⟨ms, s, hms, hall, rfl⟩
    have hpart := hv.lookup slots_record.nodup hms
    simp only [slots, List.forall_mem_cons] at hall
    obtain ⟨hprovider, hamount, hchange, -⟩ := hall
    exact ⟨ms, hms,
      { provider := (Decoder.readsBy_string.orElse_iff (hpart _)).mpr ⟨_, hprovider, rfl⟩
        amount := (Decimal.readsBy_isAmount.orElse_iff (hpart _)).mpr ⟨_, hamount, rfl⟩
        change := (Decimal.readsBy_isAmount.orElse_iff (hpart _)).mpr ⟨_, hchange, rfl⟩ }⟩
  case shape =>
    rintro ⟨ms, hms, h⟩
    have hpart := hv.lookup slots_record.nodup hms
    obtain ⟨provider, hprovider, provider_eq⟩ :=
      (Decoder.readsBy_string.orElse_iff (hpart _)).mp h.provider
    obtain ⟨amount, hamount, amount_eq⟩ :=
      (Decimal.readsBy_isAmount.orElse_iff (hpart _)).mp h.amount
    obtain ⟨change, hchange, change_eq⟩ :=
      (Decimal.readsBy_isAmount.orElse_iff (hpart _)).mp h.change
    refine ⟨ms, ⟨provider, amount, change⟩, hms, ?_, ?_⟩
    · simp only [slots, List.forall_mem_cons]
      exact ⟨hprovider, hamount, hchange, nofun⟩
    · simp only [record, provider_eq, amount_eq, change_eq]

end Payment

/-! ## 2. Lines -/

/-- The names of the fields of a line. -/
def Line.names : List String := ["name", "quantity", "unitPrice", "lineTotal", "notes"]

/-- The members of a line. Name and quantity have to be there. -/
structure Line.Members (ms : Json.Members) (l : Line) : Prop where
  name : Required IsString (ms.lookup "name") l.name
  quantity : Required (IsWhole (-0x80000000) 0x7FFFFFFF) (ms.lookup "quantity") l.quantity
  unitPrice : OrElse .zero Decimal.IsAmount (ms.lookup "unitPrice") l.unitPrice
  lineTotal : OrElse .zero Decimal.IsAmount (ms.lookup "lineTotal") l.lineTotal
  notes : OrElse none (Nullable IsString) (ms.lookup "notes") l.notes

/-- A line. -/
def Line.Form : Json.Shape Line := fun v l =>
  ∃ ms, v.members? Line.names = some ms ∧ Line.Members ms l

namespace Line

/-- The fields of a line. -/
def slots : List (Slot Draft) := [
  ⟨"name", true, .string, (·.name), fun s a => { s with name := some a }⟩,
  ⟨"quantity", true, quantityDecoder, (·.quantity), fun s a => { s with quantity := some a }⟩,
  ⟨"unitPrice", false, Decimal.decoder, (·.unitPrice), fun s a => { s with unitPrice := some a }⟩,
  ⟨"lineTotal", false, Decimal.decoder, (·.lineTotal), fun s a => { s with lineTotal := some a }⟩,
  ⟨"notes", false, .optional .string, (·.notes), fun s a => { s with notes := some a }⟩]

theorem slots_record : Slots record slots where
  fields := rfl
  nodup := by decide
  blank := by simp [slots, record]
  get_set := by simp [slots]
  get_set_other := by simp [slots]
  ext := by
    rintro ⟨⟩ ⟨⟩ h
    simpa [slots] using h

theorem readsBy_form : record.decoder.ReadsBy Line.Form := by
  have hstring := Decoder.readsBy_string
  have hquantity := Decoder.readsBy_wholeWithin .quantity (-0x80000000) 0x7FFFFFFF
  have hamount := Decimal.readsBy_isAmount
  intro v hv l
  refine (slots_record.fromValue_eq_ok_iff hv).trans ⟨?read, ?shape⟩
  case read =>
    rintro ⟨ms, s, hms, hall, rfl⟩
    have hpart := hv.lookup slots_record.nodup hms
    simp only [slots, List.forall_mem_cons] at hall
    obtain ⟨name, quantity, unitPrice, lineTotal, notes, -⟩ := hall
    exact ⟨ms, hms,
      { name := (hstring.required_iff (hpart _) "").mpr ⟨_, name, rfl⟩
        quantity := (hquantity.required_iff (hpart _) 0).mpr ⟨_, quantity, rfl⟩
        unitPrice := (hamount.orElse_iff (hpart _)).mpr ⟨_, unitPrice, rfl⟩
        lineTotal := (hamount.orElse_iff (hpart _)).mpr ⟨_, lineTotal, rfl⟩
        notes := (hstring.optional.orElse_iff (hpart _)).mpr ⟨_, notes, rfl⟩ }⟩
  case shape =>
    rintro ⟨ms, hms, h⟩
    have hpart := hv.lookup slots_record.nodup hms
    obtain ⟨name, hname, name_eq⟩ := (hstring.required_iff (hpart _) "").mp h.name
    obtain ⟨quantity, hquantity, quantity_eq⟩ :=
      (hquantity.required_iff (hpart _) 0).mp h.quantity
    obtain ⟨unitPrice, hunitPrice, unitPrice_eq⟩ := (hamount.orElse_iff (hpart _)).mp h.unitPrice
    obtain ⟨lineTotal, hlineTotal, lineTotal_eq⟩ := (hamount.orElse_iff (hpart _)).mp h.lineTotal
    obtain ⟨notes, hnotes, notes_eq⟩ := (hstring.optional.orElse_iff (hpart _)).mp h.notes
    refine ⟨ms, ⟨name, quantity, unitPrice, lineTotal, notes⟩, hms, ?_, ?_⟩
    · simp only [slots, List.forall_mem_cons]
      exact ⟨hname, hquantity, hunitPrice, hlineTotal, hnotes, nofun⟩
    · simp only [record, name_eq, quantity_eq, unitPrice_eq, lineTotal_eq, notes_eq]

end Line

/-! ## 3. Tickets -/

/-- The names of the fields of a ticket. -/
def Ticket.names : List String :=
  ["orderNumber", "tableNumber", "isTakeAway", "createdAt", "total", "lines", "payment"]

/-- The members of a ticket. Each may be left out. -/
structure Ticket.Members (ms : Json.Members) (t : Ticket) : Prop where
  orderNumber : OrElse "" IsString (ms.lookup "orderNumber") t.orderNumber
  tableNumber : OrElse "" IsString (ms.lookup "tableNumber") t.tableNumber
  isTakeAway : OrElse false IsBool (ms.lookup "isTakeAway") t.isTakeAway
  createdAt : OrElse "" IsString (ms.lookup "createdAt") t.createdAt
  total : OrElse .zero Decimal.IsAmount (ms.lookup "total") t.total
  lines : OrElse [] (ListOf Line.Form) (ms.lookup "lines") t.lines
  payment : OrElse none (Nullable Payment.Form) (ms.lookup "payment") t.payment

/-- A ticket. -/
def Ticket.Form : Json.Shape Ticket := fun v t =>
  ∃ ms, v.members? Ticket.names = some ms ∧ Ticket.Members ms t

namespace Ticket

/-- The fields of a ticket. -/
def slots : List (Slot Draft) := [
  ⟨"orderNumber", false, .string, (·.orderNumber), fun s a => { s with orderNumber := some a }⟩,
  ⟨"tableNumber", false, .string, (·.tableNumber), fun s a => { s with tableNumber := some a }⟩,
  ⟨"isTakeAway", false, .bool, (·.isTakeAway), fun s a => { s with isTakeAway := some a }⟩,
  ⟨"createdAt", false, .string, (·.createdAt), fun s a => { s with createdAt := some a }⟩,
  ⟨"total", false, Decimal.decoder, (·.total), fun s a => { s with total := some a }⟩,
  ⟨"lines", false, .list Line.record.decoder, (·.lines), fun s a => { s with lines := some a }⟩,
  ⟨"payment", false, .optional Payment.record.decoder, (·.payment),
    fun s a => { s with payment := some a }⟩]

theorem slots_record : Slots record slots where
  fields := rfl
  nodup := by decide
  blank := by simp [slots, record]
  get_set := by simp [slots]
  get_set_other := by simp [slots]
  ext := by
    rintro ⟨⟩ ⟨⟩ h
    simpa [slots] using h

theorem readsBy_form : Ticket.decoder.ReadsBy Ticket.Form := by
  have hstring := Decoder.readsBy_string
  have hbool := Decoder.readsBy_bool
  have hamount := Decimal.readsBy_isAmount
  have hlines := Line.readsBy_form.list
  have hpayment := Payment.readsBy_form.optional
  intro v hv t
  refine (slots_record.fromValue_eq_ok_iff hv).trans ⟨?read, ?shape⟩
  case read =>
    rintro ⟨ms, s, hms, hall, rfl⟩
    have hpart := hv.lookup slots_record.nodup hms
    simp only [slots, List.forall_mem_cons] at hall
    obtain ⟨orderNumber, tableNumber, isTakeAway, createdAt, total, lines, payment, -⟩ := hall
    exact ⟨ms, hms,
      { orderNumber := (hstring.orElse_iff (hpart _)).mpr ⟨_, orderNumber, rfl⟩
        tableNumber := (hstring.orElse_iff (hpart _)).mpr ⟨_, tableNumber, rfl⟩
        isTakeAway := (hbool.orElse_iff (hpart _)).mpr ⟨_, isTakeAway, rfl⟩
        createdAt := (hstring.orElse_iff (hpart _)).mpr ⟨_, createdAt, rfl⟩
        total := (hamount.orElse_iff (hpart _)).mpr ⟨_, total, rfl⟩
        lines := (hlines.orElse_iff (hpart _)).mpr ⟨_, lines, rfl⟩
        payment := (hpayment.orElse_iff (hpart _)).mpr ⟨_, payment, rfl⟩ }⟩
  case shape =>
    rintro ⟨ms, hms, h⟩
    have hpart := hv.lookup slots_record.nodup hms
    obtain ⟨orderNumber, horder, orderNumber_eq⟩ := (hstring.orElse_iff (hpart _)).mp h.orderNumber
    obtain ⟨tableNumber, htable, tableNumber_eq⟩ := (hstring.orElse_iff (hpart _)).mp h.tableNumber
    obtain ⟨isTakeAway, htaken, isTakeAway_eq⟩ := (hbool.orElse_iff (hpart _)).mp h.isTakeAway
    obtain ⟨createdAt, hcreated, createdAt_eq⟩ := (hstring.orElse_iff (hpart _)).mp h.createdAt
    obtain ⟨total, htotal, total_eq⟩ := (hamount.orElse_iff (hpart _)).mp h.total
    obtain ⟨lines, hlist, lines_eq⟩ := (hlines.orElse_iff (hpart _)).mp h.lines
    obtain ⟨payment, hpaid, payment_eq⟩ := (hpayment.orElse_iff (hpart _)).mp h.payment
    refine ⟨ms, ⟨orderNumber, tableNumber, isTakeAway, createdAt, total, lines, payment⟩, hms,
      ?_, ?_⟩
    · simp only [slots, List.forall_mem_cons]
      exact ⟨horder, htable, htaken, hcreated, htotal, hlist, hpaid, nofun⟩
    · simp only [record, orderNumber_eq, tableNumber_eq, isTakeAway_eq, createdAt_eq, total_eq,
        lines_eq, payment_eq]

end Ticket

/-! ## 4. Requests -/

/-- A width of paper: a whole number of 16 bits. -/
inductive Request.IsWidth : Json.Shape UInt16 where
  | mk (w : UInt16) : IsWidth (.number (.whole w.toNat)) w

theorem Request.readsBy_isWidth : Request.widthDecoder.ReadsBy Request.IsWidth := by
  intro v hv w
  refine ((Decoder.readsBy_wholeWithin .width 0 0xFFFF).map _ v hv w).trans ⟨?_, ?_⟩
  · rintro ⟨n, ⟨lower, upper⟩, rfl⟩
    have hn : (n.toNat : Int) = n := Int.toNat_of_nonneg lower
    have hw : ((UInt16.ofNat n.toNat).toNat : Int) = n := by
      rw [UInt16.toNat_ofNat_of_lt' (by simp only [UInt16.size]; omega), hn]
    have hmk := IsWidth.mk (UInt16.ofNat n.toNat)
    rwa [hw] at hmk
  · rintro ⟨w⟩
    have hw := w.toNat_lt
    exact ⟨w.toNat, .mk (by omega) (by omega), by simp⟩

/-- The names of the fields of a request. -/
def Request.names : List String := ["type", "printerName", "data", "paperWidth"]

/-- The members of a request. The kind has to be there; of the others `null` means the same as to
    leave them out. -/
structure Request.Members (ms : Json.Members) (r : Request) : Prop where
  kind : Required IsString (ms.lookup "type") r.kind
  printerName : OrElse none (Nullable IsString) (ms.lookup "printerName") r.printerName
  data : OrElse none (Nullable (· = ·)) (ms.lookup "data") r.data
  paperWidth : OrElse none (Nullable IsWidth) (ms.lookup "paperWidth") r.paperWidth

/-- A request. -/
def Request.Form : Json.Shape Request := fun v r =>
  ∃ ms, v.members? Request.names = some ms ∧ Request.Members ms r

namespace Request

/-- The fields of a request. -/
def slots : List (Slot Draft) := [
  ⟨"type", true, .string, (·.kind), fun s a => { s with kind := some a }⟩,
  ⟨"printerName", false, .optional .string, (·.printerName),
    fun s a => { s with printerName := some a }⟩,
  ⟨"data", false, .optional .value, (·.data), fun s a => { s with data := some a }⟩,
  ⟨"paperWidth", false, .optional widthDecoder, (·.paperWidth),
    fun s a => { s with paperWidth := some a }⟩]

theorem slots_record : Slots record slots where
  fields := rfl
  nodup := by decide
  blank := by simp [slots, record]
  get_set := by simp [slots]
  get_set_other := by simp [slots]
  ext := by
    rintro ⟨⟩ ⟨⟩ h
    simpa [slots] using h

theorem readsBy_form : Request.decoder.ReadsBy Request.Form := by
  have hstring := Decoder.readsBy_string
  have hdata := Decoder.readsBy_value.optional
  have hwidth := readsBy_isWidth.optional
  intro v hv r
  refine (slots_record.fromValue_eq_ok_iff hv).trans ⟨?read, ?shape⟩
  case read =>
    rintro ⟨ms, s, hms, hall, rfl⟩
    have hpart := hv.lookup slots_record.nodup hms
    simp only [slots, List.forall_mem_cons] at hall
    obtain ⟨kind, printerName, data, paperWidth, -⟩ := hall
    exact ⟨ms, hms,
      { kind := (hstring.required_iff (hpart _) "").mpr ⟨_, kind, rfl⟩
        printerName := (hstring.optional.orElse_iff (hpart _)).mpr ⟨_, printerName, rfl⟩
        data := (hdata.orElse_iff (hpart _)).mpr ⟨_, data, rfl⟩
        paperWidth := (hwidth.orElse_iff (hpart _)).mpr ⟨_, paperWidth, rfl⟩ }⟩
  case shape =>
    rintro ⟨ms, hms, h⟩
    have hpart := hv.lookup slots_record.nodup hms
    obtain ⟨kind, hkind, kind_eq⟩ := (hstring.required_iff (hpart _) "").mp h.kind
    obtain ⟨printerName, hprinter, printerName_eq⟩ :=
      (hstring.optional.orElse_iff (hpart _)).mp h.printerName
    obtain ⟨data, hdata, data_eq⟩ := (hdata.orElse_iff (hpart _)).mp h.data
    obtain ⟨paperWidth, hpaper, paperWidth_eq⟩ := (hwidth.orElse_iff (hpart _)).mp h.paperWidth
    refine ⟨ms, ⟨kind, printerName, data, paperWidth⟩, hms, ?_, ?_⟩
    · simp only [slots, List.forall_mem_cons]
      exact ⟨hkind, hprinter, hdata, hpaper, nofun⟩
    · simp only [record, kind_eq, printerName_eq, data_eq, paperWidth_eq]

end Request

end ReceiptPrinting
