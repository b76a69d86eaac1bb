import ReceiptPrinting.Proofs.Number.Money
import ReceiptPrinting.Proofs.Validation

/-!
# What a rendering depends on

The bytes of a job are decided by its kind, and for receipts and kitchen copies by the ticket and by
whether the paper is that of 80 mm. Nothing else of a request has a say: not the printer it names,
nor any part that is unknown, nor, for the test page and the drawer, the data and the width.

* `Decimal.Same`, `Ticket.Same`: tickets that are the same but for the places of their amounts;
* `Receipt.layout_eq_of_same`, `KitchenCopy.layout_eq_of_same`: these have one layout;
* `Job.Asks`: what a text asks for; `Job.RenderAlike`: two texts become jobs of the same bytes;
* **`Job.renders_alike`**: which texts do.
-/

namespace ReceiptPrinting

open Escpos (Instruction)
open Json (Denotes)

/-! ## 1. Amounts -/

/-- Two amounts are the same number, whatever places they are written with. Where that is nothing
    they are the same if both have a minus or neither has one, for a minus is printed. -/
structure Decimal.Same (d e : Decimal) : Prop where
  number : d.value = e.value
  sign : d.value = 0 → d.negative = e.negative

namespace Decimal

theorem Same.refl (d : Decimal) : d.Same d := ⟨rfl, fun _ => rfl⟩

/-- The sign of an amount that is not nothing is that of its number. -/
theorem negative_iff (d : Decimal) (h : d.value ≠ 0) : d.negative = true ↔ d.value < 0 := by
  have hsize : (0 : ℚ) ≤ d.mantissa / 10 ^ d.scale := by positivity
  cases hsign : d.negative with
  | false =>
    have hvalue : d.value = d.mantissa / 10 ^ d.scale := by simp [value, hsign]
    rw [hvalue]
    exact iff_of_false Bool.false_ne_true hsize.not_gt
  | true =>
    have hvalue : d.value = -(d.mantissa / 10 ^ d.scale) := by simp [value, hsign, neg_div]
    have hle : d.value ≤ 0 := by rwa [hvalue, neg_nonpos]
    exact iff_of_true rfl (lt_of_le_of_ne hle h)

variable {d e : Decimal}

theorem Same.negative_eq (h : d.Same e) : d.negative = e.negative := by
  by_cases hzero : d.value = 0
  · exact h.sign hzero
  · have hzero' : e.value ≠ 0 := by rwa [← h.number]
    rw [Bool.eq_iff_iff, d.negative_iff hzero, e.negative_iff hzero', h.number]

theorem Same.size_eq (h : d.Same e) :
    (d.mantissa / 10 ^ d.scale : ℚ) = e.mantissa / 10 ^ e.scale := by
  have hvalue := h.number
  rw [value, value, h.negative_eq, mul_div_assoc, mul_div_assoc] at hvalue
  cases hsign : e.negative with
  | false => simpa [hsign] using hvalue
  | true => simpa [hsign] using hvalue

theorem Same.hundredths_eq (h : d.Same e) : d.hundredths = e.hundredths := by
  have hd := d.nearestAway_hundredths
  rw [h.size_eq] at hd
  exact_mod_cast hd.unique e.nearestAway_hundredths

theorem Same.mantissa_eq_zero_iff (h : d.Same e) : d.mantissa = 0 ↔ e.mantissa = 0 := by
  rw [← d.value_eq_zero_iff, ← e.value_eq_zero_iff, h.number]

/-- **The same amounts are printed alike.** -/
theorem Same.money_eq (h : d.Same e) : d.money = e.money := by
  have hzero : (d.mantissa == 0) = (e.mantissa == 0) :=
    Bool.eq_iff_iff.mpr (by simpa using h.mantissa_eq_zero_iff)
  rw [money, money, h.hundredths_eq, h.negative_eq, hzero]

theorem Same.isPositive_eq (h : d.Same e) : d.isPositive = e.isPositive := by
  rw [Bool.eq_iff_iff, isPositive_iff, isPositive_iff, h.number]

end Decimal

/-! ## 2. Tickets -/

/-- Two lines are the same but for the places of their amounts. -/
structure Line.Same (l m : Line) : Prop where
  name : l.name = m.name
  quantity : l.quantity = m.quantity
  unitPrice : l.unitPrice.Same m.unitPrice
  lineTotal : l.lineTotal.Same m.lineTotal
  notes : l.notes = m.notes

/-- Two payments are the same but for the places of their amounts. -/
structure Payment.Same (p q : Payment) : Prop where
  provider : p.provider = q.provider
  amount : p.amount.Same q.amount
  change : p.change.Same q.change

/-- Two tickets are the same but for the places of their amounts. -/
structure Ticket.Same (t u : Ticket) : Prop where
  orderNumber : t.orderNumber = u.orderNumber
  tableNumber : t.tableNumber = u.tableNumber
  isTakeAway : t.isTakeAway = u.isTakeAway
  createdAt : t.createdAt = u.createdAt
  total : t.total.Same u.total
  lines : List.Forall₂ Line.Same t.lines u.lines
  payment : Option.Rel Payment.Same t.payment u.payment

/-- A ticket is the same as itself. -/
theorem Ticket.Same.refl (t : Ticket) : t.Same t where
  orderNumber := rfl
  tableNumber := rfl
  isTakeAway := rfl
  createdAt := rfl
  total := .refl _
  lines := List.forall₂_same.mpr fun _ _ => ⟨rfl, rfl, .refl _, .refl _, rfl⟩
  payment := by
    cases t.payment with
    | none => exact .none
    | some p => exact .some ⟨rfl, .refl _, .refl _⟩

theorem flatMap_eq_of_forall₂ {α β : Type} {r : α → α → Prop} {as bs : List α} {f g : α → List β}
    (h : List.Forall₂ r as bs) (hfg : ∀ a b, r a b → f a = g b) : as.flatMap f = bs.flatMap g := by
  induction h with
  | nil => rfl
  | cons hab _ ih => rw [List.flatMap_cons, List.flatMap_cons, hfg _ _ hab, ih]

/-! ## 3. Layouts -/

namespace Receipt

variable {p q : Paper} (hcolumns : p.columns = q.columns)

include hcolumns in
theorem itemRow_eq_of_columns (name quantity price total : String) :
    itemRow p name quantity price total = itemRow q name quantity price total := by
  rw [itemRow, itemRow, Paper.nameWidth, Paper.nameWidth, hcolumns]

include hcolumns in
theorem lineRows_eq_of_same {l m : Line} (h : l.Same m) : lineRows p l = lineRows q m := by
  rw [lineRows, lineRows, Line.printableNotes, Line.printableNotes, h.name, h.quantity, h.notes,
    h.unitPrice.money_eq, h.lineTotal.money_eq, itemRow_eq_of_columns hcolumns]

theorem paymentRows_eq_of_same (t : ReceiptTexts) {x y : Payment} (h : x.Same y) :
    paymentRows t x = paymentRows t y := by
  unfold paymentRows ReceiptTexts.money
  rw [h.provider, h.amount.money_eq, h.change.money_eq, h.change.isPositive_eq]

include hcolumns in
/-- **Tickets that are the same have one receipt** on papers of as many columns. -/
theorem layout_eq_of_same (t : ReceiptTexts) {o o' : Ticket} (h : o.Same o') :
    layout p t o = layout q t o' := by
  have horder : orderRows o = orderRows o' := by
    rw [orderRows, orderRows, h.orderNumber, h.tableNumber, h.isTakeAway, h.createdAt]
  have hitems : itemTable p o = itemTable q o' := by
    rw [itemTable, itemTable, itemRow_eq_of_columns hcolumns,
      flatMap_eq_of_forall₂ h.lines fun _ _ => lineRows_eq_of_same hcolumns]
  have htotal : totalRow t o = totalRow t o' := by
    rw [totalRow, totalRow, ReceiptTexts.money, ReceiptTexts.money, h.total.money_eq]
  have hpaid : (o.payment.map (paymentRows t)).getD [] =
      (o'.payment.map (paymentRows t)).getD [] := by
    have hpayment := h.payment
    generalize o.payment = x at hpayment
    generalize o'.payment = y at hpayment
    cases hpayment with
    | none => rfl
    | some hxy => exact paymentRows_eq_of_same t hxy
  rw [layout, layout, horder, hitems, htotal, hpaid]

end Receipt

namespace KitchenCopy

theorem lineRows_eq_of_same {l m : Line} (h : l.Same m) : lineRows l = lineRows m := by
  rw [lineRows, lineRows, Line.printableNotes, Line.printableNotes, h.name, h.quantity, h.notes]

/-- **Tickets that are the same have one kitchen copy.** -/
theorem layout_eq_of_same {o o' : Ticket} (h : o.Same o') : layout o = layout o' := by
  have hheading : heading o = heading o' := by
    rw [heading, heading, h.orderNumber, h.tableNumber, h.isTakeAway]
  have htime : timeRow o = timeRow o' := by rw [timeRow, timeRow, h.createdAt]
  rw [layout, layout, hheading, htime, flatMap_eq_of_forall₂ h.lines fun _ _ => lineRows_eq_of_same]

end KitchenCopy

/-! ## 4. Requests -/

namespace Request

/-- The data of a request is the ticket `t`. -/
def Holds (r : Request) (t : Ticket) : Prop := ∃ d, r.data = some d ∧ Ticket.Form d t

/-- The width of paper that a request is for: the one that it names, or the one that is set. -/
def width (s : Settings) (r : Request) : UInt16 := r.paperWidth.getD s.paperWidth

end Request

theorem JobKind.wants_of_holds {r : Request} {t : Ticket} (h : r.Holds t) (k : JobKind) :
    k.Wants r.data (k.content t) := by
  obtain ⟨d, hd, hform⟩ := h
  rw [hd]
  cases k with
  | receipt => exact .receipt hform
  | kitchen => exact .kitchen hform
  | test => exact .test _
  | drawer => exact .drawer _

/-- What is wanted is of the kind that wants it. -/
theorem JobKind.Wants.kind_eq {k : JobKind} {data : Option Json.Value} {c : Content}
    (h : k.Wants data c) : c.kind = k := by
  cases h <;> rfl

namespace Job

variable {text a b : String} {k : JobKind} {r q : Request} {t u : Ticket} {s : Settings}

/-- The text holds the request `r`, which is for a job of the kind `k`. -/
structure Asks (text : String) (k : JobKind) (r : Request) : Prop where
  request : ∃ v, Denotes text v ∧ Request.Form v r
  kind : Text.lower (Text.trim r.kind) = k.name

/-- Both texts become jobs, and these have the same bytes. -/
def RenderAlike (s : Settings) (a b : String) : Prop :=
  ∃ i j, parse a = .ok i ∧ parse b = .ok j ∧ i.render s = j.render s

theorem Asks.parse_eq {c : Content} (h : Asks text k r) (wanted : k.Wants r.data c) :
    parse text = .ok ⟨c, r.target, r.paperWidth⟩ := by
  obtain ⟨v, json, request⟩ := h.request
  exact parse_eq_iff.mpr (.job json request h.kind wanted)

/-- A text that becomes a job asks for it. -/
theorem exists_asks {j : Job} (h : parse text = .ok j) :
    ∃ r, Asks text j.content.kind r ∧ r.paperWidth = j.paperWidth ∧
      ∀ t, j.content.ticket? = some t → r.Holds t := by
  cases parse_eq_iff.mp h with
  | @job v r k c json request kind wanted =>
    have hkind : c.kind = k := wanted.kind_eq
    refine ⟨r, ⟨⟨v, json, request⟩, ?_⟩, rfl, fun t ht => form_of_wanted wanted ht⟩
    rw [kind, ← hkind]

/-! ## 5. Bytes -/

/-- The printer has no say in the bytes, and neither has the width but whether it is 80 mm. -/
theorem render_eq_of_same (k : JobKind) (h : t.Same u) {w w' : Option UInt16}
    (hwidth : w.getD s.paperWidth = 80 ↔ w'.getD s.paperWidth = 80) (x y : Option String) :
    render s ⟨k.content t, x, w⟩ = render s ⟨k.content u, y, w'⟩ := by
  have hcolumns : Paper.columns ⟨w.getD s.paperWidth⟩ = Paper.columns ⟨w'.getD s.paperWidth⟩ :=
    (Paper.columns_eq_iff _ _).mpr hwidth
  have hsheet : Paper.sheet ⟨w.getD s.paperWidth⟩ s.page =
      Paper.sheet ⟨w'.getD s.paperWidth⟩ s.page := by
    rw [Paper.sheet, Paper.sheet, hcolumns]
  cases k with
  | receipt =>
    exact congrArg₂ Escpos.Sheet.print hsheet (Receipt.layout_eq_of_same hcolumns s.texts h)
  | kitchen => exact congrArg₂ Escpos.Sheet.print hsheet (KitchenCopy.layout_eq_of_same h)
  | test | drawer => rfl

theorem renderAlike_of_same (ha : Asks a k r) (hb : Asks b k q) (ht : r.Holds t) (hu : q.Holds u)
    (h : t.Same u) (hwidth : r.width s = 80 ↔ q.width s = 80) : RenderAlike s a b :=
  ⟨_, _, ha.parse_eq (JobKind.wants_of_holds ht k), hb.parse_eq (JobKind.wants_of_holds hu k),
    render_eq_of_same k h hwidth _ _⟩

/-- Test pages are alike, and so are the pulses that open the drawer, whatever else is asked for. -/
theorem renderAlike_of_no_ticket (ha : Asks a k r) (hb : Asks b k q)
    (hk : k = .test ∨ k = .drawer) : RenderAlike s a b := by
  rcases hk with rfl | rfl
  · exact ⟨_, _, ha.parse_eq (.test _), hb.parse_eq (.test _), rfl⟩
  · exact ⟨_, _, ha.parse_eq (.drawer _), hb.parse_eq (.drawer _), rfl⟩

/-- **Rendering depends on nothing but what it should.** Two texts that ask for the test page become
    jobs of the same bytes, whatever else they hold, and so it is with the drawer. Two texts that
    ask for a receipt, or for a kitchen copy, do so if their tickets are the same and the widths are
    both 80 mm or both not; so it makes no difference to name the width that is set, and all widths
    but 80 mm are alike. Every text that becomes a job asks for it, so there are no others. -/
theorem renders_alike (s : Settings) :
    (∀ a b k r q, Asks a k r → Asks b k q → k = .test ∨ k = .drawer → RenderAlike s a b) ∧
    (∀ a b k r q t u, Asks a k r → Asks b k q → r.Holds t → q.Holds u → t.Same u →
      (r.width s = 80 ↔ q.width s = 80) → RenderAlike s a b) ∧
    (∀ a b k r q t u, Asks a k r → Asks b k q → r.Holds t → q.Holds u → t.Same u →
      r.paperWidth = some s.paperWidth → q.paperWidth = none → RenderAlike s a b) ∧
    (∀ a b k r q t u, Asks a k r → Asks b k q → r.Holds t → q.Holds u → t.Same u →
      r.width s ≠ 80 → q.width s ≠ 80 → RenderAlike s a b) ∧
    ∀ text j, parse text = .ok j → ∃ r, Asks text j.content.kind r ∧
      r.paperWidth = j.paperWidth ∧ ∀ t, j.content.ticket? = some t → r.Holds t := by
  refine ⟨fun a b k r q ha hb hk => renderAlike_of_no_ticket ha hb hk,
    fun a b k r q t u ha hb ht hu h hwidth => renderAlike_of_same ha hb ht hu h hwidth,
    fun a b k r q t u ha hb ht hu h hr hq => renderAlike_of_same ha hb ht hu h ?_,
    fun a b k r q t u ha hb ht hu h hr hq => renderAlike_of_same ha hb ht hu h (iff_of_false hr hq),
    fun text j h => exists_asks h⟩
  rw [Request.width, Request.width, hr, hq, Option.getD_some, Option.getD_none]

/-- An order of one tea. -/
def teaOrder (total : Decimal) : Ticket :=
  { Ticket.empty with
    total := total
    lines := [⟨"Tea", 1, ⟨false, 25, 1, by decide, by decide⟩, .zero, none⟩] }

/-- An amount may be a number or a text, and a receipt may name a printer, and the width of 58 mm
    where 76 mm is set: the bytes are the same. So they are for test pages, whatever the data. -/
theorem renders_alike_otherwiseWritten :
    let s : Settings := { Settings.standard with paperWidth := 76 }
    let a := "\x7b\"type\": \"receipt\", \"paperWidth\": 58, \"printerName\": \"Bar\", \"tip\": [],
      \"data\": \x7b\"total\": 2.5, \"lines\": [[\"Tea\", 1, \"2.5\"]]\x7d\x7d"
    let b := "[\" RECEIPT\", null, \x7b\"total\": \"2.50\", \"lines\": [\x7b\"quantity\": 1,
      \"unitPrice\": 25e-1, \"name\": \"Tea\"\x7d]\x7d]"
    let c := "[\"test\", \" \", [7], 80]"
    let d := "\x7b\"data\": \x7b\x7d, \"type\": \"Test\"\x7d"
    RenderAlike s a b ∧ RenderAlike s c d := by
  intro s a b c d
  have hvalue : Decimal.Same ⟨false, 25, 1, by decide, by decide⟩
      ⟨false, 250, 2, by decide, by decide⟩ :=
    ⟨by norm_num [Decimal.value], fun _ => rfl⟩
  have ha : parse a = .ok
      ⟨.receipt (teaOrder ⟨false, 25, 1, by decide, by decide⟩), some "Bar", some 58⟩ := by
    decide +kernel
  have hb : parse b = .ok
      ⟨.receipt (teaOrder ⟨false, 250, 2, by decide, by decide⟩), none, none⟩ := by
    decide +kernel
  have hc : parse c = .ok ⟨.test, none, some 80⟩ := by decide +kernel
  have hd : parse d = .ok ⟨.test, none, none⟩ := by decide +kernel
  obtain ⟨hnone, hticket, -, -, hasks⟩ := renders_alike s
  constructor
  · obtain ⟨r, hr, hrwidth, ht⟩ := hasks a _ ha
    obtain ⟨q, hq, hqwidth, hu⟩ := hasks b _ hb
    refine hticket a b _ r q _ _ hr hq (ht _ rfl) (hu _ rfl) ?_ ?_
    · exact { Ticket.Same.refl (teaOrder _) with total := hvalue }
    · rw [Request.width, Request.width, hrwidth, hqwidth]
      decide
  · obtain ⟨r, hr, -, -⟩ := hasks c _ hc
    obtain ⟨q, hq, -, -⟩ := hasks d _ hd
    exact hnone c d _ r q hr hq (.inl rfl)

end Job

end ReceiptPrinting
