import ReceiptPrinting.Proofs.Layout.KitchenCopy
import ReceiptPrinting.Proofs.WallClock.Writing

/-!
# The time on the receipt and on the kitchen copy

The receipt has a row for the date and the time of its ticket, the kitchen copy one for the time.
Both show the figures as they were written, or both show the text as it is, or neither has such a
row; all other rows are those of a ticket without a time. So the two never disagree, and an offset
never moves the time that is printed.

* `Ticket.untimed`, `RowsAdded`: the same ticket without its time, and the rows that it lacks;
* `ShowsTime`: what the two streams of a ticket show of its time;
* **`render_keeps_time`**: for every text, what they show of it.
-/

namespace ReceiptPrinting

open Escpos (Instruction Sheet Whole text?)

/-! ## 1. The texts of a time -/

/-- What is printed of a time: with its date, and without it. -/
structure TimeTexts where
  dateTime : String
  time : String

namespace Stamp

/-- What is printed of a stamp. -/
def texts (t : Stamp) : TimeTexts := ⟨t.dateTime, t.time⟩

theorem texts_clock (w : WallClock) :
    (clock w).texts = ⟨String.ofList w.dateTimeChars, String.ofList w.timeChars⟩ := rfl

theorem texts_verbatim (s : String) : (verbatim s).texts = ⟨s, s⟩ := rfl

variable {s : String} {w : WallClock}

theorem ofText?_of_blank (h : Text.Blank s) : ofText? s = none := by
  have hnone : Text.printable s = none := by
    rw [← Option.not_isSome_iff_eq_none, Text.printable_isSome_iff]
    exact not_not_intro h
  rw [ofText?, hnone, Option.map_none]

/-- **A text that is accepted is a time.** -/
theorem ofText?_of_accepted (h : w.Accepted (Text.trim s).toList) : ofText? s = some (clock w) := by
  have hread := WallClock.ofChars?_eq_some_iff.mpr h
  have hblank : ¬ Text.Blank s := by
    intro hblank
    rw [(Text.toList_trim_eq_nil s).mpr hblank] at hread
    cases hread
  rw [ofText?, Text.printable_eq_some_iff.mpr ⟨hblank, rfl⟩, Option.map_some, hread]

/-- **A text that no form accepts** is left as it is. -/
theorem ofText?_of_not_accepted (hblank : ¬ Text.Blank s)
    (h : ∀ w : WallClock, ¬ w.Accepted (Text.trim s).toList) :
    ofText? s = some (verbatim (Text.trim s)) := by
  have hread : WallClock.ofChars? (Text.trim s).toList = none :=
    Option.eq_none_iff_forall_ne_some.mpr fun w hw => h w (WallClock.ofChars?_eq_some_iff.mp hw)
  rw [ofText?, Text.printable_eq_some_iff.mpr ⟨hblank, rfl⟩, Option.map_some, hread]

end Stamp

/-! ## 2. The rows of a time -/

/-- The same ticket without its time. -/
def Ticket.untimed (o : Ticket) : Ticket := { o with createdAt := "" }

/-- The rows above the time on a receipt: the house, the order, the table. -/
def Receipt.titleRows (p : Paper) (page : CodePage) (t : ReceiptTexts) (o : Ticket) : List Bytes :=
  [page.encode t.brand, page.encode t.subtitle, fixedRow p page ("Order: " ++ o.orderNumber),
    fixedRow p page (if o.isTakeAway then "TAKEAWAY" else "Table: " ++ o.tableNumber)]

/-- The rows above the time on a kitchen copy: the order and the table. -/
def KitchenCopy.titleRows (page : CodePage) (o : Ticket) : List Bytes :=
  [page.encode "KITCHEN ORDER", page.encode o.orderNumber, page.encode (placeText o)]

/-- Between the rows `above` and the next rule, `bs` has the rows `new` and `bs'` has none; from the
    rule on, the two have the same rows. -/
def RowsAdded (above new : List Bytes) (rule : Bytes) (bs' bs : Bytes) : Prop :=
  ∃ below txt' txt,
    text? bs' = some txt' ∧ txt'.splitOn 0x0A = above ++ rule :: below ∧
    text? bs = some txt ∧ txt.splitOn 0x0A = above ++ new ++ rule :: below

section

variable (p : Paper) (page : CodePage) (t : ReceiptTexts) (o : Ticket)

theorem stamp_untimed : Stamp.ofText? o.untimed.createdAt = none :=
  Stamp.ofText?_of_blank fun _ hc => nomatch hc

theorem rowsAdded_print (sh : Sheet) {is' is : List Instruction} {above new below : List Bytes}
    {rule : Bytes} (h' : Whole is') (h : Whole is) (hrows' : sh.rows is' = above ++ rule :: below)
    (hrows : sh.rows is = above ++ (new ++ rule :: below)) :
    RowsAdded above new rule (sh.print is') (sh.print is) := by
  obtain ⟨txt', htxt', hsplit'⟩ := sh.splitOn_text_print h'
  obtain ⟨txt, htxt, hsplit⟩ := sh.splitOn_text_print h
  refine ⟨below ++ [[]], txt', txt, htxt', ?_, htxt, ?_⟩
  · rw [hsplit', hrows', List.append_assoc, List.cons_append]
  · rw [hsplit, hrows]
    simp only [List.append_assoc, List.cons_append]

/-- On a receipt, the row of the date stands between the table and the first rule. -/
theorem Receipt.rowsAdded_dateRow :
    RowsAdded (titleRows p page t o) (dateRow p page o) (ruleRow p 0x3D)
      ((p.sheet page).print (layout p t o.untimed)) ((p.sheet page).print (layout p t o)) := by
  have hnone : dateRow p page o.untimed = [] := by
    rw [dateRow, stamp_untimed]
    rfl
  have hrows' := rows_layout p page t o.untimed
  have hrows := rows_layout p page t o
  simp only [upperRows, hnone, List.append_assoc] at hrows hrows'
  exact rowsAdded_print _ (whole_layout p t o.untimed) (whole_layout p t o) hrows' hrows

/-- On a kitchen copy, the row of the time stands between the table and the first rule. -/
theorem KitchenCopy.rowsAdded_clockRow :
    RowsAdded (titleRows page o) (clockRow p page o) (Receipt.ruleRow p 0x3D)
      ((p.sheet page).print (layout o.untimed)) ((p.sheet page).print (layout o)) := by
  have hnone : clockRow p page o.untimed = [] := by
    rw [clockRow, stamp_untimed]
    rfl
  have hrows' := rows_layout p page o.untimed
  have hrows := rows_layout p page o
  simp only [headRows, hnone, List.append_assoc] at hrows hrows'
  exact rowsAdded_print _ (whole_layout o.untimed) (whole_layout o) hrows' hrows

end

/-! ## 3. What is printed -/

/-- A text at the left of a whole row, in bytes. -/
def fittedRow (s : Settings) (width : Option UInt16) (text : String) : Bytes :=
  s.page.encode (Text.fitLeft text (Paper.mk (width.getD s.paperWidth)).columns)

/-- A rule of `=` over a whole row, in bytes. -/
def equalsRow (s : Settings) (width : Option UInt16) : Bytes :=
  Receipt.ruleRow ⟨width.getD s.paperWidth⟩ 0x3D

/-- **What the receipt and the kitchen copy of a ticket show of its time**, and no other row of them
    depends on it. -/
structure ShowsTime (s : Settings) (target : Option String) (width : Option UInt16)
    (o : Ticket) (shown : Option TimeTexts) : Prop where
  receipt : RowsAdded (Receipt.titleRows ⟨width.getD s.paperWidth⟩ s.page s.texts o)
    (shown.map fun t => fittedRow s width ("Date: " ++ t.dateTime)).toList (equalsRow s width)
    (Job.render s ⟨.receipt o.untimed, target, width⟩) (Job.render s ⟨.receipt o, target, width⟩)
  kitchen : RowsAdded (KitchenCopy.titleRows s.page o)
    (shown.map fun t => fittedRow s width ("Time: " ++ t.time)).toList (equalsRow s width)
    (Job.render s ⟨.kitchen o.untimed, target, width⟩) (Job.render s ⟨.kitchen o, target, width⟩)

/-- What is told of a time, whatever its text is. -/
structure KeepsTime (s : Settings) (target : Option String) (width : Option UInt16) (o : Ticket) :
    Prop where
  /-- Of a blank text, neither shows a row. -/
  blank : Text.Blank o.createdAt → ShowsTime s target width o none
  /-- Of a time that is written, both show the digits written, whatever its fraction and its offset
      are and whatever blanks stand around it. -/
  written : ∀ (x : WallClock.Writing) (before after : String), Text.Blank before →
    Text.Blank after → o.createdAt = before ++ String.ofList x.chars ++ after → x.Possible →
    ShowsTime s target width o
      (some ⟨String.ofList (x.date ++ ' ' :: x.time), String.ofList x.time⟩)
  /-- Where there is no such date, time of day or offset, both show the whole text. -/
  impossible : ∀ (x : WallClock.Writing) (before after : String), Text.Blank before →
    Text.Blank after → o.createdAt = before ++ String.ofList x.chars ++ after → ¬ x.Possible →
    ShowsTime s target width o (some ⟨String.ofList x.chars, String.ofList x.chars⟩)
  /-- Of a text in any form that is accepted, both show the time that is written in it. -/
  accepted : ∀ w : WallClock, w.Accepted (Text.trim o.createdAt).toList →
    ShowsTime s target width o (some ⟨String.ofList w.dateTimeChars, String.ofList w.timeChars⟩)
  /-- Of every other text, both show all but the blanks around it. -/
  verbatim : ¬ Text.Blank o.createdAt →
    (∀ w : WallClock, ¬ w.Accepted (Text.trim o.createdAt).toList) →
    ShowsTime s target width o (some ⟨Text.trim o.createdAt, Text.trim o.createdAt⟩)

section

variable (s : Settings) (target : Option String) (width : Option UInt16) (o : Ticket)

theorem fixedRow_eq (text : String) :
    Receipt.fixedRow ⟨width.getD s.paperWidth⟩ s.page text = fittedRow s width text :=
  (s.page.encode_fitLeft _ text).symm

/-- Both streams show the stamp that the text of the time comes to. -/
theorem shows_stamp : ShowsTime s target width o ((Stamp.ofText? o.createdAt).map Stamp.texts) := by
  have hreceipt (o : Ticket) : Job.render s ⟨.receipt o, target, width⟩ =
      (Paper.sheet ⟨width.getD s.paperWidth⟩ s.page).print
        (Receipt.layout ⟨width.getD s.paperWidth⟩ s.texts o) := Job.render_of_layout rfl
  have hkitchen (o : Ticket) : Job.render s ⟨.kitchen o, target, width⟩ =
      (Paper.sheet ⟨width.getD s.paperWidth⟩ s.page).print (KitchenCopy.layout o) :=
    Job.render_of_layout rfl
  constructor
  case receipt =>
    have h := Receipt.rowsAdded_dateRow ⟨width.getD s.paperWidth⟩ s.page s.texts o
    simp only [Receipt.dateRow, fixedRow_eq] at h
    simp only [hreceipt, Option.map_map, Function.comp_def, Stamp.texts]
    exact h
  case kitchen =>
    have h := KitchenCopy.rowsAdded_clockRow ⟨width.getD s.paperWidth⟩ s.page o
    simp only [KitchenCopy.clockRow, fixedRow_eq] at h
    simp only [hkitchen, Option.map_map, Function.comp_def, Stamp.texts]
    exact h

/-- **The time is kept as it is written**, on the receipt and on the kitchen copy. -/
theorem render_keeps_time : KeepsTime s target width o := by
  have hstamp := shows_stamp s target width o
  have htrim (x : WallClock.Writing) (before after : String) (hbefore : Text.Blank before)
      (hafter : Text.Blank after) (ho : o.createdAt = before ++ String.ofList x.chars ++ after) :
      Text.trim o.createdAt = String.ofList x.chars := by
    rw [ho, Text.trim_surrounded x.trimmed_chars x.chars_ne_nil hbefore hafter]
  have haccepted (w : WallClock) (h : w.Accepted (Text.trim o.createdAt).toList) :
      ShowsTime s target width o
        (some ⟨String.ofList w.dateTimeChars, String.ofList w.timeChars⟩) := by
    rw [Stamp.ofText?_of_accepted h, Option.map_some, Stamp.texts_clock] at hstamp
    exact hstamp
  have hverbatim (hblank : ¬ Text.Blank o.createdAt)
      (h : ∀ w : WallClock, ¬ w.Accepted (Text.trim o.createdAt).toList) :
      ShowsTime s target width o (some ⟨Text.trim o.createdAt, Text.trim o.createdAt⟩) := by
    rw [Stamp.ofText?_of_not_accepted hblank h, Option.map_some, Stamp.texts_verbatim] at hstamp
    exact hstamp
  constructor
  case blank =>
    intro h
    rw [Stamp.ofText?_of_blank h, Option.map_none] at hstamp
    exact hstamp
  case written =>
    intro x before after hbefore hafter ho hx
    have hread : x.clock.Accepted (Text.trim o.createdAt).toList := by
      rw [htrim x before after hbefore hafter ho, String.toList_ofList,
        ← WallClock.ofChars?_eq_some_iff]
      exact x.ofChars?_chars.mpr ⟨hx, rfl⟩
    have h := haccepted _ hread
    rwa [x.dateTimeChars_clock, x.timeChars_clock] at h
  case impossible =>
    intro x before after hbefore hafter ho hx
    have hchars := htrim x before after hbefore hafter ho
    have hblank : ¬ Text.Blank o.createdAt := by
      rw [← Text.toList_trim_eq_nil, hchars, String.toList_ofList]
      exact x.chars_ne_nil
    have h := hverbatim hblank fun w hw => by
      rw [hchars, String.toList_ofList, ← WallClock.ofChars?_eq_some_iff] at hw
      exact hx (x.ofChars?_chars.mp hw).1
    rwa [hchars] at h
  case accepted => exact haccepted
  case verbatim => exact hverbatim

end

/-- The last second of a 29th of February, hours away from universal time. -/
def leapNight (year : Fin 10000) : WallClock.Writing where
  year := year
  month := 2
  day := 29
  hour := 23
  minute := 59
  spaced := false
  ending := .zoned 59 (List.replicate 12 9) (.hours false 23 59)

/-- A table, at the time of the text. -/
def nightTicket (createdAt : String) : Ticket where
  orderNumber := "7"
  tableNumber := "12"
  isTakeAway := false
  createdAt := createdAt
  total := .zero
  lines := []
  payment := none

/-- There was such a night in the year 2000, but not in 1900. -/
theorem render_keeps_time_leapNight :
    (leapNight 2000).Possible ∧ ¬ (leapNight 1900).Possible ∧
    ShowsTime .standard none none (nightTicket "\t2000-02-29T23:59:59.999999999999-23:59 \n")
      (some ⟨"2000-02-29 23:59", "23:59"⟩) ∧
    ShowsTime .standard none (some 58) (nightTicket " 1900-02-29T23:59:59.999999999999-23:59")
      (some ⟨"1900-02-29T23:59:59.999999999999-23:59",
        "1900-02-29T23:59:59.999999999999-23:59"⟩) := by
  have hpossible : (leapNight 2000).Possible :=
    ⟨by decide, by decide, by decide, by decide, by decide⟩
  have himpossible : ¬ (leapNight 1900).Possible := by
    intro h
    have hdate : ¬ WallClock.InCalendar 1900 2 29 := by decide
    exact hdate h.date
  have hblank (s : String) (h : s.toList.all Text.isBlank = true) : Text.Blank s :=
    List.all_eq_true.mp h
  have hkept (width : Option UInt16) (createdAt : String) :=
    render_keeps_time .standard none width (nightTicket createdAt)
  refine ⟨hpossible, himpossible, ?_, ?_⟩
  · exact (hkept none _).written (leapNight 2000) "\t" " \n" (hblank _ (by decide))
      (hblank _ (by decide)) (by decide +kernel) hpossible
  · exact (hkept (some 58) _).impossible (leapNight 1900) " " "" (hblank _ (by decide))
      (hblank _ (by decide)) (by decide +kernel) himpossible

end ReceiptPrinting
