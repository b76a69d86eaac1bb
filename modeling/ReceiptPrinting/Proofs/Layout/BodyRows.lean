import ReceiptPrinting.Proofs.Layout.KitchenCopy

/-!
# The body of a ticket and what stands out of it

Most rows of a ticket stand at the left in normal size: these are its body, and each of them fills
the width of the paper, or is empty. The few rows that are set apart stand elsewhere or are larger.
Which rows are which is told by the style that a printer has when it prints them.

* `bodyRows`, `displayRows`: the two kinds of rows in what comes out of a printer;
* `Receipt.outputs`, `KitchenCopy.outputs`: all that comes out, row by row with its style;
* `Receipt.Styled`, `KitchenCopy.Styled`: which rows are set apart, empty or bold;
* **`tickets_fill_width`**: every ticket comes out of every printer so.
-/

namespace ReceiptPrinting

/-! ## 1. Rows of the body -/

namespace Escpos

/-- At the left and of normal size; bold or not. -/
def Style.InBody (s : Style) : Prop := s.align = .left ∧ s.size = .normal

instance (s : Style) : Decidable s.InBody := inferInstanceAs (Decidable (_ ∧ _))

/-- The row that comes out, with its style. -/
def Output.row? : Output → Option (Style × Bytes)
  | row s bs => some (s, bs)
  | cut | pulse => none

/-- The rows of the body, in their order. -/
def bodyRows (out : List Output) : List (Style × Bytes) :=
  (out.filterMap Output.row?).filter fun r => r.1.InBody

/-- The rows that are set apart, in their order. -/
def displayRows (out : List Output) : List Bytes :=
  ((out.filterMap Output.row?).filter fun r => ¬ r.1.InBody).map (·.2)

section

variable {s : Style} {bs : Bytes} (a b out : List Output) (rows : List Bytes)

@[simp] theorem bodyRows_append : bodyRows (a ++ b) = bodyRows a ++ bodyRows b := by
  simp [bodyRows]

@[simp] theorem displayRows_append : displayRows (a ++ b) = displayRows a ++ displayRows b := by
  simp [displayRows]

theorem bodyRows_flatMap {α : Type} (f : α → List Output) (as : List α) :
    bodyRows (as.flatMap f) = as.flatMap fun x => bodyRows (f x) := by
  simp [bodyRows, List.filterMap_flatMap, List.filter_flatMap]

theorem displayRows_flatMap {α : Type} (f : α → List Output) (as : List α) :
    displayRows (as.flatMap f) = as.flatMap fun x => displayRows (f x) := by
  simp [displayRows, List.filterMap_flatMap, List.filter_flatMap, List.map_flatMap]

/-- Rows in a style of the body are rows of the body, and none of them is set apart. -/
theorem bodyRows_map (h : s.InBody) : bodyRows (rows.map (.row s)) = rows.map (s, ·) := by
  induction rows with
  | nil => rfl
  | cons r rs ih => simp_all [bodyRows, Output.row?]

theorem displayRows_map (h : s.InBody) : displayRows (rows.map (.row s)) = [] := by
  induction rows with
  | nil => rfl
  | cons r rs ih => simp_all [displayRows, Output.row?]

end

/-- The style of a reset printer in a code page. -/
def Style.plain (page : CodePage) : Style := { Style.initial with page := some page.table }

theorem Style.plain_inBody (page : CodePage) : (Style.plain page).InBody := ⟨rfl, rfl⟩

/-- The end of a ticket: two empty rows and the cut. -/
def ending (page : CodePage) : List Output :=
  [.row (Style.plain page) [], .row (Style.plain page) [], .cut]

theorem bodyRows_ending (page : CodePage) :
    bodyRows (ending page) = [(Style.plain page, []), (Style.plain page, [])] := rfl

/-- No row of the body is empty. -/
def Gapless (out : List Output) : Prop := ∀ r ∈ bodyRows out, r.2 ≠ []

end Escpos

open Escpos (Instruction Sheet Style Output Machine bodyRows displayRows Gapless RowsOnly
  rowsOnly_append rowsOnly_flatMap)

/-! ## 2. The widths of rows -/

namespace Receipt

variable (p : Paper) (page : CodePage)

theorem ruleRow_length (b : UInt8) : (ruleRow p b).length = p.columns := List.length_replicate

theorem fixedRow_length (s : String) : (fixedRow p page s).length = p.columns :=
  Column.left_length _ _

theorem endsRow_length (l r : String) : (endsRow p page l r).length = p.columns := by
  rw [endsRow, Column.ends, List.length_append, Column.left_length, Column.right_length]
  omega

theorem columnsRow_length (name quantity price total : String) :
    (columnsRow p page name quantity price total).length = p.columns := by
  have hp := le_columns p
  simp only [columnsRow, List.length_append, Column.left_length, Column.right_length]
  omega

/-- A row for what may be absent has the width of the paper. -/
theorem length_of_mem_optionalRow {α : Type} {x : Option α} {f : α → String} {r : Bytes}
    (h : r ∈ (x.map fun a => fixedRow p page (f a)).toList) : r.length = p.columns := by
  obtain ⟨a, -, rfl⟩ := Option.map_eq_some_iff.mp (Option.mem_toList.mp h)
  exact fixedRow_length p page _

theorem length_of_mem_tableRows {o : Ticket} {r : Bytes} (h : r ∈ tableRows p page o) :
    r.length = p.columns := by
  obtain ⟨l, -, hl⟩ := List.mem_flatMap.mp h
  rcases List.mem_cons.mp hl with rfl | hl
  · exact columnsRow_length p page _ _ _ _
  · exact length_of_mem_optionalRow p page hl

theorem length_of_mem_paidRows {t : ReceiptTexts} {x : Option Payment} {r : Bytes}
    (h : r ∈ (x.map (paidRows p page t)).getD []) : r.length = p.columns := by
  cases x with
  | none => cases h
  | some x =>
    rw [Option.map_some, Option.getD_some, paidRows] at h
    rcases List.mem_append.mp h with h | h
    · rcases List.mem_pair.mp h with h | h <;> rw [h] <;> exact endsRow_length p page _ _
    · split at h
      · rw [List.mem_singleton.mp h]
        exact endsRow_length p page _ _
      · cases h

/-- A row of the width of the paper is not empty. -/
theorem ne_nil_of_length {r : Bytes} (h : r.length = p.columns) : r ≠ [] := by
  have hp := le_columns p
  exact List.ne_nil_of_length_pos (by omega)

end Receipt

/-! ## 3. Receipts -/

namespace Receipt

section

variable (p : Paper) (page : CodePage) (t : ReceiptTexts) (o : Ticket)

/-- The order row is the one bold row of the body. -/
def orderStyle : Style := { Style.plain page with bold := true }

/-- The rows between the order row and the total. -/
def orderBody : List Bytes :=
  fixedRow p page (if o.isTakeAway then "TAKEAWAY" else "Table: " ++ o.tableNumber) ::
    dateRow p page o ++
    ([ruleRow p 0x3D, columnsRow p page "Item" "Qty" "Price" "Total", ruleRow p 0x2D] ++
      tableRows p page o ++ [ruleRow p 0x2D])

/-- What comes out before the two empty rows at the end. -/
def mainOutputs : List Output :=
  [.row { Style.plain page with align := .center, size := .double, bold := true }
      (page.encode t.brand),
    .row { Style.plain page with align := .center } (page.encode t.subtitle),
    .row (orderStyle page) (fixedRow p page ("Order: " ++ o.orderNumber))] ++
  (orderBody p page o).map (.row (Style.plain page)) ++
  [.row { Style.plain page with align := .right, size := .tall, bold := true }
      (page.encode ("TOTAL: " ++ t.money o.total))] ++
  ((o.payment.map (paidRows p page t)).getD []).map (.row (Style.plain page)) ++
  [.row { Style.plain page with align := .center } (page.encode t.footer)]

/-- All that comes out. -/
def outputs : List Output := mainOutputs p page t o ++ Escpos.ending page

theorem printed_optionalRow {α : Type} (st : Style) (x : Option α) (f : α → String) :
    (p.sheet page).printed st (x.map fun a => Instruction.fixed (f a)).toList =
      ((x.map fun a => fixedRow p page (f a)).toList).map (.row st) := by
  rw [← rows_optionalRow]
  cases x <;> rfl

theorem printed_orderRows :
    (p.sheet page).printed { Style.plain page with align := .center } (orderRows o) =
      .row (orderStyle page) (fixedRow p page ("Order: " ++ o.orderNumber)) ::
        (fixedRow p page (if o.isTakeAway then "TAKEAWAY" else "Table: " ++ o.tableNumber) ::
          dateRow p page o).map (.row (Style.plain page)) := by
  rw [orderRows, Sheet.printed_append, printed_optionalRow, dateRow, ← encodeChars_fitLeftChars,
    ← encodeChars_fitLeftChars]
  rfl

theorem rowsOnly_itemTable : RowsOnly (itemTable p o) := by
  have hline (l : Line) : RowsOnly (lineRows p l) := by
    rw [lineRows]
    cases l.printableNotes <;> rfl
  rw [itemTable, rowsOnly_append, rowsOnly_append]
  exact ⟨⟨rfl, rowsOnly_flatMap hline _⟩, rfl⟩

theorem rowsOnly_paymentRows : RowsOnly ((o.payment.map (paymentRows t)).getD []) := by
  cases o.payment with
  | none => rfl
  | some x =>
    rw [Option.map_some, Option.getD_some, paymentRows]
    split <;> rfl

theorem rows_payment :
    (p.sheet page).rows ((o.payment.map (paymentRows t)).getD []) =
      (o.payment.map (paidRows p page t)).getD [] := by
  cases o.payment with
  | none => rfl
  | some x => exact rows_paymentRows p page t x

/-- **All that comes out of a printer for a receipt.** -/
theorem printed_layout :
    (p.sheet page).printed (Style.plain page) (layout p t o) = outputs p page t o := by
  have hhead : (p.sheet page).printed (Style.plain page) (heading t) =
      [.row { Style.plain page with align := .center, size := .double, bold := true }
        (page.encode t.brand),
      .row { Style.plain page with align := .center } (page.encode t.subtitle)] := rfl
  have htotal : (p.sheet page).printed (Style.plain page) (totalRow t o) =
      [.row { Style.plain page with align := .right, size := .tall, bold := true }
        (page.encode ("TOTAL: " ++ t.money o.total))] := rfl
  have hclose : (p.sheet page).printed (Style.plain page) (closing t) =
      .row { Style.plain page with align := .center } (page.encode t.footer) ::
        Escpos.ending page := rfl
  -- after each part but the first the style is plain again
  have sHead : (Style.plain page).afterAll (heading t) =
      { Style.plain page with align := .center } := rfl
  have sOrder : Style.afterAll { Style.plain page with align := .center } (orderRows o) =
      Style.plain page := afterAll_orderRows o _
  have sTotal : (Style.plain page).afterAll (totalRow t o) = Style.plain page := rfl
  simp only [layout, Sheet.printed_append, sHead, sOrder,
    afterAll_itemTable, sTotal, afterAll_paymentRows, hhead, printed_orderRows,
    Sheet.printed_rows _ _ (rowsOnly_itemTable p o), rows_itemTable, htotal,
    Sheet.printed_rows _ _ (rowsOnly_paymentRows t o), rows_payment, hclose, outputs, mainOutputs,
    orderBody, List.map_append, List.map_cons, List.cons_append, List.append_assoc]
  rfl

/-- The rows of the body before the two empty ones. -/
theorem bodyRows_mainOutputs :
    bodyRows (mainOutputs p page t o) =
      (orderStyle page, fixedRow p page ("Order: " ++ o.orderNumber)) ::
        (orderBody p page o ++ (o.payment.map (paidRows p page t)).getD []).map
          (Style.plain page, ·) := by
  have hplain := Style.plain_inBody page
  simp only [mainOutputs, Escpos.bodyRows_append, Escpos.bodyRows_map _ hplain, List.map_append]
  simp [bodyRows, Output.row?, Style.InBody, orderStyle, Style.plain, Style.initial]

theorem displayRows_outputs :
    displayRows (outputs p page t o) =
      [page.encode t.brand, page.encode t.subtitle, page.encode ("TOTAL: " ++ t.money o.total),
        page.encode t.footer] := by
  have hplain := Style.plain_inBody page
  simp only [outputs, mainOutputs, Escpos.displayRows_append, Escpos.displayRows_map _ hplain]
  simp [displayRows, Output.row?, Style.InBody, orderStyle, Style.plain, Style.initial,
    Escpos.ending]

theorem length_of_mem_orderBody {r : Bytes} (h : r ∈ orderBody p page o) :
    r.length = p.columns := by
  simp only [orderBody, List.mem_append, List.mem_cons, List.not_mem_nil, or_false] at h
  rcases h with (rfl | hdate) | ((rfl | rfl | rfl) | htable) | rfl
  · exact fixedRow_length p page _
  · exact length_of_mem_optionalRow p page hdate
  · exact ruleRow_length p _
  · exact columnsRow_length p page _ _ _ _
  · exact ruleRow_length p _
  · exact length_of_mem_tableRows p page htable
  · exact ruleRow_length p _

theorem length_of_mem_mainOutputs {r : Style × Bytes}
    (h : r ∈ bodyRows (mainOutputs p page t o)) : r.2.length = p.columns := by
  rw [bodyRows_mainOutputs] at h
  rcases List.mem_cons.mp h with rfl | h
  · exact fixedRow_length p page _
  · obtain ⟨bs, hbs, rfl⟩ := List.mem_map.mp h
    rcases List.mem_append.mp hbs with hbs | hbs
    · exact length_of_mem_orderBody p page o hbs
    · exact length_of_mem_paidRows p page hbs

/-- **Where the rows of a receipt stand.** -/
structure Styled (out : List Output) : Prop where
  width : ∀ r ∈ bodyRows out, r.2 = [] ∨ r.2.length = p.columns
  display : displayRows out =
    [page.encode t.brand, page.encode t.subtitle, page.encode ("TOTAL: " ++ t.money o.total),
      page.encode t.footer]
  /-- In the body, no row is empty but the two before the cut. -/
  empty : ∃ front, out = front ++ Escpos.ending page ∧ Gapless front
  bold : (bodyRows out).filter (fun r => r.1.bold) =
    [(orderStyle page, fixedRow p page ("Order: " ++ o.orderNumber))]

theorem styled_outputs : Styled p page t o (outputs p page t o) := by
  have hbody : bodyRows (outputs p page t o) =
      bodyRows (mainOutputs p page t o) ++ [(Style.plain page, []), (Style.plain page, [])] := by
    rw [outputs, Escpos.bodyRows_append, Escpos.bodyRows_ending]
  constructor
  case width =>
    intro r hr
    rw [hbody] at hr
    rcases List.mem_append.mp hr with hr | hr
    · exact .inr (length_of_mem_mainOutputs p page t o hr)
    · rcases List.mem_pair.mp hr with rfl | rfl <;> exact .inl rfl
  case display => exact displayRows_outputs p page t o
  case empty =>
    exact ⟨_, rfl, fun r hr => ne_nil_of_length p (length_of_mem_mainOutputs p page t o hr)⟩
  case bold =>
    rw [hbody, bodyRows_mainOutputs]
    simp [orderStyle, Style.plain, Style.initial, List.filter_map, Function.comp_def]

end

end Receipt

/-! ## 4. Kitchen copies -/

namespace KitchenCopy

open Receipt (ruleRow fixedRow ruleRow_length length_of_mem_optionalRow ne_nil_of_length)

section

variable (p : Paper) (page : CodePage) (o : Ticket) (l : Line)

/-- What comes out above the dishes. -/
def headOutputs : List Output :=
  [.row { Style.plain page with align := .center, size := .double, bold := true }
      (page.encode "KITCHEN ORDER"),
    .row { Style.plain page with align := .center, size := .double, bold := true }
      (page.encode o.orderNumber),
    .row { Style.plain page with
        align := .center, size := if o.isTakeAway then .double else .tall, bold := true }
      (page.encode (placeText o))] ++
  (clockRow p page o ++ [ruleRow p 0x3D]).map (.row (Style.plain page))

/-- What comes out for a dish, before the empty row below it. -/
def dishOutputs : List Output :=
  .row { Style.plain page with size := .tall, bold := true } (dishRow page l) ::
    (notesRow p page l).map (.row (Style.plain page))

/-- What comes out below the dishes, before the two empty rows at the end. -/
def footOutputs : List Output :=
  [.row (Style.plain page) (ruleRow p 0x3D),
    .row { Style.plain page with align := .center } (page.encode "*** KITCHEN COPY ***")]

/-- All that comes out. -/
def outputs : List Output :=
  headOutputs p page o ++
    o.lines.flatMap (fun l => dishOutputs p page l ++ [.row (Style.plain page) []]) ++
    footOutputs p page ++ Escpos.ending page

theorem printed_heading :
    (p.sheet page).printed (Style.plain page) (heading o) =
      [.row { Style.plain page with align := .center, size := .double, bold := true }
          (page.encode "KITCHEN ORDER"),
        .row { Style.plain page with align := .center, size := .double, bold := true }
          (page.encode o.orderNumber),
        .row { Style.plain page with
            align := .center, size := if o.isTakeAway then .double else .tall, bold := true }
          (page.encode (placeText o))] := by
  rw [heading, placeText]
  cases o.isTakeAway <;> rfl

theorem printed_timeRow :
    (p.sheet page).printed { Style.plain page with align := .center } (timeRow o) =
      (clockRow p page o).map (.row (Style.plain page)) := by
  have hstyle : Style.afterAll { Style.plain page with align := .center } [.align .left] =
      Style.plain page := rfl
  have hcommand (st : Style) : (p.sheet page).printed st [.align .left] = [] := rfl
  rw [timeRow, clockRow, ← List.singleton_append, Sheet.printed_append, hcommand, hstyle,
    Receipt.printed_optionalRow, List.nil_append]

theorem printed_rule (st : Style) :
    (p.sheet page).printed st [.rule '='] = [.row st (ruleRow p 0x3D)] := by
  have hrule : RowsOnly [.rule '='] := rfl
  rw [Sheet.printed_rows _ st hrule, rows_rule]
  rfl

theorem printed_lineRows :
    (p.sheet page).printed (Style.plain page) (lineRows l) =
      dishOutputs p page l ++ [.row (Style.plain page) []] := by
  rw [lineRows, Receipt.quantityText_eq, dishOutputs, notesRow]
  cases l.printableNotes with
  | none => rfl
  | some n =>
    rw [Option.map_some, Option.map_some, Option.toList_some, Option.toList_some,
      ← Receipt.encodeChars_fitLeftChars]
    rfl

/-- **All that comes out of a printer for a kitchen copy.** -/
theorem printed_layout :
    (p.sheet page).printed (Style.plain page) (layout o) = outputs p page o := by
  have hclose : (p.sheet page).printed (Style.plain page) closing =
      footOutputs p page ++ Escpos.ending page := by
    rw [closing, ← List.singleton_append, Sheet.printed_append, printed_rule]
    rfl
  -- the heading is set apart; below it every part finds and leaves the plain style
  have sHead : (Style.plain page).afterAll (heading o) =
      { Style.plain page with align := .center } := afterAll_heading o _
  have sTime : Style.afterAll { Style.plain page with align := .center } (timeRow o) =
      Style.plain page := afterAll_timeRow o _
  have sRule : (Style.plain page).afterAll [.rule '='] = Style.plain page := rfl
  have sLine (l : Line) : (Style.plain page).afterAll (lineRows l) = Style.plain page :=
    afterAll_lineRows _ l
  simp only [layout, Sheet.printed_append, printed_heading, sHead, printed_timeRow,
    sTime, printed_rule, sRule, Sheet.printed_flatMap _ sLine, printed_lineRows,
    Style.afterAll_flatMap sLine, hclose, outputs, headOutputs, List.map_append, List.append_assoc]
  rfl

theorem bodyRows_headOutputs :
    bodyRows (headOutputs p page o) =
      (clockRow p page o ++ [ruleRow p 0x3D]).map (Style.plain page, ·) := by
  rw [headOutputs, Escpos.bodyRows_append, Escpos.bodyRows_map _ (Style.plain_inBody page)]
  simp [bodyRows, Output.row?, Style.InBody]

theorem bodyRows_dishOutputs :
    bodyRows (dishOutputs p page l) = (notesRow p page l).map (Style.plain page, ·) := by
  rw [dishOutputs, ← List.singleton_append, Escpos.bodyRows_append,
    Escpos.bodyRows_map _ (Style.plain_inBody page)]
  rfl

theorem bodyRows_footOutputs :
    bodyRows (footOutputs p page) = [(Style.plain page, ruleRow p 0x3D)] := rfl

/-- **Where the rows of a kitchen copy stand.** -/
structure Styled (out : List Output) : Prop where
  width : ∀ r ∈ bodyRows out, r.2 = [] ∨ r.2.length = p.columns
  display : displayRows out =
    [page.encode "KITCHEN ORDER", page.encode o.orderNumber, page.encode (placeText o)] ++
      o.lines.map (dishRow page) ++ [page.encode "*** KITCHEN COPY ***"]
  /-- In the body, no row is empty but the one below each dish and its notes, and the two before the
      cut. -/
  empty : ∃ head foot, out = head ++
      o.lines.flatMap (fun l => .row { Style.plain page with size := .tall, bold := true }
          (dishRow page l) :: (notesRow p page l).map (.row (Style.plain page)) ++
        [.row (Style.plain page) []]) ++ foot ++ Escpos.ending page ∧
    Gapless head ∧ Gapless foot ∧ ∀ l ∈ o.lines, [] ∉ notesRow p page l
  bold : ∀ r ∈ bodyRows out, r.1.bold = false

theorem displayRows_outputs :
    displayRows (outputs p page o) =
      [page.encode "KITCHEN ORDER", page.encode o.orderNumber, page.encode (placeText o)] ++
        o.lines.map (dishRow page) ++ [page.encode "*** KITCHEN COPY ***"] := by
  have hplain := Style.plain_inBody page
  have hdish (l : Line) : displayRows (dishOutputs p page l ++ [.row (Style.plain page) []]) =
      [dishRow page l] := by
    rw [dishOutputs, ← List.singleton_append, Escpos.displayRows_append, Escpos.displayRows_append,
      Escpos.displayRows_map _ hplain]
    rfl
  have hhead : displayRows (headOutputs p page o) =
      [page.encode "KITCHEN ORDER", page.encode o.orderNumber, page.encode (placeText o)] := by
    rw [headOutputs, Escpos.displayRows_append, Escpos.displayRows_map _ hplain]
    rfl
  have hfoot : displayRows (footOutputs p page) = [page.encode "*** KITCHEN COPY ***"] := rfl
  have hending : displayRows (Escpos.ending page) = [] := rfl
  rw [outputs, Escpos.displayRows_append, Escpos.displayRows_append, Escpos.displayRows_append,
    Escpos.displayRows_flatMap, hhead, hfoot, hending, List.append_nil]
  simp only [hdish, ← List.map_eq_flatMap]

theorem bodyRows_outputs :
    bodyRows (outputs p page o) =
      (clockRow p page o ++ [ruleRow p 0x3D] ++
        o.lines.flatMap (fun l => notesRow p page l ++ [[]]) ++
        [ruleRow p 0x3D, [], []]).map (Style.plain page, ·) := by
  have hgap : bodyRows [.row (Style.plain page) []] = [(Style.plain page, [])] := rfl
  simp only [outputs, Escpos.bodyRows_append, Escpos.bodyRows_flatMap, bodyRows_headOutputs,
    bodyRows_dishOutputs, hgap, bodyRows_footOutputs, Escpos.bodyRows_ending, List.map_append,
    List.map_flatMap, List.map_cons, List.map_nil, List.append_assoc, List.cons_append,
    List.nil_append]

theorem styled_outputs : Styled p page o (outputs p page o) := by
  have hrule := ruleRow_length p 0x3D
  have hnotes (l : Line) (r : Bytes) (hr : r ∈ notesRow p page l) : r.length = p.columns :=
    length_of_mem_optionalRow p page hr
  have hclock (r : Bytes) (hr : r ∈ clockRow p page o) : r.length = p.columns :=
    length_of_mem_optionalRow p page hr
  constructor
  case width =>
    intro r hr
    rw [bodyRows_outputs] at hr
    obtain ⟨bs, hbs, rfl⟩ := List.mem_map.mp hr
    simp only [List.mem_append, List.mem_flatMap, List.mem_cons, List.not_mem_nil, or_false] at hbs
    rcases hbs with ((h | rfl) | ⟨l, -, h | rfl⟩) | rfl | rfl | rfl
    · exact .inr (hclock bs h)
    · exact .inr hrule
    · exact .inr (hnotes l bs h)
    · exact .inl rfl
    · exact .inr hrule
    · exact .inl rfl
    · exact .inl rfl
  case display => exact displayRows_outputs p page o
  case empty =>
    refine ⟨headOutputs p page o, footOutputs p page, rfl, ?_, ?_, ?_⟩
    · intro r hr
      rw [bodyRows_headOutputs] at hr
      obtain ⟨bs, hbs, rfl⟩ := List.mem_map.mp hr
      rcases List.mem_append.mp hbs with h | h
      · exact ne_nil_of_length p (hclock bs h)
      · rw [List.mem_singleton.mp h]
        exact ne_nil_of_length p hrule
    · intro r hr
      rw [bodyRows_footOutputs] at hr
      rw [List.mem_singleton.mp hr]
      exact ne_nil_of_length p hrule
    · exact fun l _ h => ne_nil_of_length p (hnotes l [] h) rfl
  case bold =>
    intro r hr
    rw [bodyRows_outputs] at hr
    obtain ⟨bs, -, rfl⟩ := List.mem_map.mp hr
    rfl

end

end KitchenCopy

/-! ## 5. What comes out of a printer -/

/-- What any printer does with the stream of a job. -/
theorem Job.feed?_render (s : Settings) (j : Job) (m : Machine) :
    ∃ m', m.feed? (j.render s) = some (m', j.printed s) := by
  obtain ⟨m', h, -⟩ := Job.run_tokens s j m
  exact ⟨m', by rw [Job.render_eq_spell, m.feed?_spell (Job.plain_tokens s j), h]⟩

theorem Job.printed_receipt (s : Settings) (o : Ticket) (target : Option String)
    (width : Option UInt16) :
    Job.printed s ⟨.receipt o, target, width⟩ =
      Receipt.outputs ⟨width.getD s.paperWidth⟩ s.page s.texts o :=
  Receipt.printed_layout _ _ _ _

theorem Job.printed_kitchen (s : Settings) (o : Ticket) (target : Option String)
    (width : Option UInt16) :
    Job.printed s ⟨.kitchen o, target, width⟩ =
      KitchenCopy.outputs ⟨width.getD s.paperWidth⟩ s.page o :=
  KitchenCopy.printed_layout _ _ _

/-- **The rows of the body fill the paper.** On every receipt and every kitchen copy, whatever its
    texts and on whatever paper: each row at the left and of normal size is as wide as the paper or
    empty, and the rows that stand elsewhere or are larger, the empty ones and the bold ones are
    those that are meant to be. -/
theorem tickets_fill_width (s : Settings) (o : Ticket) (target : Option String)
    (width : Option UInt16) (m : Machine) :
    (∃ m' out, m.feed? (Job.render s ⟨.receipt o, target, width⟩) = some (m', out) ∧
      Receipt.Styled ⟨width.getD s.paperWidth⟩ s.page s.texts o out) ∧
    (∃ m' out, m.feed? (Job.render s ⟨.kitchen o, target, width⟩) = some (m', out) ∧
      KitchenCopy.Styled ⟨width.getD s.paperWidth⟩ s.page o out) := by
  constructor
  · obtain ⟨m', h⟩ := Job.feed?_render s ⟨.receipt o, target, width⟩ m
    rw [Job.printed_receipt] at h
    exact ⟨m', _, h, Receipt.styled_outputs _ _ _ _⟩
  · obtain ⟨m', h⟩ := Job.feed?_render s ⟨.kitchen o, target, width⟩ m
    rw [Job.printed_kitchen] at h
    exact ⟨m', _, h, KitchenCopy.styled_outputs _ _ _⟩

end ReceiptPrinting
