import ReceiptPrinting.Job
import ReceiptPrinting.Proofs.Escpos.Skeleton

/-!
# The shape of a ticket decides the commands of its stream

Names, notes, numbers, dates and amounts are text, and so are the texts of the house. What they hold
shows in a stream as text only: its commands and line feeds are those of the ticket's shape.

* `Ticket.Shape`: which rows a ticket has, and nothing of what stands in them;
* `Receipt.frame`, `KitchenCopy.frame`: the commands and line feeds of a shape;
* `skeleton_receipt`, `skeleton_kitchenCopy`: a layout has those of its ticket's shape;
* **`render_same_skeleton`**: two jobs of one kind and shape, in one code page, differ in text only.
-/

namespace ReceiptPrinting

open Escpos (Instruction Token Framed read? skeleton)

/-! ## 1. Shapes -/

/-- Which rows a ticket has. -/
structure Ticket.Shape where
  takeAway : Bool
  /-- Is there a time to print? -/
  dated : Bool
  /-- For each line, whether there are notes to print. -/
  noted : List Bool
  /-- For a payment, whether there is change to print. -/
  change : Option Bool
deriving DecidableEq, Repr

def Ticket.shape (o : Ticket) : Ticket.Shape where
  takeAway := o.isTakeAway
  dated := (Text.printable o.createdAt).isSome
  noted := o.lines.map fun l => l.printableNotes.isSome
  change := o.payment.map fun p => p.change.isPositive

section

variable (o : Ticket)

theorem shape_takeAway : o.shape.takeAway = o.isTakeAway := rfl

theorem shape_dated : o.shape.dated = (Text.printable o.createdAt).isSome := by
  rw [Ticket.shape]

theorem shape_noted : o.shape.noted = o.lines.map fun l => l.printableNotes.isSome := rfl

theorem shape_change : o.shape.change = o.payment.map fun p => p.change.isPositive := rfl

end

/-- A row that may be left out. -/
def rowIf (b : Bool) : List Token := if b then [.feed] else []

/-- A row for what may be absent is there exactly if it is not. -/
theorem skeleton_optionalRow {α : Type} (x : Option α) (f : α → String) :
    ((x.map fun a => Instruction.fixed (f a)).toList).flatMap Instruction.skeleton =
      rowIf x.isSome := by
  cases x <;> rfl

/-- A time that is no time is printed as it is written, so that it is the text that decides. -/
theorem stamp_isSome (s : String) : (Stamp.ofText? s).isSome = (Text.printable s).isSome := by
  rw [Stamp.ofText?, Option.isSome_map]

/-! ## 2. Receipts -/

namespace Receipt

/-- The commands and line feeds of a receipt, after the opening. -/
def frame (s : Ticket.Shape) : List Token :=
  List.flatten [
    [.command (.align .center), .command (.bold true), .command (.size .double), .feed,
      .command (.size .normal), .command (.bold false), .feed],
    [.command (.align .left), .command (.bold true), .feed, .command (.bold false), .feed],
    rowIf s.dated,
    [.feed, .feed, .feed],
    s.noted.flatMap fun n => .feed :: rowIf n,
    [.feed],
    [.command (.align .right), .command (.bold true), .command (.size .tall), .feed,
      .command (.size .normal), .command (.bold false), .command (.align .left)],
    (s.change.map fun c => .feed :: .feed :: rowIf c).getD [],
    [.command (.align .center), .feed, .command (.align .left), .feed, .feed, .command .cut]]

variable (p : Paper) (t : ReceiptTexts) (o : Ticket)

theorem skeleton_heading :
    (heading t).flatMap Instruction.skeleton =
      [.command (.align .center), .command (.bold true), .command (.size .double), .feed,
        .command (.size .normal), .command (.bold false), .feed] := rfl

theorem skeleton_totalRow :
    (totalRow t o).flatMap Instruction.skeleton =
      [.command (.align .right), .command (.bold true), .command (.size .tall), .feed,
        .command (.size .normal), .command (.bold false), .command (.align .left)] := rfl

theorem skeleton_closing :
    (closing t).flatMap Instruction.skeleton =
      [.command (.align .center), .feed, .command (.align .left), .feed, .feed, .command .cut] :=
  rfl

theorem skeleton_lineRows (l : Line) :
    (lineRows p l).flatMap Instruction.skeleton = .feed :: rowIf l.printableNotes.isSome := by
  rw [lineRows, List.flatMap_cons, skeleton_optionalRow]
  rfl

theorem skeleton_orderRows :
    (orderRows o).flatMap Instruction.skeleton =
      ([.command (.align .left), .command (.bold true), .feed, .command (.bold false),
        .feed] : List Token) ++ rowIf o.shape.dated := by
  rw [orderRows, List.flatMap_append, skeleton_optionalRow, stamp_isSome, shape_dated]
  simp only [List.flatMap_cons, List.flatMap_nil, Instruction.skeleton, List.cons_append,
    List.nil_append]

theorem skeleton_itemTable :
    (itemTable p o).flatMap Instruction.skeleton =
      ([.feed, .feed, .feed] : List Token) ++
        o.shape.noted.flatMap (fun n => .feed :: rowIf n) ++ ([.feed] : List Token) := by
  rw [itemTable, List.flatMap_append, List.flatMap_append, List.flatMap_assoc, shape_noted,
    List.flatMap_map]
  simp only [skeleton_lineRows]
  rfl

theorem skeleton_paymentRows (x : Payment) :
    (paymentRows t x).flatMap Instruction.skeleton =
      .feed :: .feed :: rowIf x.change.isPositive := by
  rw [paymentRows, List.flatMap_append, rowIf]
  split <;> rfl

/-- **The commands and line feeds of a receipt are those of its ticket's shape**, whatever the paper
    and the texts of the house. -/
theorem skeleton_receipt : (layout p t o).flatMap Instruction.skeleton = frame o.shape := by
  have hpay : ((o.payment.map (paymentRows t)).getD []).flatMap Instruction.skeleton =
      (o.shape.change.map fun c => .feed :: .feed :: rowIf c).getD [] := by
    rw [shape_change]
    cases o.payment with
    | none => rfl
    | some x => exact skeleton_paymentRows t x
  simp only [layout, frame, List.flatMap_append, skeleton_heading, skeleton_orderRows,
    skeleton_itemTable, skeleton_totalRow, hpay, skeleton_closing, List.flatten_cons,
    List.flatten_nil, List.append_nil, List.append_assoc]

/-- A receipt is cut at its end, and not before. -/
theorem layout_cut : ∃ is, layout p t o = is ++ [Instruction.cut] ∧ .cut ∉ is := by
  let last : List Instruction := [.align .center, .line t.footer, .align .left, .feed, .feed]
  have hc : closing t = last ++ [.cut] := rfl
  refine ⟨heading t ++ orderRows o ++ itemTable p o ++ totalRow t o ++
    (o.payment.map (paymentRows t)).getD [] ++ last, ?_, ?_⟩
  · rw [layout, hc, ← List.append_assoc]
  · have hline (l : Line) : .cut ∉ lineRows p l := by simp [lineRows]
    have hpay : .cut ∉ (o.payment.map (paymentRows t)).getD [] := by
      cases o.payment with
      | none => exact nofun
      | some x =>
        simp only [Option.map_some, Option.getD_some, paymentRows]
        split <;> simp
    simp only [List.mem_append, not_or]
    refine ⟨⟨⟨⟨⟨?_, ?_⟩, ?_⟩, ?_⟩, hpay⟩, ?_⟩
    · simp [heading]
    · simp [orderRows]
    · simp [itemTable, hline]
    · simp [totalRow]
    · simp [last]

end Receipt

/-! ## 3. Kitchen copies -/

namespace KitchenCopy

/-- The commands and line feeds of one line of the order, which may have notes. -/
def lineFrame (noted : Bool) : List Token :=
  List.flatten [
    [.command (.bold true), .command (.size .tall), .feed, .command (.size .normal),
      .command (.bold false)],
    rowIf noted,
    [.feed]]

/-- The commands and line feeds of a kitchen copy, after the opening. -/
def frame (s : Ticket.Shape) : List Token :=
  List.flatten [
    [.command (.align .center), .command (.bold true), .command (.size .double), .feed, .feed,
      .command (.size .normal), .command (.size (if s.takeAway then .double else .tall)), .feed,
      .command (.size .normal), .command (.bold false)],
    .command (.align .left) :: rowIf s.dated,
    [.feed],
    s.noted.flatMap lineFrame,
    [.feed, .command (.align .center), .feed, .command (.align .left), .feed, .feed,
      .command .cut]]

variable (o : Ticket)

theorem skeleton_heading :
    (heading o).flatMap Instruction.skeleton =
      [.command (.align .center), .command (.bold true), .command (.size .double), .feed, .feed,
        .command (.size .normal),
        .command (.size (if o.shape.takeAway then .double else .tall)), .feed,
        .command (.size .normal), .command (.bold false)] := by
  rw [heading, shape_takeAway]
  cases o.isTakeAway <;> rfl

theorem skeleton_closing :
    closing.flatMap Instruction.skeleton =
      [.feed, .command (.align .center), .feed, .command (.align .left), .feed, .feed,
        .command .cut] := rfl

theorem skeleton_timeRow :
    (timeRow o).flatMap Instruction.skeleton = .command (.align .left) :: rowIf o.shape.dated := by
  rw [timeRow, List.flatMap_cons, skeleton_optionalRow, stamp_isSome, shape_dated,
    Instruction.skeleton, List.singleton_append]

theorem skeleton_lineRows (l : Line) :
    (lineRows l).flatMap Instruction.skeleton = lineFrame l.printableNotes.isSome := by
  rw [lineRows, List.flatMap_append, List.flatMap_append, skeleton_optionalRow, lineFrame,
    List.append_assoc]
  rfl

/-- **The commands and line feeds of a kitchen copy are those of its ticket's shape.** -/
theorem skeleton_kitchenCopy : (layout o).flatMap Instruction.skeleton = frame o.shape := by
  have hlines : (o.lines.flatMap lineRows).flatMap Instruction.skeleton =
      o.shape.noted.flatMap lineFrame := by
    rw [List.flatMap_assoc, shape_noted, List.flatMap_map]
    simp only [skeleton_lineRows]
  have hrule : [Instruction.rule '='].flatMap Instruction.skeleton = [.feed] := rfl
  simp only [layout, frame, List.flatMap_append, skeleton_heading, skeleton_timeRow, hrule, hlines,
    skeleton_closing, List.flatten_cons, List.flatten_nil, List.append_nil, List.append_assoc]

/-- A kitchen copy is cut at its end, and not before. -/
theorem layout_cut : ∃ is, layout o = is ++ [Instruction.cut] ∧ .cut ∉ is := by
  let last : List Instruction :=
    [.rule '=', .align .center, .line "*** KITCHEN COPY ***", .align .left, .feed, .feed]
  have hc : closing = last ++ [.cut] := rfl
  refine ⟨heading o ++ timeRow o ++ [.rule '='] ++ o.lines.flatMap lineRows ++ last, ?_, ?_⟩
  · rw [layout, hc, ← List.append_assoc]
  · have hline (l : Line) : .cut ∉ lineRows l := by simp [lineRows]
    have hhead : .cut ∉ heading o := by
      rw [heading]
      cases o.isTakeAway <;> simp
    simp only [List.mem_append, not_or]
    refine ⟨⟨⟨⟨hhead, ?_⟩, ?_⟩, ?_⟩, ?_⟩
    · simp [timeRow]
    · simp
    · simp [hline]
    · simp [last]

end KitchenCopy

/-! ## 4. Jobs -/

/-- Two contents that print tickets of one shape, in the same way. -/
inductive Content.SameShape : Content → Content → Prop where
  | receipt (o₁ o₂ : Ticket) (h : o₁.shape = o₂.shape) : SameShape (.receipt o₁) (.receipt o₂)
  | kitchen (o₁ o₂ : Ticket) (h : o₁.shape = o₂.shape) : SameShape (.kitchen o₁) (.kitchen o₂)

namespace Job

theorem render_of_layout {s : Settings} {j : Job} {is : List Instruction}
    (h : layout s (j.paper s) j.content = some is) :
    j.render s = ((j.paper s).sheet s.page).print is := by
  rw [render, h]

/-- The stream of a job in a code page, with its text erased. -/
theorem skeleton_render {s : Settings} {j : Job} {is : List Instruction}
    (h : layout s (j.paper s) j.content = some is) :
    ∃ ts, read? (j.render s) = some ts ∧
      skeleton ts = [.command .reset, .command (.page s.page.table)] ++
        is.flatMap Instruction.skeleton := by
  rw [render_of_layout h]
  exact ⟨_, Escpos.Sheet.read?_print _ is, Escpos.skeleton_tokens _ is⟩

/-- A ticket is printed in one stream that is reset at its start and cut at its end only. -/
theorem framed_render {s : Settings} {j : Job} {o : Ticket} (h : j.content.ticket? = some o) :
    Framed (j.render s) := by
  have hcut : ∃ is, layout s (j.paper s) j.content = some (is ++ [.cut]) ∧ .cut ∉ is := by
    cases hc : j.content with
    | receipt o =>
      obtain ⟨is, hl, hn⟩ := Receipt.layout_cut (j.paper s) s.texts o
      exact ⟨is, congrArg some hl, hn⟩
    | kitchen o =>
      obtain ⟨is, hl, hn⟩ := KitchenCopy.layout_cut o
      exact ⟨is, congrArg some hl, hn⟩
    | test | drawer =>
      rw [hc] at h
      cases h
  obtain ⟨is, hl, hn⟩ := hcut
  rw [render_of_layout hl]
  exact Escpos.framed_print _ hn

/-- **No text adds a command or a line feed.** Two jobs that print tickets of one shape in one code
    page give streams that differ in their text only, whatever the texts, the paper and the texts of
    the house are; and each is reset once, at its start, and cut once, at its end. -/
theorem render_same_skeleton {s₁ s₂ : Settings} {j₁ j₂ : Job} (hp : s₁.page = s₂.page)
    (h : j₁.content.SameShape j₂.content) :
    (∃ ts₁ ts₂, read? (j₁.render s₁) = some ts₁ ∧ read? (j₂.render s₂) = some ts₂ ∧
      skeleton ts₁ = skeleton ts₂) ∧
    Framed (j₁.render s₁) ∧ Framed (j₂.render s₂) := by
  generalize hc₁ : j₁.content = c₁ at h
  generalize hc₂ : j₂.content = c₂ at h
  have same {is₁ is₂ : List Instruction} (h₁ : layout s₁ (j₁.paper s₁) j₁.content = some is₁)
      (h₂ : layout s₂ (j₂.paper s₂) j₂.content = some is₂)
      (hs : is₁.flatMap Instruction.skeleton = is₂.flatMap Instruction.skeleton) :
      ∃ ts₁ ts₂, read? (j₁.render s₁) = some ts₁ ∧ read? (j₂.render s₂) = some ts₂ ∧
        skeleton ts₁ = skeleton ts₂ := by
    obtain ⟨ts₁, hr₁, hk₁⟩ := skeleton_render h₁
    obtain ⟨ts₂, hr₂, hk₂⟩ := skeleton_render h₂
    exact ⟨ts₁, ts₂, hr₁, hr₂, by rw [hk₁, hk₂, hp, hs]⟩
  cases h with
  | receipt o₁ o₂ ho =>
    have h₁ : j₁.content.ticket? = some o₁ := by rw [hc₁]; rfl
    have h₂ : j₂.content.ticket? = some o₂ := by rw [hc₂]; rfl
    refine ⟨same (congrArg _ hc₁) (congrArg _ hc₂) ?_, framed_render h₁, framed_render h₂⟩
    rw [Receipt.skeleton_receipt, Receipt.skeleton_receipt, ho]
  | kitchen o₁ o₂ ho =>
    have h₁ : j₁.content.ticket? = some o₁ := by rw [hc₁]; rfl
    have h₂ : j₂.content.ticket? = some o₂ := by rw [hc₂]; rfl
    refine ⟨same (congrArg _ hc₁) (congrArg _ hc₂) ?_, framed_render h₁, framed_render h₂⟩
    rw [KitchenCopy.skeleton_kitchenCopy, KitchenCopy.skeleton_kitchenCopy, ho]

/-- A ticket as a till would send it. -/
def honestTicket : Ticket where
  orderNumber := "17"
  tableNumber := "4"
  isTakeAway := false
  createdAt := "2024-03-05T18:42:00Z"
  total := .zero
  lines := [⟨"Soup", 2, .zero, .zero, none⟩, ⟨"Tea", 1, .zero, .zero, some "no sugar"⟩]
  payment := some ⟨"Cash", .zero, .zero⟩

/-- A ticket of the same shape whose texts spell commands and line feeds. -/
def hostileTicket : Ticket where
  orderNumber := "\x1b@"
  tableNumber := "\n\n\x1dV\x01"
  isTakeAway := false
  createdAt := "\x1bp\x00\x19\xfa"
  total := .zero
  lines := [⟨"\x1dV\x01", 1, .zero, .zero, some "\n"⟩,
    ⟨"\x1b@\n", 1, .zero, .zero, some "\x1bE\x01"⟩]
  payment := some ⟨"\x1d!\x11", .zero, .zero⟩

theorem render_same_skeleton_hostileTicket :
    let s : Settings := { Settings.standard with
      paperWidth := 58
      texts := ⟨"\x1b@", "\n", "\x1dV\x01", "\x1b"⟩ }
    let j₁ : Job := ⟨.receipt honestTicket, none, none⟩
    let j₂ : Job := ⟨.receipt hostileTicket, none, some 80⟩
    honestTicket.shape = hostileTicket.shape ∧
    (∃ ts₁ ts₂, read? (j₁.render .standard) = some ts₁ ∧ read? (j₂.render s) = some ts₂ ∧
      skeleton ts₁ = skeleton ts₂) ∧
    Framed (j₁.render .standard) ∧ Framed (j₂.render s) := by
  have hs : honestTicket.shape = hostileTicket.shape := by decide +kernel
  exact ⟨hs, render_same_skeleton rfl (.receipt _ _ hs)⟩

end Job

end ReceiptPrinting
