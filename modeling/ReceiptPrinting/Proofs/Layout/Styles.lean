import ReceiptPrinting.Proofs.Escpos.Styles
import ReceiptPrinting.Proofs.Layout.Receipt

/-!
# Jobs do not show in one another

Each layout leaves the printer as it should find it: every style that is switched on for a row is
switched off again, and every text stands on a row that is printed. So jobs may follow one another
in any order, and each prints what it prints on a printer that has just been reset; a drawer too,
whose stream has no reset of its own.

* `Receipt.afterAll_layout`, `KitchenCopy.afterAll_layout`, `TestPage.afterAll_layout`: the style
  that a layout leaves behind is plain, whatever the style before it was;
* `Job.run_tokens`: what any printer does with a job;
* **`renders_keep_apart`**: streams of jobs one after another.
-/

namespace ReceiptPrinting

open Escpos (Instruction Token Style Machine Output Whole whole_append whole_flatMap spell)

/-! ## 1. The styles that layouts leave behind -/

namespace Receipt

variable (p : Paper) (t : ReceiptTexts) (o : Ticket) (st : Style)

theorem afterAll_heading : st.afterAll (heading t) = ⟨.center, .normal, false, st.page⟩ := rfl

theorem afterAll_orderRows :
    st.afterAll (orderRows o) = { st with align := .left, bold := false } := by
  rw [orderRows]
  cases Stamp.ofText? o.createdAt <;> rfl

theorem afterAll_lineRows (l : Line) : st.afterAll (lineRows p l) = st := by
  rw [lineRows]
  cases l.printableNotes <;> rfl

theorem afterAll_itemTable : st.afterAll (itemTable p o) = st := by
  rw [itemTable, Style.afterAll_append, Style.afterAll_append,
    Style.afterAll_flatMap (afterAll_lineRows p _)]
  rfl

theorem afterAll_totalRow :
    st.afterAll (totalRow t o) = ⟨.left, .normal, false, st.page⟩ := rfl

theorem afterAll_paymentRows :
    st.afterAll ((o.payment.map (paymentRows t)).getD []) = st := by
  cases o.payment with
  | none => rfl
  | some x =>
    rw [Option.map_some, Option.getD_some, paymentRows]
    split <;> rfl

theorem afterAll_closing : st.afterAll (closing t) = { st with align := .left } := rfl

/-- **A receipt leaves the plain style behind.** -/
theorem afterAll_layout : st.afterAll (layout p t o) = ⟨.left, .normal, false, st.page⟩ := by
  simp only [layout, Style.afterAll_append, afterAll_heading, afterAll_orderRows,
    afterAll_itemTable, afterAll_totalRow, afterAll_paymentRows, afterAll_closing]

end Receipt

namespace KitchenCopy

variable (o : Ticket) (st : Style)

theorem afterAll_heading : st.afterAll (heading o) = ⟨.center, .normal, false, st.page⟩ := by
  rw [heading]
  split <;> rfl

theorem afterAll_timeRow : st.afterAll (timeRow o) = { st with align := .left } := by
  rw [timeRow]
  cases Stamp.ofText? o.createdAt <;> rfl

/-- The large characters of a line end with it. -/
theorem afterAll_lineRows (l : Line) :
    st.afterAll (lineRows l) = { st with size := .normal, bold := false } := by
  rw [lineRows]
  cases l.printableNotes <;> rfl

theorem afterAll_closing : st.afterAll closing = { st with align := .left } := rfl

/-- **A kitchen copy leaves the plain style behind.** -/
theorem afterAll_layout : st.afterAll (layout o) = ⟨.left, .normal, false, st.page⟩ := by
  have hrule (st : Style) : st.afterAll [.rule '='] = st := rfl
  -- the first line already finds the plain style, so that it is kept by every line
  have hlines : Style.afterAll ⟨.left, .normal, false, st.page⟩ (o.lines.flatMap lineRows) =
      ⟨.left, .normal, false, st.page⟩ := Style.afterAll_flatMap (afterAll_lineRows _) _
  simp only [layout, Style.afterAll_append, afterAll_heading, afterAll_timeRow, hrule, hlines,
    afterAll_closing]

/-- Every text of a kitchen copy stands on a row that is printed. -/
theorem whole_layout : Whole (layout o) := by
  have hhead : Whole (heading o) := by
    rw [heading]
    split <;> rfl
  have htime : Whole (timeRow o) := by
    rw [timeRow]
    cases Stamp.ofText? o.createdAt <;> rfl
  have hline (l : Line) : Whole (lineRows l) := by
    rw [lineRows]
    cases l.printableNotes <;> rfl
  simp only [layout, whole_append]
  exact ⟨⟨⟨⟨hhead, htime⟩, rfl⟩, whole_flatMap hline _⟩, rfl⟩

end KitchenCopy

namespace TestPage

/-- **A test page leaves the plain style behind.** -/
theorem afterAll_layout (p : Paper) (page : CodePage) (st : Style) :
    st.afterAll (layout p page) = ⟨.left, .normal, false, st.page⟩ := rfl

theorem whole_layout (p : Paper) (page : CodePage) : Whole (layout p page) := rfl

end TestPage

/-! ## 2. Jobs -/

namespace Job

variable (s : Settings) (j : Job)

/-- The tokens of a job. -/
def tokens : List Token :=
  match layout s (j.paper s) j.content with
  | some is => ((j.paper s).sheet s.page).tokens is
  | none => [.command .pulse]

/-- What a job prints: each row in the style that its own layout has set. -/
def printed : List Output :=
  match layout s (j.paper s) j.content with
  | some is =>
    ((j.paper s).sheet s.page).printed ((j.paper s).sheet s.page).openingStyle is
  | none => [.pulse]

theorem render_eq_spell : j.render s = spell (j.tokens s) := by
  cases h : layout s (j.paper s) j.content with
  | none =>
    rw [render, tokens, h]
    rfl
  | some is =>
    rw [render_of_layout h, tokens, h]
    rfl

theorem plain_tokens : ∀ t ∈ j.tokens s, t.Plain := by
  unfold tokens
  cases layout s (j.paper s) j.content with
  | none =>
    intro t ht
    rw [List.mem_singleton.mp ht]
    exact trivial
  | some is => exact Escpos.Sheet.plain_tokens _ is

/-- A layout leaves nothing on a row, and the plain style. -/
theorem clean_layout {p : Paper} {c : Content} {is : List Instruction}
    (h : layout s p c = some is) : Whole is ∧ ∀ st : Style, (st.afterAll is).IsPlain := by
  cases c with
  | receipt o =>
    cases h
    exact ⟨Receipt.whole_layout p s.texts o,
      fun st => by rw [Receipt.afterAll_layout]; exact ⟨rfl, rfl, rfl⟩⟩
  | kitchen o =>
    cases h
    exact ⟨KitchenCopy.whole_layout o,
      fun st => by rw [KitchenCopy.afterAll_layout]; exact ⟨rfl, rfl, rfl⟩⟩
  | test =>
    cases h
    exact ⟨TestPage.whole_layout p s.page,
      fun st => by rw [TestPage.afterAll_layout]; exact ⟨rfl, rfl, rfl⟩⟩
  | drawer => cases h

/-- **What a printer does with a job**: what comes out does not depend on the printer, and a printer
    that is ready is ready again. -/
theorem run_tokens (m : Machine) :
    ∃ m', m.run (j.tokens s) = (m', j.printed s) ∧ (m.IsReady → m'.IsReady) := by
  unfold tokens printed
  cases h : layout s (j.paper s) j.content with
  | none => exact ⟨m, rfl, id⟩
  | some is =>
    obtain ⟨hw, hp⟩ := clean_layout s h
    exact ⟨_, Escpos.Sheet.run_tokens _ m hw, fun _ => ⟨rfl, hp _⟩⟩

end Job

/-! ## 3. Jobs one after another -/

/-- The tokens of jobs, each with the settings it is printed under. -/
def tokensOfJobs (js : List (Settings × Job)) : List Token := js.flatMap fun x => x.2.tokens x.1

theorem tokensOfJobs_cons (x : Settings × Job) (js : List (Settings × Job)) :
    tokensOfJobs (x :: js) = x.2.tokens x.1 ++ tokensOfJobs js := List.flatMap_cons

theorem run_tokensOfJobs (m : Machine) (js : List (Settings × Job)) :
    ∃ m', m.run (tokensOfJobs js) = (m', js.flatMap fun x => x.2.printed x.1) ∧
      (m.IsReady → m'.IsReady) := by
  induction js generalizing m with
  | nil => exact ⟨m, rfl, id⟩
  | cons x js ih =>
    obtain ⟨m₁, h₁, r₁⟩ := Job.run_tokens x.1 x.2 m
    obtain ⟨m₂, h₂, r₂⟩ := ih m₁
    refine ⟨m₂, ?_, fun h => r₂ (r₁ h)⟩
    rw [tokensOfJobs_cons, Machine.run_append, h₁, h₂, List.flatMap_cons]

theorem feed?_renders (m : Machine) (js : List (Settings × Job)) :
    m.feed? (js.flatMap fun x => x.2.render x.1) = some (m.run (tokensOfJobs js)) := by
  have hspell : (js.flatMap fun x => x.2.render x.1) = spell (tokensOfJobs js) := by
    rw [tokensOfJobs, spell, List.flatMap_assoc]
    simp only [Job.render_eq_spell]
    rfl
  rw [hspell]
  refine m.feed?_spell fun t ht => ?_
  obtain ⟨x, -, hx⟩ := List.mem_flatMap.mp ht
  exact Job.plain_tokens x.1 x.2 t hx

/-- **Jobs do not show in one another.** Each stream alone is read to its end, and leaves a printer
    that was reset ready for the next. What streams print one after another, on whatever printer, is
    what each prints alone, one after another. -/
theorem renders_keep_apart (js : List (Settings × Job)) (m : Machine) :
    (∀ x ∈ js, ∃ m', Machine.initial.feed? (x.2.render x.1) = some (m', x.2.printed x.1) ∧
      m'.pending = [] ∧ m'.style.IsPlain) ∧
    ∃ m', m.feed? (js.flatMap fun x => x.2.render x.1) =
        some (m', js.flatMap fun x => x.2.printed x.1) ∧ (m.IsReady → m'.IsReady) := by
  constructor
  · intro x _
    obtain ⟨m', h, hr⟩ := Job.run_tokens x.1 x.2 .initial
    refine ⟨m', ?_, hr Machine.isReady_initial⟩
    rw [Job.render_eq_spell, Machine.feed?_spell _ (Job.plain_tokens x.1 x.2), h]
  · obtain ⟨m', h, hr⟩ := run_tokensOfJobs m js
    exact ⟨m', by rw [feed?_renders, h], hr⟩

end ReceiptPrinting
