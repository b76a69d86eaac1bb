import ReceiptPrinting.Escpos.Machine
import ReceiptPrinting.Proofs.Escpos.Rows

/-!
# The styles of a layout

What a printer does with the stream of a layout can be told from the instructions: each row comes
out in the style that the instructions before it have set. Where the printer was before does not
matter, for every stream of a layout starts with a reset.

* `Style.after`, `Style.afterAll`: the style after instructions;
* `Sheet.printed`: what instructions print, beginning in a style;
* **`run_tokens`**: what any printer does with a layout;
* `Machine.feed?`: what a printer does with bytes.
-/

namespace ReceiptPrinting.Escpos

/-! ## 1. Instructions and styles -/

/-- The style after an instruction. -/
def Style.after (st : Style) : Instruction → Style
  | .align a => { st with align := a }
  | .bold on => { st with bold := on }
  | .size z => { st with size := z }
  | .text _ | .line _ | .feed | .rule _ | .fixed _ | .ends _ _ | .cut => st

/-- The style after instructions, one after another. -/
def Style.afterAll (st : Style) (is : List Instruction) : Style := is.foldl Style.after st

/-- Does the instruction print a row? -/
def Instruction.isRow : Instruction → Bool
  | line _ | feed | rule _ | fixed _ | ends _ _ => true
  | text _ | align _ | bold _ | size _ | cut => false

/-- The layout holds rows and no command. -/
def RowsOnly (is : List Instruction) : Prop := is.all Instruction.isRow = true

theorem rowsOnly_append {is js : List Instruction} :
    RowsOnly (is ++ js) ↔ RowsOnly is ∧ RowsOnly js := by
  simp [RowsOnly]

theorem rowsOnly_cons {i : Instruction} {is : List Instruction} :
    RowsOnly (i :: is) ↔ i.isRow = true ∧ RowsOnly is := by
  simp [RowsOnly]

theorem rowsOnly_flatMap {α : Type} {f : α → List Instruction} (h : ∀ a, RowsOnly (f a))
    (as : List α) : RowsOnly (as.flatMap f) := by
  induction as with
  | nil => rfl
  | cons a as ih =>
    rw [List.flatMap_cons, rowsOnly_append]
    exact ⟨h a, ih⟩

namespace Style

theorem afterAll_append (st : Style) (is js : List Instruction) :
    st.afterAll (is ++ js) = (st.afterAll is).afterAll js := List.foldl_append

/-- Parts that keep a style keep it together. -/
theorem afterAll_flatMap {α : Type} {st : Style} {f : α → List Instruction}
    (h : ∀ a, st.afterAll (f a) = st) (as : List α) : st.afterAll (as.flatMap f) = st := by
  induction as with
  | nil => rfl
  | cons a as ih => rw [List.flatMap_cons, afterAll_append, h, ih]

end Style

/-! ## 2. What a layout prints -/

namespace Sheet

variable (s : Sheet)

/-- What an instruction prints in a style, if nothing was on the row before. -/
def outputs (st : Style) (i : Instruction) : List Output :=
  match i.row? s.width with
  | some cs => [.row st (s.page.encodeChars cs)]
  | none => if i = .cut then [.cut] else []

/-- What instructions print one after another, beginning in a style. -/
def printed (st : Style) : List Instruction → List Output
  | [] => []
  | i :: is => s.outputs st i ++ printed (st.after i) is

/-- The style after the opening: that of a reset printer, with the code page of the sheet. -/
def openingStyle : Style := { Style.initial with page := some s.page.table }

theorem printed_append (st : Style) (is js : List Instruction) :
    s.printed st (is ++ js) = s.printed st is ++ s.printed (st.afterAll is) js := by
  induction is generalizing st with
  | nil => rfl
  | cons i is ih =>
    rw [List.cons_append, printed, ih, printed, List.append_assoc]
    rfl

/-- Parts that keep a style print what each prints in it. -/
theorem printed_flatMap {α : Type} {st : Style} {f : α → List Instruction}
    (h : ∀ a, st.afterAll (f a) = st) (as : List α) :
    s.printed st (as.flatMap f) = as.flatMap fun a => s.printed st (f a) := by
  induction as with
  | nil => rfl
  | cons a as ih => rw [List.flatMap_cons, printed_append, h, ih, List.flatMap_cons]

/-- Rows without a command among them are printed in one style. -/
theorem printed_rows (st : Style) {is : List Instruction} (h : RowsOnly is) :
    s.printed st is = (s.rows is).map (.row st) := by
  induction is with
  | nil => rfl
  | cons i is ih =>
    obtain ⟨hi, his⟩ := rowsOnly_cons.mp h
    have hcons : s.printed st (i :: is) = s.outputs st i ++ s.printed (st.after i) is := rfl
    rw [hcons, ← List.singleton_append, rows_append, List.map_append]
    cases i with
    | line | feed | rule | fixed | ends => exact congrArg _ (ih his)
    | text | align | bold | size | cut => cases hi

theorem run_row (st : Style) (cs : List Char) :
    Machine.run ⟨st, []⟩ (glyphs s.page cs ++ [.feed]) =
      (⟨st, []⟩, [.row st (s.page.encodeChars cs)]) := by
  rw [Machine.run_append, glyphs, Machine.run_glyphs]
  rfl

/-- What a printer does with an instruction, if nothing is on the row. -/
theorem run_tokensOf (st : Style) {i : Instruction} (hi : i.isWhole = true) :
    Machine.run ⟨st, []⟩ (s.tokensOf i) = (⟨st.after i, []⟩, s.outputs st i) := by
  cases i with
  | text x => cases hi
  | line x | rule c | fixed x | ends l r => exact run_row s st _
  | feed | align a | bold on | size z | cut => rfl

theorem run_instructions (st : Style) {is : List Instruction} (h : Whole is) :
    Machine.run ⟨st, []⟩ (is.flatMap s.tokensOf) = (⟨st.afterAll is, []⟩, s.printed st is) := by
  induction is generalizing st with
  | nil => rfl
  | cons i is ih =>
    obtain ⟨hi, his⟩ := whole_cons.mp h
    rw [List.flatMap_cons, Machine.run_append, run_tokensOf s st hi, ih (st.after i) his]
    rfl

/-- **What a printer does with a layout** does not depend on what it has done before. -/
theorem run_tokens (m : Machine) {is : List Instruction} (h : Whole is) :
    m.run (s.tokens is) = (⟨s.openingStyle.afterAll is, []⟩, s.printed s.openingStyle is) := by
  have hopen : m.run s.opening = (⟨s.openingStyle, []⟩, []) := rfl
  rw [tokens, Machine.run_append, hopen, run_instructions s _ h]
  rfl

end Sheet

/-! ## 3. Bytes -/

namespace Machine

/-- What a printer does with bytes, if they are whole tokens: the printer after them, and what came
    out. -/
def feed? (m : Machine) (bs : Bytes) : Option (Machine × List Output) := (read? bs).map m.run

theorem feed?_spell (m : Machine) {ts : List Token} (h : ∀ t ∈ ts, t.Plain) :
    m.feed? (spell ts) = some (m.run ts) := by
  rw [feed?, read?_spell h]
  rfl

/-- Nothing is on the row, and the style is plain. -/
def IsReady (m : Machine) : Prop := m.pending = [] ∧ m.style.IsPlain

theorem isReady_initial : initial.IsReady := ⟨rfl, rfl, rfl, rfl⟩

end Machine

end ReceiptPrinting.Escpos
