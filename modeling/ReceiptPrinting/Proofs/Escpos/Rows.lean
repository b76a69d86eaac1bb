import ReceiptPrinting.Proofs.Escpos.Skeleton

/-!
# The rows of a stream

Without its commands, a stream is text, and a line feed ends each row of it. The rows of a layout
are those of its instructions, in their order: no text that stands in a row can end it, or begin a
command that hides what follows.

* `text?`: a stream without its commands;
* `Instruction.row?`: the row that an instruction prints, if it prints one;
* `Instruction.Whole`: an instruction that leaves nothing on a row that is not printed;
* **`splitOn_text_print`**: the text of a layout, taken apart at its line feeds, is the rows of its
  instructions, and nothing follows the last line feed.
-/

namespace ReceiptPrinting.Escpos

/-! ## 1. The text of a stream -/

/-- A token without the commands, in bytes. -/
def Token.text : Token → Bytes
  | command _ => []
  | glyph b => [b]
  | feed => [0x0A]

/-- Tokens without the commands, in bytes. -/
def textOf (ts : List Token) : Bytes := ts.flatMap Token.text

/-- A stream without its commands, if it is made of whole tokens. -/
def text? (bs : Bytes) : Option Bytes := (read? bs).map textOf

@[simp] theorem textOf_append (a b : List Token) : textOf (a ++ b) = textOf a ++ textOf b :=
  List.flatMap_append

@[simp] theorem textOf_glyphs (p : CodePage) (cs : List Char) :
    textOf (Sheet.glyphs p cs) = p.encodeChars cs := by
  have hg (bs : Bytes) : textOf (bs.map .glyph) = bs := by
    rw [textOf, List.flatMap_map]
    exact List.flatMap_singleton' bs
  exact hg _

/-- No text holds a line feed. -/
theorem feed_not_mem_encodeChars (p : CodePage) (cs : List Char) :
    (0x0A : UInt8) ∉ p.encodeChars cs := by
  intro h
  obtain ⟨c, -, hc⟩ := List.mem_map.mp h
  have hp := (p.encodeChar_plain c).1
  rw [hc] at hp
  exact absurd hp (by decide)

/-! ## 2. The rows of a layout -/

/-- The row that an instruction prints on a sheet of `w` columns, if it prints one and nothing was
    on it before. -/
def Instruction.row? (w : Nat) : Instruction → Option (List Char)
  | line s => some s.toList
  | feed => some []
  | rule c => some (List.replicate w c)
  | fixed s => some (Text.fitLeftChars s.toList w)
  | ends l r => some (Sheet.endsRow w l r)
  | text _ | align _ | bold _ | size _ | cut => none

/-- Nothing is left on a row that is not printed. -/
def Instruction.isWhole : Instruction → Bool
  | text _ => false
  | line _ | feed | align _ | bold _ | size _ | rule _ | fixed _ | ends _ _ | cut => true

/-- No instruction of the layout leaves anything on a row that is not printed. -/
def Whole (is : List Instruction) : Prop := is.all Instruction.isWhole = true

theorem whole_append {is js : List Instruction} : Whole (is ++ js) ↔ Whole is ∧ Whole js := by
  simp [Whole]

theorem whole_cons {i : Instruction} {is : List Instruction} :
    Whole (i :: is) ↔ i.isWhole = true ∧ Whole is := by
  simp [Whole]

theorem whole_flatMap {α : Type} {f : α → List Instruction} (h : ∀ a, Whole (f a)) (as : List α) :
    Whole (as.flatMap f) := by
  induction as with
  | nil => rfl
  | cons a as ih =>
    rw [List.flatMap_cons, whole_append]
    exact ⟨h a, ih⟩

namespace Sheet

variable (s : Sheet)

/-- The rows of a layout on a sheet, in bytes. -/
def rows (is : List Instruction) : List Bytes :=
  is.filterMap fun i => (i.row? s.width).map s.page.encodeChars

theorem rows_append (is js : List Instruction) : s.rows (is ++ js) = s.rows is ++ s.rows js :=
  List.filterMap_append

theorem rows_flatMap {α : Type} (f : α → List Instruction) (as : List α) :
    s.rows (as.flatMap f) = as.flatMap fun a => s.rows (f a) := List.filterMap_flatMap

/-- An instruction prints its row, or it is a command. -/
theorem textOf_tokensOf {i : Instruction} (hi : i.isWhole = true) :
    textOf (s.tokensOf i) =
      match i.row? s.width with
      | some cs => s.page.encodeChars cs ++ [0x0A]
      | none => [] := by
  cases i with
  | text x => cases hi
  | line x | rule c | fixed x | ends l r =>
    rw [tokensOf, textOf_append, textOf_glyphs]
    rfl
  | feed | align a | bold on | size z | cut => rfl

theorem splitOn_textOf {is : List Instruction} (h : Whole is) :
    (textOf (is.flatMap s.tokensOf)).splitOn 0x0A = s.rows is ++ [[]] := by
  induction is with
  | nil => rfl
  | cons i is ih =>
    obtain ⟨hi, his⟩ := whole_cons.mp h
    rw [List.flatMap_cons, textOf_append, textOf_tokensOf s hi, rows, List.filterMap_cons]
    cases hr : i.row? s.width with
    | none => exact ih his
    | some cs =>
      have hn := feed_not_mem_encodeChars s.page cs
      rw [List.append_assoc, List.singleton_append,
        List.splitOn_append_cons_self_of_not_mem hn, ih his]
      rfl

/-- **The text of a layout is its rows**, each ended by a line feed, whatever texts stand in it. -/
theorem splitOn_text_print {is : List Instruction} (h : Whole is) :
    ∃ t, text? (s.print is) = some t ∧ t.splitOn 0x0A = s.rows is ++ [[]] := by
  refine ⟨textOf (s.tokens is), ?_, ?_⟩
  · rw [text?, read?_print]
    rfl
  · exact splitOn_textOf s h

end Sheet

end ReceiptPrinting.Escpos
