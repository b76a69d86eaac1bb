import ReceiptPrinting.Escpos.Reader
import ReceiptPrinting.Escpos.Sheet

/-!
# Streams with their text erased

Whatever a text holds, the stream that prints it is read back as the tokens it was made of: each
character passes the code page, and no byte of a code page starts a command or feeds a line. So the
commands and line feeds of a stream are those of its instructions, and no text adds to them.

* `plain_tokens`, **`read?_print`**: the stream of a layout is read back as its tokens;
* `skeleton`: tokens with the characters erased;
* `skeleton_tokens`: the skeleton of a layout is made of the skeletons of its instructions, in which
  no text occurs;
* `Framed`: a stream that is reset once, at its start, and cut once, at its end.
-/

namespace ReceiptPrinting.Escpos

/-! ## 1. Reading a layout back -/

namespace Sheet

variable (s : Sheet)

/-- A character that has passed the code page is never taken for anything else. -/
theorem plain_glyphs (p : CodePage) (cs : List Char) : ∀ t ∈ glyphs p cs, t.Plain := by
  intro t ht
  obtain ⟨b, hb, rfl⟩ := List.mem_map.mp ht
  obtain ⟨c, -, rfl⟩ := List.mem_map.mp hb
  obtain ⟨hc, -⟩ := p.encodeChar_plain c
  -- the three bytes that are told apart are all below the space
  have hne (k : UInt8) (hk : k.toNat < 0x20) : p.encodeChar c ≠ k := by
    intro he
    rw [he] at hc
    omega
  exact ⟨hne 0x1B (by decide), hne 0x1D (by decide), hne 0x0A (by decide)⟩

theorem plain_row (cs : List Char) : ∀ t ∈ glyphs s.page cs ++ [.feed], t.Plain := by
  intro t ht
  rcases List.mem_append.mp ht with ht | ht
  · exact plain_glyphs s.page cs t ht
  · rw [List.mem_singleton.mp ht]
    exact trivial

theorem plain_tokensOf (i : Instruction) : ∀ t ∈ s.tokensOf i, t.Plain := by
  cases i with
  | text x => exact plain_glyphs _ _
  | line x | rule c | fixed x | ends l r => exact plain_row s _
  | feed | align a | bold on | size z | cut =>
    intro t ht
    rw [List.mem_singleton.mp ht]
    exact trivial

theorem plain_tokens (is : List Instruction) : ∀ t ∈ s.tokens is, t.Plain := by
  intro t ht
  rcases List.mem_append.mp ht with ht | ht
  · rcases List.mem_cons.mp ht with rfl | ht
    · exact trivial
    · rw [List.mem_singleton.mp ht]
      exact trivial
  · obtain ⟨i, -, hi⟩ := List.mem_flatMap.mp ht
    exact plain_tokensOf s i t hi

/-- **A stream is read back as the tokens of its layout**, whatever texts stand in it. -/
theorem read?_print (is : List Instruction) : read? (s.print is) = some (s.tokens is) :=
  read?_spell (plain_tokens s is)

end Sheet

/-! ## 2. Erasing the text -/

/-- Is it a character? -/
def Token.isGlyph : Token → Bool
  | glyph _ => true
  | command _ | feed => false

/-- Tokens with the characters erased. -/
def skeleton (ts : List Token) : List Token := ts.filter fun t => !t.isGlyph

@[simp] theorem skeleton_append (a b : List Token) :
    skeleton (a ++ b) = skeleton a ++ skeleton b := by
  simp [skeleton]

theorem skeleton_flatMap {α : Type} (f : α → List Token) (xs : List α) :
    skeleton (xs.flatMap f) = xs.flatMap fun x => skeleton (f x) := List.filter_flatMap

/-- Nothing is left of a text. -/
@[simp] theorem skeleton_glyphs (p : CodePage) (cs : List Char) :
    skeleton (Sheet.glyphs p cs) = [] := by
  refine List.filter_eq_nil_iff.mpr fun t ht => ?_
  obtain ⟨b, -, rfl⟩ := List.mem_map.mp ht
  exact nofun

/-- What is left of an instruction: a row is a line feed, and a command is itself. -/
def Instruction.skeleton : Instruction → List Token
  | text _ => []
  | line _ | feed | rule _ | fixed _ | ends _ _ => [.feed]
  | align a => [.command (.align a)]
  | bold on => [.command (.bold on)]
  | size z => [.command (.size z)]
  | cut => [.command .cut]

/-- On every sheet the same is left of an instruction. -/
theorem skeleton_tokensOf (s : Sheet) (i : Instruction) :
    skeleton (s.tokensOf i) = i.skeleton := by
  cases i with
  | text x => exact skeleton_glyphs _ _
  | line x | rule c | fixed x | ends l r =>
    rw [Sheet.tokensOf, skeleton_append, skeleton_glyphs]
    rfl
  | feed | align a | bold on | size z | cut => rfl

/-- **The skeleton of a layout**: the sheet shows in it by its code page only. -/
theorem skeleton_tokens (s : Sheet) (is : List Instruction) :
    skeleton (s.tokens is) = s.opening ++ is.flatMap Instruction.skeleton := by
  rw [Sheet.tokens, skeleton_append, skeleton_flatMap]
  simp only [skeleton_tokensOf]
  rfl

/-! ## 3. The two ends of a stream -/

/-- **The stream is reset once, at its start, and cut once, at its end.** -/
structure Framed (bs : Bytes) : Prop where
  starts : [0x1B, 0x40] <+: bs
  ends : [0x1D, 0x56, 0x01] <:+ bs
  once : ∃ mid, read? bs = some (.command .reset :: (mid ++ [.command .cut])) ∧
    .command .reset ∉ mid ∧ .command .cut ∉ mid

/-- A command among tokens is one that is left when the text is erased. -/
theorem mem_skeleton {c : Command} {ts : List Token} :
    .command c ∈ skeleton ts ↔ .command c ∈ ts := by
  simp [skeleton, Token.isGlyph]

/-- A layout that cuts at its end and not before. -/
theorem framed_print (s : Sheet) {is : List Instruction} (h : .cut ∉ is) :
    Framed (s.print (is ++ [.cut])) := by
  have ht : s.tokens (is ++ [.cut]) = .command .reset ::
      ((.command (.page s.page.table) :: is.flatMap s.tokensOf) ++ [.command .cut]) := by
    rw [Sheet.tokens, List.flatMap_append]
    rfl
  -- no instruction resets, and only the cut cuts
  have hn (c : Command) (hc : ∀ i ∈ is, .command c ∉ i.skeleton) :
      .command c ∉ is.flatMap s.tokensOf := by
    rw [← mem_skeleton, skeleton_flatMap]
    intro hm
    obtain ⟨i, hi, hm⟩ := List.mem_flatMap.mp hm
    rw [skeleton_tokensOf] at hm
    exact hc i hi hm
  have hreset : .command .reset ∉ is.flatMap s.tokensOf := by
    refine hn _ fun i _ hm => ?_
    cases i <;> simp [Instruction.skeleton] at hm
  have hcut : .command .cut ∉ is.flatMap s.tokensOf := by
    refine hn _ fun i hi hm => ?_
    cases i <;> simp [Instruction.skeleton] at hm
    exact h hi
  constructor
  case starts =>
    rw [Sheet.print, ht]
    exact ⟨_, rfl⟩
  case ends =>
    rw [Sheet.print, ht, ← List.cons_append, spell_append]
    exact List.suffix_append _ _
  case once =>
    refine ⟨_, (Sheet.read?_print s _).trans (congrArg some ht), ?_, ?_⟩
    · simpa using hreset
    · simpa using hcut

end ReceiptPrinting.Escpos
