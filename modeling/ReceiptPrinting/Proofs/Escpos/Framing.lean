import ReceiptPrinting.Proofs.Escpos.Styles
import ReceiptPrinting.Proofs.Layout.Columns

/-!
# Where commands, characters and lines begin and end

A reader that knows no command by its meaning still finds where each ends: `ESC @` takes two bytes,
whatever else starts with `ESC` or `GS` three, a line feed one, and every other byte is a character.
The argument of a command may be any byte, that of a letter or of a line feed too. Still the stream
of a layout is taken apart in one way only, into the pieces that its instructions write.

* `Piece`, `pieces?`: the units of a stream, and the reader that takes it apart;
* **`pieces?_eq_some_iff`**: a stream is taken apart in at most one way;
* `Instruction.pieces`, `Sheet.pieces`: the pieces of a layout, in bytes;
* **`print_taken_apart`**: the stream of every layout is taken apart into them. No text adds a
  command or a line to it, or takes one from it.
-/

namespace ReceiptPrinting.Escpos

/-! ## 1. Pieces -/

/-- A unit of a stream. -/
inductive Piece where
  /-- A command with its argument, in bytes. -/
  | command (bs : Bytes)
  | glyph (b : UInt8)
  | feed
deriving DecidableEq, Repr

namespace Piece

/-- A piece in bytes. -/
def bytes : Piece → Bytes
  | command bs => bs
  | glyph b => [b]
  | feed => [0x0A]

/-- Is it a character? -/
def isGlyph : Piece → Bool
  | glyph _ => true
  | command _ | feed => false

/-- A command has the length that its first two bytes tell, and a character is neither the start of
    a command nor a line feed. -/
inductive Proper : Piece → Prop where
  | reset : Proper (command [0x1B, 0x40])
  | escaped {k : UInt8} (hk : k ≠ 0x40) (x : UInt8) : Proper (command [0x1B, k, x])
  | grouped (k x : UInt8) : Proper (command [0x1D, k, x])
  | glyph {b : UInt8} (hescape : b ≠ 0x1B) (hgroup : b ≠ 0x1D) (hfeed : b ≠ 0x0A) :
    Proper (glyph b)
  | feed : Proper feed

end Piece

/-! ## 2. Taking a stream apart -/

/-- The first piece, and the bytes behind it. -/
def piece? : Bytes → Option (Piece × Bytes)
  | [] => none
  | b :: r =>
    if b = 0x1B ∧ r.head? = some 0x40 then some (.command [0x1B, 0x40], r.tail)
    else if b = 0x1B ∨ b = 0x1D then
      match r with
      | k :: x :: r => some (.command [b, k, x], r)
      | _ => none
    else if b = 0x0A then some (.feed, r)
    else some (.glyph b, r)

/-- What is read first is what stands first. -/
theorem piece?_eq_some {bs r : Bytes} {p : Piece} (h : piece? bs = some (p, r)) :
    p.Proper ∧ bs = p.bytes ++ r := by
  unfold piece? at h
  split at h
  case h_1 => cases h
  case h_2 b rest =>
    split at h
    case isTrue hreset =>
      obtain ⟨rfl, hhead⟩ := hreset
      obtain ⟨rest, rfl⟩ := List.head?_eq_some_iff.mp hhead
      cases h
      exact ⟨.reset, rfl⟩
    case isFalse hreset =>
      split at h
      case isTrue hcommand =>
        split at h
        case h_1 k x rest =>
          cases h
          refine ⟨?_, rfl⟩
          rcases hcommand with rfl | rfl
          · exact .escaped (fun hk => hreset ⟨rfl, congrArg some hk⟩) x
          · exact .grouped k x
        case h_2 => cases h
      case isFalse hcommand =>
        rw [not_or] at hcommand
        split at h
        case isTrue hfeed =>
          cases h
          exact ⟨.feed, by rw [hfeed]; rfl⟩
        case isFalse hfeed =>
          cases h
          exact ⟨.glyph hcommand.1 hcommand.2 hfeed, rfl⟩

theorem piece?_length {bs r : Bytes} {p : Piece} (h : piece? bs = some (p, r)) :
    r.length < bs.length := by
  obtain ⟨hp, rfl⟩ := piece?_eq_some h
  have hpos : 0 < p.bytes.length := by cases hp <;> exact Nat.succ_pos _
  rw [List.length_append]
  omega

/-- What stands first is read first, whatever follows. -/
theorem Piece.Proper.piece?_append {p : Piece} (hp : p.Proper) (r : Bytes) :
    piece? (p.bytes ++ r) = some (p, r) := by
  cases hp with
  | reset | grouped k x | feed => rfl
  | escaped hk x => simp [piece?, Piece.bytes, hk]
  | glyph hescape hgroup hfeed => simp [piece?, Piece.bytes, hescape, hgroup, hfeed]

/-- The pieces of a stream, if none is broken off. -/
def pieces? (bs : Bytes) : Option (List Piece) :=
  if bs.isEmpty then some []
  else
    match _h : piece? bs with
    | none => none
    | some (p, r) => (pieces? r).map (p :: ·)
termination_by bs.length
decreasing_by exact piece?_length _h

theorem pieces?_nil : pieces? [] = some [] := by
  rw [pieces?]
  rfl

theorem pieces?_of_piece? {bs r : Bytes} {p : Piece} (h : piece? bs = some (p, r)) :
    pieces? bs = (pieces? r).map (p :: ·) := by
  have hne : ¬ bs.isEmpty = true := by
    intro hempty
    rw [List.isEmpty_iff.mp hempty] at h
    cases h
  rw [pieces?, if_neg hne]
  split
  case h_1 hnone => rw [hnone] at h; cases h
  case h_2 hsome => rw [hsome] at h; cases h; rfl

/-- What is read, written out again, is the stream. -/
theorem eq_of_pieces? {bs : Bytes} {ps : List Piece} (h : pieces? bs = some ps) :
    (∀ p ∈ ps, p.Proper) ∧ ps.flatMap Piece.bytes = bs := by
  induction ps generalizing bs with
  | nil =>
    rw [pieces?] at h
    split at h
    case isTrue hempty => exact ⟨nofun, (List.isEmpty_iff.mp hempty).symm⟩
    case isFalse =>
      split at h
      · cases h
      · obtain ⟨ps, -, hps⟩ := Option.map_eq_some_iff.mp h
        cases hps
  | cons p ps ih =>
    rw [pieces?] at h
    split at h
    case isTrue => cases h
    case isFalse =>
      split at h
      case h_1 => cases h
      case h_2 q r hpiece =>
        obtain ⟨qs, hrest, hcons⟩ := Option.map_eq_some_iff.mp h
        cases hcons
        obtain ⟨hp, hbs⟩ := piece?_eq_some hpiece
        obtain ⟨hps, hr⟩ := ih hrest
        exact ⟨List.forall_mem_cons.mpr ⟨hp, hps⟩, by rw [hbs, List.flatMap_cons, hr]⟩

/-- **A stream is taken apart in at most one way**, and the reader finds it. -/
theorem pieces?_eq_some_iff {bs : Bytes} {ps : List Piece} :
    pieces? bs = some ps ↔ (∀ p ∈ ps, p.Proper) ∧ ps.flatMap Piece.bytes = bs := by
  refine ⟨eq_of_pieces?, ?_⟩
  rintro ⟨hps, rfl⟩
  induction ps with
  | nil => exact pieces?_nil
  | cons p ps ih =>
    obtain ⟨hp, hps⟩ := List.forall_mem_cons.mp hps
    rw [List.flatMap_cons, pieces?_of_piece? (hp.piece?_append _), ih hps]
    rfl

/-! ## 3. The pieces of a layout -/

/-- Characters, and the end of their line. -/
def Piece.row (bs : Bytes) : List Piece := bs.map .glyph ++ [.feed]

/-- What an instruction writes on a sheet of `w` columns. -/
def Instruction.pieces (w : Nat) (p : CodePage) : Instruction → List Piece
  | text s => (p.encode s).map .glyph
  | line s => Piece.row (p.encode s)
  | feed => [.feed]
  | align a => [.command [0x1B, 0x61, a.code]]
  | bold on => [.command [0x1B, 0x45, switchCode on]]
  | size z => [.command [0x1D, 0x21, z.code]]
  | rule c => Piece.row (List.replicate w (p.encodeChar c))
  | fixed s => Piece.row (Column.left (p.encode s) w)
  | ends l r => Piece.row (Column.ends (p.encode l) (p.encode r) w)
  | cut => [.command [0x1D, 0x56, 0x01]]

/-- An instruction with its texts left out. -/
def Instruction.untexted : Instruction → Instruction
  | text _ => text ""
  | line _ => line ""
  | fixed _ => fixed ""
  | ends _ _ => ends "" ""
  | i => i

/-- What a layout writes: the reset, the code page, and its instructions in their order. -/
def Sheet.pieces (s : Sheet) (is : List Instruction) : List Piece :=
  .command [0x1B, 0x40] :: .command [0x1B, 0x74, s.page.table] ::
    is.flatMap (Instruction.pieces s.width s.page)

section

variable (s : Sheet) (i : Instruction) (is : List Instruction)

@[simp] theorem bytes_glyphs (bs : Bytes) : (bs.map Piece.glyph).flatMap Piece.bytes = bs := by
  rw [List.flatMap_map]
  exact List.flatMap_singleton' bs

@[simp] theorem bytes_row (bs : Bytes) : (Piece.row bs).flatMap Piece.bytes = bs ++ [0x0A] := by
  rw [Piece.row, List.flatMap_append, bytes_glyphs]
  rfl

theorem spell_glyphs (p : CodePage) (cs : List Char) :
    spell (Sheet.glyphs p cs) = p.encodeChars cs := by
  rw [spell, Sheet.glyphs, List.flatMap_map]
  exact List.flatMap_singleton' _

/-- The bytes of an instruction are those of its pieces. -/
theorem spell_tokensOf :
    spell (s.tokensOf i) = (i.pieces s.width s.page).flatMap Piece.bytes := by
  have hrow (cs : List Char) :
      spell (Sheet.glyphs s.page cs ++ [.feed]) = s.page.encodeChars cs ++ [0x0A] := by
    rw [spell_append, spell_glyphs]
    rfl
  cases i with
  | text x => rw [Sheet.tokensOf, spell_glyphs, Instruction.pieces, bytes_glyphs, CodePage.encode]
  | line x => rw [Sheet.tokensOf, hrow, Instruction.pieces, bytes_row, CodePage.encode]
  | rule c =>
    rw [Sheet.tokensOf, hrow, Instruction.pieces, bytes_row, CodePage.encodeChars,
      List.map_replicate]
  | fixed x =>
    rw [Sheet.tokensOf, hrow, Instruction.pieces, bytes_row, CodePage.encodeChars_fitLeft,
      CodePage.encode]
  | ends l r =>
    rw [Sheet.tokensOf, hrow, Instruction.pieces, bytes_row, CodePage.encodeChars_endsRow]
  | feed | align a | bold on | size z | cut => rfl

theorem print_eq_bytes : s.print is = (s.pieces is).flatMap Piece.bytes := by
  have hinstructions : spell (is.flatMap s.tokensOf) =
      (is.flatMap (Instruction.pieces s.width s.page)).flatMap Piece.bytes := by
    rw [spell, List.flatMap_assoc, List.flatMap_assoc]
    exact congrArg (is.flatMap ·) (funext (spell_tokensOf s))
  rw [Sheet.print, Sheet.tokens, spell_append, hinstructions]
  rfl

end

/-! ## 4. No text is taken for anything else -/

section

variable (s : Sheet) (i : Instruction) (is : List Instruction)

theorem proper_glyphs (p : CodePage) (cs : List Char) :
    ∀ q ∈ (p.encodeChars cs).map Piece.glyph, q.Proper := by
  intro q hq
  obtain ⟨b, hb, rfl⟩ := List.mem_map.mp hq
  obtain ⟨hescape, hgroup, hfeed⟩ :=
    Sheet.plain_glyphs p cs (.glyph b) (List.mem_map_of_mem hb)
  exact .glyph hescape hgroup hfeed

theorem proper_row (p : CodePage) (cs : List Char) :
    ∀ q ∈ Piece.row (p.encodeChars cs), q.Proper := by
  intro q hq
  rcases List.mem_append.mp hq with hq | hq
  · exact proper_glyphs p cs q hq
  · rw [List.mem_singleton.mp hq]
    exact .feed

theorem proper_pieces (w : Nat) (p : CodePage) : ∀ q ∈ i.pieces w p, q.Proper := by
  cases i with
  | text x => exact proper_glyphs p x.toList
  | line x => exact proper_row p x.toList
  | rule c =>
    have hrow := proper_row p (List.replicate w c)
    rwa [CodePage.encodeChars, List.map_replicate] at hrow
  | fixed x =>
    have hrow := proper_row p (Text.fitLeftChars x.toList w)
    rwa [CodePage.encodeChars_fitLeft] at hrow
  | ends l r =>
    have hrow := proper_row p (Sheet.endsRow w l r)
    rwa [CodePage.encodeChars_endsRow] at hrow
  | feed => exact List.forall_mem_singleton.mpr .feed
  | align a | bold on => exact List.forall_mem_singleton.mpr (.escaped (by decide) _)
  | size z | cut => exact List.forall_mem_singleton.mpr (.grouped _ _)

theorem Sheet.proper_pieces : ∀ q ∈ s.pieces is, q.Proper := by
  have hinstructions : ∀ q ∈ is.flatMap (Instruction.pieces s.width s.page), q.Proper := by
    intro q hq
    obtain ⟨i, -, hi⟩ := List.mem_flatMap.mp hq
    exact Escpos.proper_pieces i s.width s.page q hi
  exact List.forall_mem_cons.mpr
    ⟨.reset, List.forall_mem_cons.mpr ⟨.escaped (by decide) _, hinstructions⟩⟩

/-- What is left of an instruction without its characters is left of it without its texts. -/
theorem filter_pieces_untexted (w : Nat) (p : CodePage) :
    (i.pieces w p).filter (!·.isGlyph) = (i.untexted.pieces w p).filter (!·.isGlyph) := by
  have hglyphs (bs : Bytes) : (bs.map Piece.glyph).filter (!·.isGlyph) = [] := by
    simp [Piece.isGlyph]
  have hrow (bs : Bytes) : (Piece.row bs).filter (!·.isGlyph) = [.feed] := by
    rw [Piece.row, List.filter_append, hglyphs]
    rfl
  cases i with
  | text x => rw [Instruction.pieces, Instruction.untexted, Instruction.pieces, hglyphs, hglyphs]
  | line x | fixed x | ends l r =>
    rw [Instruction.pieces, Instruction.untexted, Instruction.pieces, hrow, hrow]
  | rule c | feed | align a | bold on | size z | cut => rfl

theorem count_feed_pieces (w : Nat) (p : CodePage) :
    (i.pieces w p).count .feed = if i.isRow then 1 else 0 := by
  have hglyphs (bs : Bytes) : (bs.map Piece.glyph).count .feed = 0 := by
    simp [List.count_eq_zero]
  have hrow (bs : Bytes) : (Piece.row bs).count .feed = 1 := by
    rw [Piece.row, List.count_append, hglyphs]
    rfl
  cases i with
  | text x => exact hglyphs _
  | line x | rule c | fixed x | ends l r => exact hrow _
  | feed | align a | bold on | size z | cut => rfl

/-- **The stream of a layout is taken apart in one way only.** The reader finds the reset, the code
    page, and then what the instructions write, in their order; no other pieces spell that stream.
    Without its characters, it is the stream of the same layout with all texts left out: no text
    adds a command or a line, hides one or breaks one off. There are as many line feeds as
    instructions that end a line. -/
theorem print_taken_apart :
    pieces? (s.print is) = some (s.pieces is) ∧
    (∀ ps, (∀ p ∈ ps, p.Proper) ∧ ps.flatMap Piece.bytes = s.print is ↔ ps = s.pieces is) ∧
    (s.pieces is).filter (!·.isGlyph) =
      (s.pieces (is.map Instruction.untexted)).filter (!·.isGlyph) ∧
    (s.pieces is).count .feed = is.countP Instruction.isRow := by
  have hread : pieces? (s.print is) = some (s.pieces is) :=
    pieces?_eq_some_iff.mpr ⟨s.proper_pieces is, (print_eq_bytes s is).symm⟩
  refine ⟨hread, fun ps => ?_, ?_, ?_⟩
  · rw [← pieces?_eq_some_iff, hread, Option.some_inj, eq_comm]
  · have hinstructions : (is.flatMap (Instruction.pieces s.width s.page)).filter (!·.isGlyph) =
        ((is.map Instruction.untexted).flatMap (Instruction.pieces s.width s.page)).filter
          (!·.isGlyph) := by
      rw [List.flatMap_map, List.filter_flatMap, List.filter_flatMap]
      exact congrArg (is.flatMap ·) (funext fun i => filter_pieces_untexted i s.width s.page)
    exact congrArg (_ :: _ :: ·) hinstructions
  · have hinstructions (is : List Instruction) :
        (is.flatMap (Instruction.pieces s.width s.page)).count .feed =
          is.countP Instruction.isRow := by
      induction is with
      | nil => rfl
      | cons i is ih =>
        rw [List.flatMap_cons, List.count_append, ih, count_feed_pieces, List.countP_cons,
          Nat.add_comm]
    exact hinstructions is

end

end ReceiptPrinting.Escpos
