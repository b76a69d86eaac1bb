import ReceiptPrinting.Escpos.Command

/-!
# Reading the stream back

Which bytes are text and which belong to a command is found by reading from the front: a command
tells by its first two bytes how long it is.

* `token?` reads the first token, `read?` the whole stream;
* `read?_spell`: the tokens that were spelt are the tokens that are read, whatever bytes the text
  holds, as long as none of them starts a command or feeds a line (`Token.Plain`).
-/

namespace ReceiptPrinting.Escpos

/-! ## 1. One token -/

/-- The alignment of an argument. -/
def Align.ofCode? (b : UInt8) : Option Align :=
  if b = 0 then some left else if b = 1 then some center else if b = 2 then some right else none

/-- The size of an argument. -/
def Size.ofCode? (b : UInt8) : Option Size :=
  if b = 0x00 then some normal else if b = 0x01 then some tall
  else if b = 0x11 then some double else none

/-- The state of a switch. -/
def switch? (b : UInt8) : Option Bool :=
  if b = 0 then some false else if b = 1 then some true else none

/-- The command behind `ESC`, and the bytes behind it. -/
def escaped? : Bytes → Option (Command × Bytes)
  | [] => none
  | k :: r =>
    if k = 0x40 then some (.reset, r)
    else
      match r with
      | [] => none
      | x :: r =>
        if k = 0x74 then some (.page x, r)
        else if k = 0x61 then (Align.ofCode? x).map fun a => (.align a, r)
        else if k = 0x45 then (switch? x).map fun on => (.bold on, r)
        else if k = 0x70 ∧ x = 0x00 ∧ r.take 2 = [25, 250] then some (.pulse, r.drop 2)
        else none

/-- The command behind `GS`, and the bytes behind it. -/
def grouped? : Bytes → Option (Command × Bytes)
  | k :: x :: r =>
    if k = 0x21 then (Size.ofCode? x).map fun s => (.size s, r)
    else if k = 0x56 ∧ x = 0x01 then some (.cut, r)
    else none
  | _ => none

/-- The first token, and the bytes behind it. -/
def token? : Bytes → Option (Token × Bytes)
  | [] => none
  | b :: r =>
    if b = 0x1B then (escaped? r).map fun (c, r) => (.command c, r)
    else if b = 0x1D then (grouped? r).map fun (c, r) => (.command c, r)
    else if b = 0x0A then some (.feed, r)
    else some (.glyph b, r)

theorem escaped?_length {bs r : Bytes} {c : Command} (h : escaped? bs = some (c, r)) :
    r.length < bs.length := by
  unfold escaped? at h
  split at h
  · cases h
  · split at h
    · simp only [Option.some.injEq, Prod.mk.injEq] at h
      simp [← h.2]
    · split at h
      · cases h
      · split at h
        · simp only [Option.some.injEq, Prod.mk.injEq] at h
          rw [← h.2]; simp only [List.length_cons]; omega
        · split at h
          · obtain ⟨_, _, he⟩ := Option.map_eq_some_iff.1 h
            simp only [Prod.mk.injEq] at he
            rw [← he.2]; simp only [List.length_cons]; omega
          · split at h
            · obtain ⟨_, _, he⟩ := Option.map_eq_some_iff.1 h
              simp only [Prod.mk.injEq] at he
              rw [← he.2]; simp only [List.length_cons]; omega
            · split at h
              · simp only [Option.some.injEq, Prod.mk.injEq] at h
                rw [← h.2]; simp only [List.length_cons, List.length_drop]; omega
              · cases h

theorem grouped?_length {bs r : Bytes} {c : Command} (h : grouped? bs = some (c, r)) :
    r.length < bs.length := by
  unfold grouped? at h
  split at h
  · split at h
    · obtain ⟨_, _, he⟩ := Option.map_eq_some_iff.1 h
      simp only [Prod.mk.injEq] at he
      rw [← he.2]; simp only [List.length_cons]; omega
    · split at h
      · simp only [Option.some.injEq, Prod.mk.injEq] at h
        rw [← h.2]; simp only [List.length_cons]; omega
      · cases h
  · cases h

theorem token?_length {bs r : Bytes} {t : Token} (h : token? bs = some (t, r)) :
    r.length < bs.length := by
  unfold token? at h
  split at h
  · cases h
  · split at h
    · obtain ⟨⟨c, r'⟩, hc, he⟩ := Option.map_eq_some_iff.1 h
      simp only [Prod.mk.injEq] at he
      have := escaped?_length hc
      rw [← he.2]; simp only [List.length_cons]; omega
    · split at h
      · obtain ⟨⟨c, r'⟩, hc, he⟩ := Option.map_eq_some_iff.1 h
        simp only [Prod.mk.injEq] at he
        have := grouped?_length hc
        rw [← he.2]; simp only [List.length_cons]; omega
      · split at h <;>
          (simp only [Option.some.injEq, Prod.mk.injEq] at h; simp [← h.2])

/-! ## 2. The whole stream -/

/-- The tokens of a stream, if it is made of whole tokens. -/
def read? (bs : Bytes) : Option (List Token) :=
  if bs.isEmpty then some []
  else
    match _h : token? bs with
    | none => none
    | some (t, r) => (read? r).map (t :: ·)
termination_by bs.length
decreasing_by exact token?_length _h

/-- A token whose spelling is told apart from every other: a character must not have the byte of a
    line feed or of the start of a command. -/
def Token.Plain : Token → Prop
  | glyph b => b ≠ 0x1B ∧ b ≠ 0x1D ∧ b ≠ 0x0A
  | command _ | feed => True

@[simp] theorem read?_nil : read? [] = some [] := by rw [read?]; rfl

/-- A stream that starts with a token is that token and the rest. -/
theorem read?_of_token? {bs r : Bytes} {t : Token} (h : token? bs = some (t, r)) :
    read? bs = (read? r).map (t :: ·) := by
  rw [read?]
  split
  · rename_i he
    have : bs = [] := by simpa using he
    simp [this, token?] at h
  · split
    · rename_i hn; rw [hn] at h; cases h
    · rename_i hs; rw [hs] at h; cases h; rfl

/-- **What is spelt first is read first**, whatever follows. -/
theorem token?_spell_append {t : Token} (ht : t.Plain) (r : Bytes) :
    token? (t.spell ++ r) = some (t, r) := by
  cases t with
  | command c =>
    cases c with
    | reset | cut | pulse => rfl
    | page x => rfl
    | align a => cases a <;> rfl
    | bold on => cases on <;> rfl
    | size s => cases s <;> rfl
  | glyph b => simp [Token.spell, token?, ht.1, ht.2.1, ht.2.2]
  | feed => rfl

/-- **Reading finds what was spelt.** -/
theorem read?_spell {ts : List Token} (h : ∀ t ∈ ts, t.Plain) : read? (spell ts) = some ts := by
  induction ts with
  | nil => simp
  | cons t ts ih =>
    rw [spell_cons, read?_of_token? (token?_spell_append (h t (by simp)) _),
      ih fun t ht => h t (by simp [ht])]
    rfl

end ReceiptPrinting.Escpos
