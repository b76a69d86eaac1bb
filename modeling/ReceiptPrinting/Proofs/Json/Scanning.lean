import ReceiptPrinting.Proofs.Json.Grammar

/-!
# Blanks, strings and numbers are read by the grammar

Each of the functions that read a part without parts of its own takes from the text what the grammar
says, and where the grammar says something it is read. A number is read to the last of its
characters, so what follows must not be one of them.

* `skipBlanks_sound`, `Blanks.skipBlanks`: blanks;
* `readString_sound`, `StringOf.readString`: strings;
* `readNumber_sound`, `NumeralOf.readNumber`: numbers.
-/

namespace ReceiptPrinting.Json

variable {c d : Cursor} {cs ds es r xs : List Char} {x : Char}

/-- What follows a step that succeeds. -/
theorem bind_eq_ok {ε α β : Type} {x : Except ε α} {f : α → Except ε β} {b : β}
    (h : (x >>= f) = .ok b) : ∃ a, x = .ok a ∧ f a = .ok b := by
  cases x with
  | error e => cases h
  | ok a => exact ⟨a, rfl, h⟩

/-! ## 1. Blanks and words -/

/-- What is left does not start with a blank. -/
def Unblank (r : List Char) : Prop := ∀ c ∈ r.head?, isBlank c = false

theorem unblank_cons (h : isBlank x = false) (r : List Char) : Unblank (x :: r) := by
  intro c hc
  cases hc
  exact h

theorem unblank_nil : Unblank [] := nofun

theorem skipBlanksFrom_sound (cs : List Char) (o : Nat) :
    Blanks cs (skipBlanksFrom cs o).rest ∧ Unblank (skipBlanksFrom cs o).rest := by
  induction cs generalizing o with
  | nil => exact ⟨.done [], unblank_nil⟩
  | cons x cs ih =>
    rw [skipBlanksFrom]
    by_cases hx : isBlank x = true
    · rw [if_pos hx]
      exact ⟨.skip hx (ih (o + 1)).1, (ih (o + 1)).2⟩
    · rw [if_neg hx]
      exact ⟨.done _, unblank_cons (Bool.eq_false_iff.mpr hx) _⟩

/-- Blanks are passed over, and all of them are. -/
theorem skipBlanks_sound (c : Cursor) :
    Blanks c.rest c.skipBlanks.rest ∧ Unblank c.skipBlanks.rest := skipBlanksFrom_sound _ _

theorem skipBlanks_cons_blank (h : isBlank x = true) (r : List Char) (o : Nat) :
    Cursor.skipBlanks ⟨x :: r, o⟩ = Cursor.skipBlanks ⟨r, o + 1⟩ := by
  simp [Cursor.skipBlanks, skipBlanksFrom, h]

theorem skipBlanks_of_unblank (h : Unblank c.rest) : c.skipBlanks = c := by
  obtain ⟨rest, o⟩ := c
  cases rest with
  | nil => rfl
  | cons x r => exact skipBlanks_cons r o (h x rfl)

theorem skipBlanks_skipBlanks (c : Cursor) : c.skipBlanks.skipBlanks = c.skipBlanks :=
  skipBlanks_of_unblank (skipBlanks_sound c).2

/-- Passing over blanks goes on from wherever blanks have been passed over. -/
theorem Blanks.skipBlanks_eq (h : Blanks cs r) (o : Nat) :
    ∃ m, Cursor.skipBlanks ⟨cs, o⟩ = Cursor.skipBlanks ⟨r, m⟩ := by
  induction h generalizing o with
  | done => exact ⟨o, rfl⟩
  | skip blank _ ih =>
    rw [skipBlanks_cons_blank blank]
    exact ih (o + 1)

theorem Blanks.skipBlanks (h : Blanks cs r) (hr : Unblank r) (o : Nat) :
    ∃ m, Cursor.skipBlanks ⟨cs, o⟩ = ⟨r, m⟩ := by
  obtain ⟨m, hm⟩ := h.skipBlanks_eq o
  exact ⟨m, hm.trans (skipBlanks_of_unblank hr)⟩

theorem word_sound {ws : List Char} (h : word ws c = .ok d) : c.rest = ws ++ d.rest := by
  induction ws generalizing c with
  | nil =>
    cases h
    rfl
  | cons w ws ih =>
    rw [word] at h
    split at h
    case h_1 => cases h
    case h_2 x r hr =>
      split at h
      case isTrue hx =>
        have hrest : r = ws ++ d.rest := ih h
        rw [hr, hx, hrest, List.cons_append]
      case isFalse => cases h

theorem colon_sound (h : colon c = .ok d) : Blanks c.rest (':' :: d.rest) := by
  have hblanks := (skipBlanks_sound c).1
  simp only [colon] at h
  split at h
  case h_1 r hr =>
    cases h
    rwa [hr] at hblanks
  case h_2 => cases h
  case h_3 => cases h

theorem Blanks.colon (h : Blanks cs (':' :: r)) (o : Nat) :
    ∃ m, Json.colon ⟨cs, o⟩ = .ok ⟨r, m⟩ := by
  obtain ⟨m, hm⟩ := h.skipBlanks (unblank_cons rfl r) o
  exact ⟨m + 1, by simp only [Json.colon, hm]⟩

/-! ## 2. Strings -/

theorem hexQuad_sound {n u : Nat} (h : hexQuad cs n = .ok u) : Quad cs u (cs.drop 4) := by
  unfold hexQuad at h
  split at h
  case h_1 a b c d htake =>
    have hcs : cs = a :: b :: c :: d :: cs.drop 4 := by
      have happend := List.take_append_drop 4 cs
      rw [htake] at happend
      exact happend.symm
    split at h
    case h_1 ha hb hc hd =>
      cases h
      have hquad := Quad.mk ha hb hc hd (r := cs.drop 4)
      rwa [← hcs] at hquad
    case h_2 => cases h
  case h_2 =>
    split at h <;> cases h

theorem Quad.hexQuad {u : Nat} (h : Quad cs u r) (n : Nat) : Json.hexQuad cs n = .ok u := by
  cases h with
  | mk ha hb hc hd => simp [Json.hexQuad, ha, hb, hc, hd]

theorem Quad.drop_eq {u : Nat} (h : Quad cs u r) : cs.drop 4 = r := by
  cases h
  rfl

theorem trailingHalf_sound {n v : Nat} (h : trailingHalf cs n = .ok v) :
    ∃ ds, cs = '\\' :: 'u' :: ds ∧ Quad ds v (cs.drop 6) ∧ isTrailing v = true := by
  unfold trailingHalf at h
  split at h
  case h_3 ds =>
    obtain ⟨u, hquad, h⟩ := bind_eq_ok h
    split at h
    case isTrue htrailing =>
      cases h
      exact ⟨ds, rfl, hexQuad_sound hquad, htrailing⟩
    case isFalse => cases h
  all_goals cases h

/-- Behind `u` stands a code, or two of them. -/
theorem readEscape_code_sound {n k : Nat} (h : readEscape ('u' :: r) n = .ok (x, k)) :
    CharOf ('\\' :: 'u' :: r) x (('u' :: r).drop k) := by
  rw [readEscape] at h
  obtain ⟨u, hquad, h⟩ := bind_eq_ok h
  have hfirst := hexQuad_sound hquad
  split at h
  case isTrue => cases h
  case isFalse htrailing =>
    split at h
    case isTrue hleading =>
      obtain ⟨v, hhalf, h⟩ := bind_eq_ok h
      simp only [pure, Except.pure, Except.ok.injEq, Prod.mk.injEq] at h
      obtain ⟨rfl, rfl⟩ := h
      obtain ⟨ds, hds, hsecond, hv⟩ := trailingHalf_sound hhalf
      rw [hds] at hfirst
      rw [List.drop_drop] at hsecond
      exact .pair hfirst hsecond hleading hv
    case isFalse hleading =>
      cases h
      exact .code hfirst (Bool.eq_false_iff.mpr hleading) (Bool.eq_false_iff.mpr htrailing)

/-- The character behind a backslash is one of the signs, or it starts a code. -/
theorem readEscape_sound {n k : Nat} (h : readEscape cs n = .ok (x, k)) :
    CharOf ('\\' :: cs) x (cs.drop k) := by
  have hread := h
  unfold readEscape at h
  split at h
  case h_1 => cases h
  case h_10 => exact readEscape_code_sound hread
  case h_11 => cases h
  all_goals
    cases h
    exact .sign (by simp [signs])

/-- Every sign is read as what it stands for. -/
theorem readEscape_sign {d x : Char} (h : (d, x) ∈ signs) (r : List Char) (n : Nat) :
    readEscape (d :: r) n = .ok (x, 1) := by
  simp only [signs, List.mem_cons, Prod.mk.injEq, List.not_mem_nil, or_false] at h
  rcases h with ⟨rfl, rfl⟩ | ⟨rfl, rfl⟩ | ⟨rfl, rfl⟩ | ⟨rfl, rfl⟩ | ⟨rfl, rfl⟩ | ⟨rfl, rfl⟩ |
    ⟨rfl, rfl⟩ | ⟨rfl, rfl⟩ <;> rfl

theorem readEscape_code {u : Nat} (h : Quad cs u r) (hleading : isLeading u = false)
    (htrailing : isTrailing u = false) (n : Nat) :
    readEscape ('u' :: cs) n = .ok (Char.ofNat u, 5) := by
  rw [readEscape, h.hexQuad, ok_bind, htrailing, hleading]
  rfl

theorem readEscape_pair {u v : Nat} (hu : Quad cs u ('\\' :: 'u' :: ds)) (hv : Quad ds v r)
    (hleading : isLeading u = true) (htrailing : isTrailing v = true) (n : Nat) :
    readEscape ('u' :: cs) n =
      .ok (Char.ofNat (0x10000 + (u - 0xD800) * 0x400 + (v - 0xDC00)), 11) := by
  have hu' : isTrailing u = false := by
    simp only [isLeading, isTrailing, Bool.and_eq_true, decide_eq_true_eq, Bool.and_eq_false_iff,
      decide_eq_false_iff_not] at hleading ⊢
    omega
  have hhalf : trailingHalf (cs.drop 4) (n + 5) = .ok v := by
    rw [hu.drop_eq, trailingHalf, hv.hexQuad, ok_bind, if_pos htrailing]
    rfl
  rw [readEscape, hu.hexQuad, ok_bind, hu', hleading]
  simp only [Bool.false_eq_true, if_false, if_true, hhalf, ok_bind]
  rfl

/-- The characters of an escape that has been read are passed over; then reading goes on. -/
theorem readStringFrom_sound {k n : Nat} (h : readStringFrom k cs n = .ok (xs, d)) :
    StringOf (cs.drop k) xs d.rest := by
  induction cs generalizing k n xs with
  | nil => cases k <;> cases h
  | cons c r ih =>
    cases k with
    | succ k => exact ih h
    | zero =>
      rw [readStringFrom] at h
      rw [List.drop_zero]
      by_cases hquote : c = '"'
      · rw [if_pos hquote] at h
        cases h
        rw [hquote]
        exact .done r
      · rw [if_neg hquote] at h
        by_cases hback : c = '\\'
        · rw [if_pos hback] at h
          obtain ⟨⟨y, k⟩, hescape, h⟩ := bind_eq_ok h
          obtain ⟨⟨ys, e⟩, hrest, h⟩ := bind_eq_ok h
          cases h
          rw [hback]
          exact .char (readEscape_sound hescape) (ih hrest)
        · rw [if_neg hback] at h
          by_cases hcontrol : c.toNat < 0x20
          · rw [if_pos hcontrol] at h
            cases h
          · rw [if_neg hcontrol] at h
            obtain ⟨⟨ys, e⟩, hrest, h⟩ := bind_eq_ok h
            cases h
            exact .char (.plain hquote hback (Nat.le_of_not_lt hcontrol)) (ih hrest)

theorem readString_sound {s : String} (h : readString c = .ok (s, d)) :
    ∃ xs, s = String.ofList xs ∧ StringOf c.rest xs d.rest := by
  obtain ⟨⟨xs, e⟩, hread, h⟩ := bind_eq_ok h
  cases h
  exact ⟨xs, rfl, readStringFrom_sound hread⟩

theorem StringOf.readStringFrom (h : StringOf cs xs r) (o : Nat) :
    ∃ m, Json.readStringFrom 0 cs o = .ok (xs, ⟨r, m⟩) := by
  induction h generalizing o with
  | done r => exact ⟨o + 1, rfl⟩
  | @char cs ds r xs x head _ ih =>
    cases head with
    | plain quote back control =>
      obtain ⟨m, hm⟩ := ih (o + x.utf8Size)
      refine ⟨m, ?_⟩
      rw [Json.readStringFrom, if_neg quote, if_neg back, if_neg (Nat.not_lt_of_le control), hm]
      rfl
    | @sign y _ _ h => exact readStringFrom_escape [y] (readEscape_sign h ds) ih o
    | code quad leading trailing =>
      cases quad with
      | @mk a b c d _ _ _ _ _ ha hb hc hd =>
        exact readStringFrom_escape ['u', a, b, c, d]
          (readEscape_code (.mk ha hb hc hd) leading trailing) ih o
    | pair first second leading trailing =>
      cases first with
      | @mk a b c d _ _ _ _ _ ha hb hc hd =>
        cases second with
        | @mk e f g h _ _ _ _ _ he hf hg hh =>
          exact readStringFrom_escape ['u', a, b, c, d, '\\', 'u', e, f, g, h]
            (readEscape_pair (.mk ha hb hc hd) (.mk he hf hg hh) leading trailing) ih o

theorem StringOf.readString (h : StringOf cs xs r) (o : Nat) :
    ∃ m, Json.readString ⟨cs, o⟩ = .ok (String.ofList xs, ⟨r, m⟩) := by
  obtain ⟨m, hm⟩ := h.readStringFrom o
  refine ⟨m, ?_⟩
  rw [Json.readString, hm]
  rfl

/-! ## 3. Digits -/

/-- What is left does not start with a digit. -/
def Undigited (r : List Char) : Prop := ∀ c ∈ r.head?, isDigit c = false

/-- What is left does not start with a character that could belong to a number. -/
def Unnumbered (r : List Char) : Prop :=
  ∀ c ∈ r.head?, isDigit c = false ∧ c ≠ '.' ∧ c ≠ 'e' ∧ c ≠ 'E'

theorem Unnumbered.undigited (h : Unnumbered r) : Undigited r := fun c hc => (h c hc).1

theorem digits_sound (c : Cursor) : DigitsOf c.rest (digits c).1 (digits c).2.rest := by
  obtain ⟨cs, o⟩ := c
  have hdigits (cs : List Char) :
      DigitsOf cs ((cs.takeWhile isDigit).map digitValue) (cs.dropWhile isDigit) := by
    induction cs with
    | nil => exact .done []
    | cons x cs ih =>
      by_cases hx : isDigit x = true
      · rw [List.takeWhile_cons_of_pos hx, List.dropWhile_cons_of_pos hx, List.map_cons]
        exact .digit hx ih
      · rw [List.takeWhile_cons_of_neg hx, List.dropWhile_cons_of_neg hx]
        exact .done _
  exact hdigits cs

theorem DigitsOf.digits {ds : List Nat} (h : DigitsOf cs ds r) (hr : Undigited r) (o : Nat) :
    ∃ m, Json.digits ⟨cs, o⟩ = (ds, ⟨r, m⟩) := by
  induction h generalizing o with
  | done r =>
    cases r with
    | nil => exact ⟨o, rfl⟩
    | cons x r =>
      have hx : ¬ isDigit x = true := by rw [hr x rfl]; exact Bool.false_ne_true
      refine ⟨o, ?_⟩
      simp only [Json.digits, List.takeWhile_cons_of_neg hx, List.dropWhile_cons_of_neg hx]
      rfl
  | @digit x cs _ ds hx _ ih =>
    obtain ⟨m, hm⟩ := ih hr o
    simp only [Json.digits, Prod.mk.injEq, Cursor.mk.injEq] at hm
    refine ⟨o + ((x :: cs).takeWhile isDigit).length, ?_⟩
    simp only [Json.digits, List.takeWhile_cons_of_pos hx, List.dropWhile_cons_of_pos hx,
      List.map_cons, hm.1, hm.2.1]

/-- Digits that start with a digit are not empty. -/
theorem digits_cons {ds : List Nat} (h : isDigit x = true) (hd : DigitsOf (x :: cs) ds r)
    (hr : Undigited r) : ∃ es, ds = digitValue x :: es ∧ DigitsOf cs es r := by
  cases hd with
  | done =>
    rw [hr x rfl] at h
    cases h
  | digit _ rest => exact ⟨_, rfl, rest⟩

theorem undigited_digits (c : Cursor) : Undigited (digits c).2.rest := by
  intro x hx
  have hnot := List.head?_dropWhile_not isDigit c.rest
  have hrest : (c.rest.dropWhile isDigit).head? = some x := hx
  rw [hrest] at hnot
  exact hnot

/-! ## 4. The parts of a number -/

section

variable {f : Fault} {ds es : List Nat}

theorem wholePart_sound (h : wholePart f c = .ok (ds, d)) : WholeOf c.rest ds d.rest := by
  obtain ⟨cs, o⟩ := c
  cases cs with
  | nil => cases h
  | cons x r =>
    rw [wholePart] at h
    dsimp only at h
    split at h
    case isTrue hzero =>
      rw [hzero]
      split at h
      · split at h <;> cases h
        exact .zero _
      · cases h
        exact .zero _
    case isFalse hzero =>
      split at h
      case isTrue hx =>
        have hdigits := digits_sound ⟨x :: r, o⟩
        have hstop := undigited_digits ⟨x :: r, o⟩
        rw [Except.ok.inj h] at hdigits hstop
        obtain ⟨ds, rfl, hrest⟩ := digits_cons hx hdigits hstop
        exact .digits hx hzero hrest
      case isFalse => cases h

theorem WholeOf.start (h : WholeOf cs ds r) : ∃ x es, cs = x :: es ∧ isDigit x = true := by
  cases h with
  | zero => exact ⟨'0', r, rfl, rfl⟩
  | digits hx => exact ⟨_, _, rfl, hx⟩

theorem WholeOf.wholePart (h : WholeOf cs ds r) (hr : Undigited r) (f : Fault) (o : Nat) :
    ∃ m, Json.wholePart f ⟨cs, o⟩ = .ok (ds, ⟨r, m⟩) := by
  cases h with
  | zero =>
    refine ⟨o + 1, ?_⟩
    cases r with
    | nil => rfl
    | cons x r => simp [Json.wholePart, hr x rfl]
  | digits hx hzero rest =>
    obtain ⟨m, hm⟩ := (DigitsOf.digit hx rest).digits hr o
    exact ⟨m, by simp only [Json.wholePart, if_neg hzero, if_pos hx, hm]⟩

theorem fractionPart_sound {fraction : Option (List Nat)}
    (h : fractionPart f c = .ok (fraction, d)) : FractionOf c.rest fraction d.rest := by
  obtain ⟨cs, o⟩ := c
  rw [fractionPart] at h
  split at h
  case h_1 r hcs =>
    have hdigits := digits_sound ⟨r, o + 1⟩
    dsimp only at h hcs
    split at h
    case isTrue => split at h <;> cases h
    case isFalse hne =>
      cases h
      rw [hcs]
      exact .point hdigits (by simpa using hne)
  case h_2 =>
    cases h
    exact .absent _

theorem FractionOf.fractionPart {fraction : Option (List Nat)} (h : FractionOf cs fraction r)
    (hr : Undigited r) (hpoint : '.' ∉ r.head?) (f : Fault) (o : Nat) :
    ∃ m, Json.fractionPart f ⟨cs, o⟩ = .ok (fraction, ⟨r, m⟩) := by
  cases h with
  | absent =>
    refine ⟨o, ?_⟩
    unfold Json.fractionPart
    split
    case h_1 r' hr' =>
      dsimp only at hr'
      simp [hr'] at hpoint
    case h_2 => rfl
  | point digits ne_nil =>
    obtain ⟨m, hm⟩ := digits.digits hr (o + 1)
    refine ⟨m, ?_⟩
    simp only [Json.fractionPart, hm, List.isEmpty_iff, if_neg ne_nil]

theorem exponentDigits_sound {negative : Bool} {e : Option Exponent}
    (h : exponentDigits f negative c = .ok (e, d)) :
    ∃ ds o, e = some ⟨negative, ds, o⟩ ∧ DigitsOf c.rest ds d.rest ∧ ds ≠ [] := by
  obtain ⟨cs, o⟩ := c
  cases cs with
  | nil => cases h
  | cons x r =>
    rw [exponentDigits] at h
    dsimp only at h
    split at h
    case isTrue hx =>
      cases h
      have hdigits := digits_sound ⟨x :: r, o⟩
      obtain ⟨ds, hds, -⟩ := digits_cons hx hdigits (undigited_digits ⟨x :: r, o⟩)
      exact ⟨_, _, rfl, hdigits, by rw [hds]; exact List.cons_ne_nil _ _⟩
    case isFalse => cases h

theorem DigitsOf.exponentDigits (h : DigitsOf cs es r) (hne : es ≠ []) (hr : Undigited r)
    (f : Fault) (negative : Bool) (o : Nat) :
    ∃ m n, Json.exponentDigits f negative ⟨cs, o⟩ = .ok (some ⟨negative, es, n⟩, ⟨r, m⟩) := by
  obtain ⟨m, hm⟩ := h.digits hr o
  cases h with
  | done => exact absurd rfl hne
  | digit hx _ => exact ⟨m, o, by simp only [Json.exponentDigits, if_pos hx, hm]⟩

theorem exponentPart_sound {e : Option Exponent} (h : exponentPart f c = .ok (e, d)) :
    ExponentOf c.rest (e.map Exponent.sense) d.rest := by
  obtain ⟨cs, o⟩ := c
  cases cs with
  | nil =>
    cases h
    exact .absent []
  | cons x r =>
    rw [exponentPart] at h
    dsimp only at h
    split at h
    case isTrue hmark =>
      have hx : x = 'e' ∨ x = 'E' := by simpa using hmark
      split at h
      case h_1 =>
        obtain ⟨ds, n, rfl, hdigits, hne⟩ := exponentDigits_sound h
        exact .mark hx (.plus _) hdigits hne
      case h_2 =>
        obtain ⟨ds, n, rfl, hdigits, hne⟩ := exponentDigits_sound h
        exact .mark hx (.minus _) hdigits hne
      case h_3 =>
        obtain ⟨ds, n, rfl, hdigits, hne⟩ := exponentDigits_sound h
        exact .mark hx (.absent _) hdigits hne
    case isFalse =>
      cases h
      exact .absent _

theorem ExponentOf.exponentPart {e : Option (Bool × List Nat)} (h : ExponentOf cs e r)
    (hr : Unnumbered r) (f : Fault) (o : Nat) :
    ∃ e' m, Json.exponentPart f ⟨cs, o⟩ = .ok (e', ⟨r, m⟩) ∧ e'.map Exponent.sense = e := by
  cases h with
  | absent =>
    refine ⟨none, o, ?_, rfl⟩
    cases cs with
    | nil => rfl
    | cons x r =>
      obtain ⟨-, -, he, hE⟩ := hr x rfl
      simp [Json.exponentPart, he, hE]
  | @mark x _ _ _ _ _ hx sign digits ne_nil =>
    have hmark : (x = 'e' || x = 'E') = true := by simpa using hx
    cases sign with
    | absent =>
      obtain ⟨m, n, hm⟩ := digits.exponentDigits ne_nil hr.undigited f false (o + 1)
      refine ⟨some ⟨false, _, n⟩, m, ?_, rfl⟩
      -- neither sign is a digit
      cases digits with
      | done => exact absurd rfl ne_nil
      | @digit y _ _ _ hy _ =>
        have hplus : y ≠ '+' := ne_of_isDigit hy rfl
        have hminus : y ≠ '-' := ne_of_isDigit hy rfl
        simp only [Json.exponentPart, hmark, if_true]
        split
        case h_1 heq => exact absurd (List.cons.inj heq).1 hplus
        case h_2 heq => exact absurd (List.cons.inj heq).1 hminus
        case h_3 => exact hm
    | plus =>
      obtain ⟨m, n, hm⟩ := digits.exponentDigits ne_nil hr.undigited f false (o + 2)
      refine ⟨some ⟨false, _, n⟩, m, ?_, rfl⟩
      simp only [Json.exponentPart, hmark, if_true, hm]
    | minus =>
      obtain ⟨m, n, hm⟩ := digits.exponentDigits ne_nil hr.undigited f true (o + 2)
      refine ⟨some ⟨true, _, n⟩, m, ?_, rfl⟩
      simp only [Json.exponentPart, hmark, if_true, hm]

/-- An exponent does not start with a digit, nor with a point. -/
theorem ExponentOf.start {e : Option (Bool × List Nat)} (h : ExponentOf cs e r)
    (hr : Unnumbered r) : Undigited cs ∧ '.' ∉ cs.head? := by
  cases h with
  | absent => exact ⟨hr.undigited, fun hpoint => (hr '.' hpoint).2.1 rfl⟩
  | mark hx _ _ _ =>
    rcases hx with rfl | rfl
    · exact ⟨by rintro c ⟨⟩; rfl, by simp⟩
    · exact ⟨by rintro c ⟨⟩; rfl, by simp⟩

theorem FractionOf.start {fraction : Option (List Nat)} (h : FractionOf cs fraction r)
    (hr : Undigited r) : Undigited cs := by
  cases h with
  | absent => exact hr
  | point =>
    rintro c ⟨⟩
    rfl

end

/-! ## 5. Numbers -/

theorem readNumeral_sound {f : Fault} {negative : Bool} {n : Numeral}
    (h : readNumeral f negative c = .ok (n, d)) :
    NumeralOf c.rest n d.rest ∧ n.negative = negative := by
  obtain ⟨⟨whole, c₁⟩, hwhole, h⟩ := bind_eq_ok h
  obtain ⟨⟨fraction, c₂⟩, hfraction, h⟩ := bind_eq_ok h
  obtain ⟨⟨exponent, c₃⟩, hexponent, h⟩ := bind_eq_ok h
  cases h
  exact ⟨.mk (wholePart_sound hwhole) (fractionPart_sound hfraction)
    (exponentPart_sound hexponent), rfl⟩

/-- A number in range is the value of its numeral, wherever it ends. -/
theorem Numeral.value_eq_ok_iff {x : Numeral} {o : Nat} {n : Number} :
    x.value o = .ok n ↔ x.number? = some n := by
  simp only [Numeral.value, Numeral.number?]
  cases x.whole? with
  | some k => simp
  | none =>
    obtain ⟨m, e⟩ := x.significand
    cases x.exponent with
    | none =>
      dsimp only
      cases scaled m e <;> simp [faultAt]
    | some ex =>
      dsimp only
      cases exponentValue ex.digits with
      | ok k =>
        dsimp only
        cases scaled m (if ex.negative then e - k else e + k) <;> simp [faultAt]
      | error taken =>
        dsimp only
        split <;> simp [faultAt]

/-- Where an exponent stands does not matter to the number. -/
theorem Numeral.number?_congr {x y : Numeral} (hsign : x.negative = y.negative)
    (hwhole : x.whole = y.whole) (hfraction : x.fraction = y.fraction)
    (hexponent : x.exponent.map Exponent.sense = y.exponent.map Exponent.sense) :
    x.number? = y.number? := by
  obtain ⟨negative, whole, fraction, e⟩ := x
  obtain ⟨negative', whole', fraction', e'⟩ := y
  dsimp only at hsign hwhole hfraction hexponent
  subst hsign hwhole hfraction
  cases e <;> cases e'
  case none.none => rfl
  case none.some => cases hexponent
  case some.none => cases hexponent
  case some.some a b =>
    obtain ⟨sign, ds, o⟩ := a
    obtain ⟨sign', ds', o'⟩ := b
    cases hexponent
    rfl

theorem NumeralOf.readNumeral {n : Numeral} (h : NumeralOf cs n r) (hr : Unnumbered r) (f : Fault)
    (o : Nat) : ∃ n' m, Json.readNumeral f n.negative ⟨cs, o⟩ = .ok (n', ⟨r, m⟩) ∧
      n'.negative = n.negative ∧ n'.whole = n.whole ∧ n'.fraction = n.fraction ∧
      n'.exponent.map Exponent.sense = n.exponent.map Exponent.sense := by
  cases h with
  | mk whole fraction exponent =>
    obtain ⟨hundigited, hpoint⟩ := exponent.start hr
    obtain ⟨m₁, h₁⟩ := whole.wholePart (fraction.start hundigited) f o
    obtain ⟨m₂, h₂⟩ := fraction.fractionPart hundigited hpoint f m₁
    obtain ⟨e, m₃, h₃, he⟩ := exponent.exponentPart hr f m₂
    refine ⟨⟨n.negative, n.whole, n.fraction, e⟩, m₃, ?_, rfl, rfl, rfl, he⟩
    simp only [Json.readNumeral, h₁, ok_bind, h₂, h₃]
    rfl

theorem readNumber_sound {negative : Bool} {n : Number} (h : readNumber negative c = .ok (n, d)) :
    ∃ x, NumeralOf c.rest x d.rest ∧ x.negative = negative ∧ x.number? = some n := by
  obtain ⟨⟨x, e⟩, hnumeral, h⟩ := bind_eq_ok h
  obtain ⟨v, hvalue, h⟩ := bind_eq_ok h
  cases h
  obtain ⟨hx, hsign⟩ := readNumeral_sound hnumeral
  exact ⟨x, hx, hsign, Numeral.value_eq_ok_iff.mp hvalue⟩

theorem NumeralOf.readNumber {x : Numeral} {n : Number} (h : NumeralOf cs x r)
    (hvalue : x.number? = some n) (hr : Unnumbered r) (o : Nat) :
    ∃ m, Json.readNumber x.negative ⟨cs, o⟩ = .ok (n, ⟨r, m⟩) := by
  obtain ⟨y, m, hy, hsign, hwhole, hfraction, hexponent⟩ := h.readNumeral hr .endOfValue o
  rw [← Numeral.number?_congr hsign hwhole hfraction hexponent] at hvalue
  refine ⟨m, ?_⟩
  simp only [Json.readNumber, hy, ok_bind, Numeral.value_eq_ok_iff.mpr hvalue]
  rfl

end ReceiptPrinting.Json
