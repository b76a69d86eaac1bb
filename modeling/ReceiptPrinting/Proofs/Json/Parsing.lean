import ReceiptPrinting.Proofs.Json.Scanning

/-!
# Exactly the grammar is read

A text is read as a value exactly if it is a spelling of that value. One direction follows the
reader: what it has taken from the text is what the grammar says. The other follows the spelling; it
has to know two things more: what stands behind a number cannot belong to it, and the budget lasts,
since every value has a character.

* `within_sound`: what is read is spelled;
* `Spells.leaves`: every value has a character;
* `Spells.unnumbered_items`, `Spells.unnumbered_members`: what follows a value is no part of a
  number;
* `Spells.reads`: what is spelled is read;
* **`parse_eq_ok_iff`**: the texts that are JSON, and the values they are read as.
-/

namespace ReceiptPrinting.Json

variable {c d : Cursor} {cs ds r : List Char} {x : Char} {v : Value}

/-! ## 1. What is read is spelled -/

theorem Spells.blanks {depth : Nat} (hb : Blanks cs ds) (h : Spells depth ds (.value v) r) :
    Spells depth cs (.value v) r := by
  induction hb with
  | done => exact h
  | skip blank _ ih => exact .blank blank (ih h)

/-- What the head of a value says about the text. -/
def Head.Sound (c : Cursor) : Head → Prop
  | .scalar f d => ∀ depth, Spells depth c.rest (.value f.value) d.rest
  | .list d => Blanks c.rest ('[' :: d.rest)
  | .object d => Blanks c.rest ('\x7b' :: d.rest)

/-- Behind its first letter, a word stands letter by letter. -/
theorem blanks_word {ws : List Char} {o : Nat} (hblanks : Blanks cs (x :: r))
    (hword : word ws ⟨r, o⟩ = .ok d) : Blanks cs (x :: (ws ++ d.rest)) := by
  have hrest : r = ws ++ d.rest := word_sound hword
  rwa [hrest] at hblanks

theorem head_sound {h : Head} (hhead : head c = .ok h) : h.Sound c := by
  have hblanks := (skipBlanks_sound c).1
  simp only [head] at hhead
  generalize c.skipBlanks = e at hhead hblanks
  obtain ⟨rest, o⟩ := e
  dsimp only at hhead hblanks
  split at hhead
  case h_1 => cases hhead
  case h_2 x r =>
    -- one case for each character that a value can start with
    split at hhead
    case isTrue hx =>
      obtain ⟨d, hword, hhead⟩ := bind_eq_ok hhead
      cases hhead
      rw [hx] at hblanks
      exact fun depth => .blanks (blanks_word hblanks hword) (.null depth d.rest)
    split at hhead
    case isTrue hx =>
      obtain ⟨d, hword, hhead⟩ := bind_eq_ok hhead
      cases hhead
      rw [hx] at hblanks
      exact fun depth => .blanks (blanks_word hblanks hword) (.yes depth d.rest)
    split at hhead
    case isTrue hx =>
      obtain ⟨d, hword, hhead⟩ := bind_eq_ok hhead
      cases hhead
      rw [hx] at hblanks
      exact fun depth => .blanks (blanks_word hblanks hword) (.no depth d.rest)
    split at hhead
    case isTrue hx =>
      obtain ⟨⟨s, d⟩, hstring, hhead⟩ := bind_eq_ok hhead
      cases hhead
      obtain ⟨xs, rfl, hxs⟩ := readString_sound hstring
      rw [hx] at hblanks
      exact fun depth => .blanks hblanks (.string depth hxs)
    split at hhead
    case isTrue hx =>
      obtain ⟨⟨n, d⟩, hnumber, hhead⟩ := bind_eq_ok hhead
      cases hhead
      obtain ⟨y, hy, hsign, hn⟩ := readNumber_sound hnumber
      rw [hx] at hblanks
      exact fun depth => .blanks hblanks (.number depth (.minus hy hsign hn))
    split at hhead
    case isTrue hx =>
      obtain ⟨⟨n, d⟩, hnumber, hhead⟩ := bind_eq_ok hhead
      cases hhead
      obtain ⟨y, hy, hsign, hn⟩ := readNumber_sound hnumber
      exact fun depth => .blanks hblanks (.number depth (.plain hy hsign hn))
    split at hhead
    case isTrue hx =>
      cases hhead
      rw [hx] at hblanks
      exact hblanks
    split at hhead
    case isTrue hx =>
      cases hhead
      rw [hx] at hblanks
      exact hblanks
    case isFalse => cases hhead

theorem closeList_sound (h : closeList c = .ok d) : Blanks c.rest (']' :: d.rest) := by
  have hblanks := (skipBlanks_sound c).1
  simp only [closeList] at h
  split at h
  case h_1 r hr =>
    cases h
    rwa [hr] at hblanks
  case h_2 => split at h <;> cases h
  case h_3 => cases h
  case h_4 => cases h

theorem closeObject_sound (h : closeObject c = .ok d) : Blanks c.rest ('\x7d' :: d.rest) := by
  have hblanks := (skipBlanks_sound c).1
  simp only [closeObject] at h
  split at h
  case h_1 r hr =>
    cases h
    rwa [hr] at hblanks
  all_goals cases h

/-- Before the next item stand blanks and, unless it is the first, a comma. -/
theorem nextItem_sound {first : Bool} (h : nextItem first c = .ok (some d)) :
    ∃ ds, Blanks c.rest (comma first ++ ds) ∧ Blanks ds d.rest := by
  have hblanks := (skipBlanks_sound c).1
  simp only [nextItem] at h
  split at h
  case h_1 => cases h
  case h_2 => cases h
  case h_3 x r _ hr =>
    split at h
    case isTrue hfirst =>
      cases h
      exact ⟨_, by rw [hfirst]; exact hblanks, .done _⟩
    case isFalse hfirst =>
      split at h
      case isTrue hx =>
        have hcomma := (skipBlanks_sound ⟨r, c.skipBlanks.offset + 1⟩).1
        rw [hr, hx] at hblanks
        rw [Bool.not_eq_true] at hfirst
        split at h
        case h_1 => cases h
        case h_2 => cases h
        case h_3 =>
          cases h
          exact ⟨r, by rw [hfirst]; exact hblanks, hcomma⟩
      case isFalse => cases h

/-- Before the next name stand blanks, a comma unless it is the first, blanks and a quote. -/
theorem nextName_sound {first : Bool} (h : nextName first c = .ok (some d)) :
    ∃ ds, Blanks c.rest (comma first ++ ds) ∧ Blanks ds ('"' :: d.rest) := by
  have hblanks := (skipBlanks_sound c).1
  simp only [nextName] at h
  split at h
  case h_1 => cases h
  case h_2 => cases h
  case h_3 x r _ hr =>
    split at h
    case isTrue hfirst =>
      split at h
      case isTrue hx =>
        cases h
        rw [hr, hx] at hblanks
        exact ⟨_, by rw [hfirst]; exact hblanks, .done _⟩
      case isFalse => cases h
    case isFalse hfirst =>
      rw [Bool.not_eq_true] at hfirst
      split at h
      case isTrue hx =>
        have hcomma := (skipBlanks_sound ⟨r, c.skipBlanks.offset + 1⟩).1
        rw [hr, hx] at hblanks
        split at h
        case h_1 hquote =>
          cases h
          rw [hquote] at hcomma
          exact ⟨r, by rw [hfirst]; exact hblanks, hcomma⟩
        all_goals cases h
      case isFalse => cases h

theorem enter_sound {depth n e : Nat} (h : enter depth n = .ok e) :
    depth - 1 = e - 1 + 1 ∧ e = depth - 1 := by
  rw [enter] at h
  split at h
  case isTrue => cases h
  case isFalse hdepth =>
    cases h
    omega

/-- **What is read is spelled.** The induction is on the budget, over the three readers at once. -/
theorem within_sound (k : Nat) :
    (∀ {depth : Nat} {c d : Cursor} {v : Value}, valueWithin k depth c = .ok (v, d) →
      Spells (depth - 1) c.rest (.value v) d.rest) ∧
    (∀ {depth : Nat} {first : Bool} {c d : Cursor} {vs : List Value},
      itemsWithin k depth first c = .ok (vs, d) →
      Spells (depth - 1) c.rest (.items first vs) (']' :: d.rest)) ∧
    (∀ {depth : Nat} {first : Bool} {acc ms : Members} {c d : Cursor},
      membersWithin k depth first acc c = .ok (ms, d) →
      ∃ ns, ms = putMembers ns acc ∧
        Spells (depth - 1) c.rest (.members first ns) ('\x7d' :: d.rest)) := by
  induction k with
  | zero => exact ⟨nofun, nofun, nofun⟩
  | succ k ih =>
    obtain ⟨ihValue, ihItems, ihMembers⟩ := ih
    refine ⟨fun {depth c d v} h => ?value, fun {depth first c d vs} h => ?items,
      fun {depth first acc ms c d} h => ?members⟩
    case value =>
      rw [valueWithin] at h
      obtain ⟨h', hhead, h⟩ := bind_eq_ok h
      have hsound := head_sound hhead
      cases h' with
      | scalar f e =>
        cases h
        exact hsound _
      | list e =>
        obtain ⟨depth', henter, h⟩ := bind_eq_ok h
        obtain ⟨⟨vs, e'⟩, hitems, h⟩ := bind_eq_ok h
        cases h
        obtain ⟨hdepth, -⟩ := enter_sound henter
        rw [hdepth]
        exact .blanks hsound (.array (ihItems hitems))
      | object e =>
        obtain ⟨depth', henter, h⟩ := bind_eq_ok h
        obtain ⟨⟨ms, e'⟩, hmembers, h⟩ := bind_eq_ok h
        cases h
        obtain ⟨hdepth, -⟩ := enter_sound henter
        obtain ⟨ns, rfl, hns⟩ := ihMembers hmembers
        rw [hdepth]
        exact .blanks hsound (.object hns)
    case items =>
      rw [itemsWithin] at h
      obtain ⟨next, hnext, h⟩ := bind_eq_ok h
      cases next with
      | none =>
        obtain ⟨e, hclose, h⟩ := bind_eq_ok h
        cases h
        exact .noItem first (closeList_sound hclose)
      | some e =>
        obtain ⟨⟨w, e₁⟩, hvalue, h⟩ := bind_eq_ok h
        obtain ⟨⟨ws, e₂⟩, hrest, h⟩ := bind_eq_ok h
        cases h
        obtain ⟨ds, hcomma, hds⟩ := nextItem_sound hnext
        have hitem := Spells.blanks hds (ihValue hvalue)
        cases first with
        | true => exact .firstItem (.blanks hcomma hitem) (ihItems hrest)
        | false => exact .nextItem hcomma hitem (ihItems hrest)
    case members =>
      rw [membersWithin] at h
      obtain ⟨next, hnext, h⟩ := bind_eq_ok h
      cases next with
      | none =>
        obtain ⟨e, hclose, h⟩ := bind_eq_ok h
        cases h
        exact ⟨[], rfl, .noMember first (closeObject_sound hclose)⟩
      | some e =>
        obtain ⟨⟨name, e₁⟩, hname, h⟩ := bind_eq_ok h
        obtain ⟨e₂, hcolon, h⟩ := bind_eq_ok h
        obtain ⟨⟨w, e₃⟩, hvalue, h⟩ := bind_eq_ok h
        obtain ⟨ds, hcomma, hquote⟩ := nextName_sound hnext
        obtain ⟨xs, rfl, hxs⟩ := readString_sound hname
        obtain ⟨ns, rfl, hns⟩ := ihMembers h
        exact ⟨(String.ofList xs, w) :: ns, rfl,
          .member first hcomma hquote hxs (colon_sound hcolon) (ihValue hvalue) hns⟩

/-! ## 2. What is left behind a part -/

theorem Blanks.length_le (h : Blanks cs r) : r.length ≤ cs.length := by
  induction h with
  | done => exact Nat.le_refl _
  | skip _ _ ih => exact Nat.le_succ_of_le ih

theorem Quad.length_eq {u : Nat} (h : Quad cs u r) : cs.length = r.length + 4 := by
  cases h
  rfl

theorem CharOf.length_lt (h : CharOf cs x r) : r.length < cs.length := by
  cases h with
  | plain => exact Nat.lt_succ_self _
  | sign =>
    simp only [List.length_cons]
    omega
  | code quad =>
    have hquad := quad.length_eq
    simp only [List.length_cons]
    omega
  | pair first second =>
    have hfirst := first.length_eq
    have hsecond := second.length_eq
    simp only [List.length_cons] at hfirst ⊢
    omega

theorem StringOf.length_lt {xs : List Char} (h : StringOf cs xs r) : r.length < cs.length := by
  induction h with
  | done => exact Nat.lt_succ_self _
  | char head _ ih => exact Nat.lt_trans ih head.length_lt

theorem DigitsOf.length_le {es : List Nat} (h : DigitsOf cs es r) : r.length ≤ cs.length := by
  induction h with
  | done => exact Nat.le_refl _
  | digit _ _ ih => exact Nat.le_succ_of_le ih

theorem WholeOf.length_lt {es : List Nat} (h : WholeOf cs es r) : r.length < cs.length := by
  cases h with
  | zero => exact Nat.lt_succ_self _
  | digits _ _ rest => exact Nat.lt_succ_of_le rest.length_le

theorem FractionOf.length_le {fraction : Option (List Nat)} (h : FractionOf cs fraction r) :
    r.length ≤ cs.length := by
  cases h with
  | absent => exact Nat.le_refl _
  | point digits => exact Nat.le_succ_of_le digits.length_le

theorem SignOf.length_le {negative : Bool} (h : SignOf cs negative r) : r.length ≤ cs.length := by
  cases h <;> simp

theorem ExponentOf.length_le {e : Option (Bool × List Nat)} (h : ExponentOf cs e r) :
    r.length ≤ cs.length := by
  cases h with
  | absent => exact Nat.le_refl _
  | mark _ sign digits =>
    exact Nat.le_succ_of_le (Nat.le_trans digits.length_le sign.length_le)

theorem NumeralOf.length_lt {y : Numeral} (h : NumeralOf cs y r) : r.length < cs.length := by
  cases h with
  | mk whole fraction exponent =>
    have hfraction := fraction.length_le
    have hexponent := exponent.length_le
    exact Nat.lt_of_le_of_lt (Nat.le_trans hexponent hfraction) whole.length_lt

theorem NumberOf.length_lt {n : Number} (h : NumberOf cs n r) : r.length < cs.length := by
  cases h with
  | plain numeral => exact numeral.length_lt
  | minus numeral => exact Nat.lt_succ_of_lt numeral.length_lt

/-- What is left behind a phrase: less than before, if it is a value. -/
def Phrase.Leaves : Phrase → List Char → List Char → Prop
  | .value _, cs, r => r.length < cs.length
  | .items _ _, cs, r | .members _ _, cs, r => r.length ≤ cs.length

/-- **Every value has a character.** -/
theorem Spells.leaves {depth : Nat} {p : Phrase} (h : Spells depth cs p r) : p.Leaves cs r := by
  induction h with
  | blank _ _ ih => exact Nat.lt_succ_of_lt ih
  | null | yes | no =>
    simp only [Phrase.Leaves, List.length_cons]
    omega
  | number _ h => exact h.length_lt
  | string _ h => exact Nat.lt_succ_of_lt h.length_lt
  | array _ ih | object _ ih =>
    simp only [Phrase.Leaves, List.length_cons] at ih ⊢
    omega
  | noItem _ blanks | noMember _ blanks => exact blanks.length_le
  | firstItem _ _ item rest => exact Nat.le_trans rest (Nat.le_of_lt item)
  | nextItem comma _ _ item rest =>
    have hcomma := comma.length_le
    simp only [Phrase.Leaves, List.length_cons] at hcomma item rest ⊢
    omega
  | member first comma quote name colon _ _ value rest =>
    have hcomma := comma.length_le
    have hquote := quote.length_le
    have hname := name.length_lt
    have hcolon := colon.length_le
    simp only [Phrase.Leaves, List.length_cons, List.length_append]
      at hcomma hquote hcolon value rest ⊢
    omega

theorem unnumbered_nil : Unnumbered [] := nofun

/-- Neither a blank nor a sign between values could belong to a number. -/
theorem Blanks.unnumbered (h : Blanks cs r) (hr : Unnumbered r) : Unnumbered cs := by
  cases h with
  | done => exact hr
  | @skip y _ _ blank _ =>
    rintro c ⟨⟩
    simp only [isBlank, Bool.or_eq_true, beq_iff_eq] at blank
    rcases blank with ((rfl | rfl) | rfl) | rfl <;> exact ⟨rfl, by decide, by decide, by decide⟩

theorem unnumbered_cons (h : x = ',' ∨ x = ']' ∨ x = '\x7d') (r : List Char) :
    Unnumbered (x :: r) := by
  rintro c ⟨⟩
  rcases h with rfl | rfl | rfl <;> exact ⟨rfl, by decide, by decide, by decide⟩

/-- What follows a value within a list cannot belong to a number. -/
theorem Spells.unnumbered_items {depth : Nat} {vs : List Value}
    (h : Spells depth cs (.items false vs) (']' :: r)) : Unnumbered cs := by
  cases h with
  | noItem _ blanks => exact blanks.unnumbered (unnumbered_cons (.inr (.inl rfl)) _)
  | nextItem comma => exact comma.unnumbered (unnumbered_cons (.inl rfl) _)

/-- What follows a value within an object cannot belong to a number. -/
theorem Spells.unnumbered_members {depth : Nat} {ms : Members}
    (h : Spells depth cs (.members false ms) ('\x7d' :: r)) : Unnumbered cs := by
  cases h with
  | noMember _ blanks => exact blanks.unnumbered (unnumbered_cons (.inr (.inr rfl)) _)
  | member _ comma => exact comma.unnumbered (unnumbered_cons (.inl rfl) _)

/-! ## 3. What is spelled is read -/

/-- Blanks before a value do not matter. -/
theorem head_skipBlanks (c : Cursor) : head c.skipBlanks = head c := by
  rw [head, head, skipBlanks_skipBlanks]

theorem valueWithin_skipBlanks (k depth : Nat) (c : Cursor) :
    valueWithin (k + 1) depth c.skipBlanks = valueWithin (k + 1) depth c := by
  rw [valueWithin, valueWithin, head_skipBlanks]

theorem valueWithin_cons_blank (h : isBlank x = true) (k depth : Nat) (r : List Char) (o : Nat) :
    valueWithin (k + 1) depth ⟨x :: r, o⟩ = valueWithin (k + 1) depth ⟨r, o + 1⟩ := by
  rw [← valueWithin_skipBlanks, skipBlanks_cons_blank h, valueWithin_skipBlanks]

/-- Behind its blanks a value starts with a character that does not end a list. -/
theorem Spells.start {depth : Nat} (h : Spells depth cs (.value v) r) :
    ∃ x ds, Blanks cs (x :: ds) ∧ isBlank x = false ∧ x ≠ ']' := by
  generalize hp : Phrase.value v = p at h
  induction h with
  | blank blank _ ih =>
    obtain ⟨x, ds, hblanks, hx⟩ := ih hp
    exact ⟨x, ds, .skip blank hblanks, hx⟩
  | null | yes | no | string | array | object => exact ⟨_, _, .done _, rfl, by decide⟩
  | number _ h =>
    cases h with
    | minus => exact ⟨_, _, .done _, rfl, by decide⟩
    | plain numeral =>
      obtain ⟨whole, -, -⟩ := numeral
      obtain ⟨x, ds, rfl, hx⟩ := whole.start
      exact ⟨x, ds, .done _, isBlank_of_isDigit hx, ne_of_isDigit hx rfl⟩
  | noItem | firstItem | nextItem | noMember | member => cases hp

/-- The next item of a list is where its blanks begin, unless it is the first: then a comma comes
    before it. -/
theorem nextItem_of_spells {depth : Nat} {first : Bool} (h : Spells depth ds (.value v) r)
    (hcomma : Blanks cs (comma first ++ ds)) (o : Nat) :
    ∃ m, nextItem first ⟨cs, o⟩ = .ok (some (Cursor.skipBlanks ⟨ds, m⟩)) := by
  obtain ⟨x, es, hblanks, hblank, hclose⟩ := h.start
  cases first with
  | true =>
    obtain ⟨m, hm⟩ := hcomma.skipBlanks_eq o
    obtain ⟨n, hn⟩ := hblanks.skipBlanks (unblank_cons hblank es) m
    refine ⟨m, ?_⟩
    simp only [comma, if_true, List.nil_append] at hm
    simp only [nextItem, hm, hn, if_true]
  | false =>
    have hcomma : Blanks cs (',' :: ds) := hcomma
    obtain ⟨m, hm⟩ := hcomma.skipBlanks (unblank_cons rfl ds) o
    obtain ⟨n, hn⟩ := hblanks.skipBlanks (unblank_cons hblank es) (m + 1)
    refine ⟨m + 1, ?_⟩
    have hne : (',' : Char) ≠ ']' := by decide
    simp only [nextItem, hm, Bool.false_eq_true, if_false, if_true, hn]
    split
    case h_1 heq => exact absurd (List.cons.inj heq).1 hclose
    case h_2 heq => cases heq
    case h_3 => rfl

/-- The next name of an object is behind its quote. -/
theorem nextName_of_blanks {first : Bool} (hcomma : Blanks cs (comma first ++ ds))
    (hquote : Blanks ds ('"' :: r)) (o : Nat) :
    ∃ m, nextName first ⟨cs, o⟩ = .ok (some ⟨r, m⟩) := by
  cases first with
  | true =>
    obtain ⟨m, hm⟩ := hcomma.skipBlanks_eq o
    obtain ⟨n, hn⟩ := hquote.skipBlanks (unblank_cons rfl r) m
    refine ⟨n + 1, ?_⟩
    simp only [comma, if_true, List.nil_append] at hm
    simp only [nextName, hm, hn]
    rfl
  | false =>
    have hcomma : Blanks cs (',' :: ds) := hcomma
    obtain ⟨m, hm⟩ := hcomma.skipBlanks (unblank_cons rfl ds) o
    obtain ⟨n, hn⟩ := hquote.skipBlanks (unblank_cons rfl r) (m + 1)
    refine ⟨n + 1, ?_⟩
    have hne : (',' : Char) ≠ '\x7d' := by decide
    simp only [nextName, hm, Bool.false_eq_true, if_false, if_true, hn]

/-- The end of a list is seen before its bracket is read. -/
theorem close_of_list (h : Blanks cs (']' :: r)) (first : Bool) (o : Nat) :
    nextItem first ⟨cs, o⟩ = .ok none ∧ ∃ m, closeList ⟨cs, o⟩ = .ok ⟨r, m⟩ := by
  obtain ⟨m, hm⟩ := h.skipBlanks (unblank_cons rfl r) o
  exact ⟨by simp only [nextItem, hm], m + 1, by simp only [closeList, hm]⟩

/-- The end of an object is seen before its brace is read. -/
theorem close_of_object (h : Blanks cs ('\x7d' :: r)) (first : Bool) (o : Nat) :
    nextName first ⟨cs, o⟩ = .ok none ∧ ∃ m, closeObject ⟨cs, o⟩ = .ok ⟨r, m⟩ := by
  obtain ⟨m, hm⟩ := h.skipBlanks (unblank_cons rfl r) o
  exact ⟨by simp only [nextName, hm], m + 1, by simp only [closeObject, hm]⟩

/-- A number is known by its first character. -/
theorem head_number {n : Number} (h : NumberOf cs n r) (hr : Unnumbered r) (o : Nat) :
    ∃ m, head ⟨cs, o⟩ = .ok (.scalar (.number n) ⟨r, m⟩) := by
  cases h with
  | @plain _ _ x _ numeral sign value =>
    obtain ⟨m, hm⟩ := numeral.readNumber value hr o
    obtain ⟨whole, -, -⟩ := numeral
    obtain ⟨y, ds, rfl, hy⟩ := whole.start
    refine ⟨m, ?_⟩
    rw [sign] at hm
    simp only [head, skipBlanks_cons ds o (isBlank_of_isDigit hy),
      if_neg (ne_of_isDigit hy (d := 'n') rfl), if_neg (ne_of_isDigit hy (d := 't') rfl),
      if_neg (ne_of_isDigit hy (d := 'f') rfl), if_neg (ne_of_isDigit hy (d := '"') rfl),
      if_neg (ne_of_isDigit hy (d := '-') rfl), if_pos hy, hm]
    rfl
  | minus numeral sign value =>
    obtain ⟨m, hm⟩ := numeral.readNumber value hr (o + 1)
    refine ⟨m, ?_⟩
    rw [sign] at hm
    rw [head, skipBlanks_cons _ o rfl]
    simp only [Char.reduceEq, if_false, if_true, hm]
    rfl

/-- What a spelling promises to the reader: with one level of brackets more than are open, and with
    a budget that lasts for the text, the part is read up to what is left. -/
def Phrase.Read (depth : Nat) (cs r : List Char) : Phrase → Prop
  | .value v => Unnumbered r → ∀ (o k : Nat), 2 * cs.length ≤ k →
      ∃ m, valueWithin (k + 1) (depth + 1) ⟨cs, o⟩ = .ok (v, ⟨r, m⟩)
  | .items first vs => ∀ r', r = ']' :: r' → ∀ (o k : Nat), 2 * cs.length + 1 ≤ k →
      ∃ m, itemsWithin (k + 1) (depth + 1) first ⟨cs, o⟩ = .ok (vs, ⟨r', m⟩)
  | .members first ms => ∀ r', r = '\x7d' :: r' → ∀ (acc : Members) (o k : Nat),
      2 * cs.length + 1 ≤ k →
      ∃ m, membersWithin (k + 1) (depth + 1) first acc ⟨cs, o⟩ =
        .ok (putMembers ms acc, ⟨r', m⟩)

/-- One item more is read. -/
theorem itemsWithin_of_spells {depth k : Nat} {first : Bool} {vs : List Value} {es : List Char}
    (hcomma : Blanks cs (comma first ++ ds)) (h : Spells depth ds (.value v) es)
    (rest : Spells depth es (.items false vs) (']' :: r))
    (hvalue : (Phrase.value v).Read depth ds es)
    (hrest : (Phrase.items false vs).Read depth es (']' :: r)) (o : Nat)
    (hk : 2 * cs.length + 1 ≤ k) :
    ∃ m, itemsWithin (k + 1) (depth + 1) first ⟨cs, o⟩ = .ok (v :: vs, ⟨r, m⟩) := by
  have hcs := hcomma.length_le
  have hds : es.length < ds.length := h.leaves
  rw [List.length_append] at hcs
  obtain ⟨k, rfl⟩ : ∃ j, k = j + 1 := ⟨k - 1, by omega⟩
  obtain ⟨m₁, h₁⟩ := nextItem_of_spells h hcomma o
  obtain ⟨m₂, h₂⟩ := hvalue rest.unnumbered_items m₁ k (by omega)
  obtain ⟨m₃, h₃⟩ := hrest r rfl m₂ k (by omega)
  refine ⟨m₃, ?_⟩
  rw [itemsWithin]
  simp only [h₁, ok_bind, valueWithin_skipBlanks, h₂, h₃]
  rfl

/-- One member more is read. -/
theorem membersWithin_of_spells {depth k : Nat} {first : Bool} {ms : Members}
    {es fs gs hs xs : List Char} (hcomma : Blanks cs (comma first ++ ds))
    (hquote : Blanks ds ('"' :: es)) (hname : StringOf es xs fs) (hcolon : Blanks fs (':' :: gs))
    (h : Spells depth gs (.value v) hs) (rest : Spells depth hs (.members false ms) ('\x7d' :: r))
    (hvalue : (Phrase.value v).Read depth gs hs)
    (hrest : (Phrase.members false ms).Read depth hs ('\x7d' :: r)) (acc : Members) (o : Nat)
    (hk : 2 * cs.length + 1 ≤ k) :
    ∃ m, membersWithin (k + 1) (depth + 1) first acc ⟨cs, o⟩ =
      .ok (putMembers ((String.ofList xs, v) :: ms) acc, ⟨r, m⟩) := by
  have hcs := hcomma.length_le
  have hds := hquote.length_le
  have hes := hname.length_lt
  have hfs := hcolon.length_le
  have hgs : hs.length < gs.length := h.leaves
  simp only [List.length_append, List.length_cons] at hcs hds hfs
  obtain ⟨k, rfl⟩ : ∃ j, k = j + 1 := ⟨k - 1, by omega⟩
  obtain ⟨m₁, h₁⟩ := nextName_of_blanks hcomma hquote o
  obtain ⟨m₂, h₂⟩ := hname.readString m₁
  obtain ⟨m₃, h₃⟩ := hcolon.colon m₂
  obtain ⟨m₄, h₄⟩ := hvalue rest.unnumbered_members m₃ k (by omega)
  obtain ⟨m₅, h₅⟩ := hrest r rfl (putMember (String.ofList xs) v acc) m₄ k (by omega)
  refine ⟨m₅, ?_⟩
  rw [membersWithin]
  simp only [h₁, h₂, h₃, h₄, h₅, ok_bind]
  rfl

/-- **What is spelled is read.** The induction is on the spelling. -/
theorem Spells.reads {depth : Nat} {p : Phrase} (h : Spells depth cs p r) : p.Read depth cs r := by
  induction h with
  | blank blank _ ih =>
    intro hr o k hk
    rw [List.length_cons] at hk
    rw [valueWithin_cons_blank blank]
    exact ih hr (o + 1) k (by omega)
  | null | yes => exact fun _ o k _ => ⟨o + 4, rfl⟩
  | no => exact fun _ o k _ => ⟨o + 5, rfl⟩
  | number d hn =>
    intro hr o k _
    obtain ⟨m, hm⟩ := head_number hn hr o
    refine ⟨m, ?_⟩
    simp only [valueWithin, hm, ok_bind]
    rfl
  | string d hs =>
    intro _ o k _
    obtain ⟨m, hm⟩ := hs.readString (o + 1)
    refine ⟨m, ?_⟩
    rw [valueWithin, head, skipBlanks_cons _ o rfl]
    simp only [Char.reduceEq, if_false, if_true, hm]
    rfl
  | @array d _ _ _ _ ih =>
    intro _ o k hk
    rw [List.length_cons] at hk
    obtain ⟨k, rfl⟩ : ∃ j, k = j + 1 := ⟨k - 1, by omega⟩
    obtain ⟨m, hm⟩ := ih _ rfl (o + 1) k (by omega)
    have henter : enter (d + 1 + 1) (o + 1) = .ok (d + 1) := enter_of_lt (by omega) _
    refine ⟨m, ?_⟩
    simp only [valueWithin, head_list, ok_bind, henter, hm]
    rfl
  | @object d _ _ _ _ ih =>
    intro _ o k hk
    rw [List.length_cons] at hk
    obtain ⟨k, rfl⟩ : ∃ j, k = j + 1 := ⟨k - 1, by omega⟩
    obtain ⟨m, hm⟩ := ih _ rfl [] (o + 1) k (by omega)
    have henter : enter (d + 1 + 1) (o + 1) = .ok (d + 1) := enter_of_lt (by omega) _
    refine ⟨m, ?_⟩
    simp only [valueWithin, head_object, ok_bind, henter, hm]
    rfl
  | noItem first blanks =>
    rintro r' rfl o k _
    obtain ⟨hnext, m, hclose⟩ := close_of_list blanks first o
    refine ⟨m, ?_⟩
    simp only [itemsWithin, hnext, ok_bind, hclose]
    rfl
  | firstItem item rest ihItem ihRest =>
    rintro r' rfl o k hk
    exact itemsWithin_of_spells (.done _) item rest ihItem ihRest o hk
  | nextItem hcomma item rest ihItem ihRest =>
    rintro r' rfl o k hk
    exact itemsWithin_of_spells hcomma item rest ihItem ihRest o hk
  | noMember first blanks =>
    rintro r' rfl acc o k _
    obtain ⟨hnext, m, hclose⟩ := close_of_object blanks first o
    refine ⟨m, ?_⟩
    simp only [membersWithin, hnext, ok_bind, hclose]
    rfl
  | member first hcomma hquote hname hcolon value rest ihValue ihRest =>
    rintro r' rfl acc o k hk
    exact membersWithin_of_spells hcomma hquote hname hcolon value rest ihValue ihRest acc o hk

/-! ## 4. Whole texts -/

theorem atEnd_eq_ok_iff : atEnd c = .ok () ↔ Blanks c.rest [] := by
  obtain ⟨hblanks, hunblank⟩ := skipBlanks_sound c
  constructor
  · intro h
    rw [atEnd] at h
    split at h
    case isTrue hempty =>
      rwa [List.isEmpty_iff.mp hempty] at hblanks
    case isFalse => cases h
  · intro h
    obtain ⟨rest, o⟩ := c
    obtain ⟨m, hm⟩ := h.skipBlanks unblank_nil o
    rw [atEnd, hm]
    rfl

/-- **A text is JSON exactly if it is a spelling of a value**, and it is read as that value. -/
theorem parse_eq_ok_iff {s : String} {v : Value} : parse s = .ok v ↔ Denotes s v := by
  constructor
  · intro h
    obtain ⟨⟨w, c⟩, hread, h⟩ := bind_eq_ok h
    obtain ⟨_, hend, h⟩ := bind_eq_ok h
    cases h
    exact ⟨c.rest, (within_sound _).1 hread, atEnd_eq_ok_iff.mp hend⟩
  · rintro ⟨r, hspells, hend⟩
    obtain ⟨m, hm⟩ := hspells.reads (hend.unnumbered unnumbered_nil) 0
      (2 * s.toList.length + 1) (Nat.le_succ _)
    have hend' : atEnd ⟨r, m⟩ = .ok () := atEnd_eq_ok_iff.mpr hend
    have hread : readValue maxDepth (.start s) = .ok (v, ⟨r, m⟩) := hm
    simp only [parse, hread, ok_bind, hend']
    rfl

/-- A text stands for one value at most. -/
theorem Denotes.unique {s : String} {v w : Value} (h : Denotes s v) (h' : Denotes s w) : v = w := by
  have hv := parse_eq_ok_iff.mpr h
  rw [parse_eq_ok_iff.mpr h'] at hv
  exact (Except.ok.inj hv).symm

/-! ## 5. Members in order -/

/-- The members of every object within the value are in the order of their names, each name once. -/
inductive Value.Ordered : Value → Prop where
  | null : Ordered .null
  | bool (b : Bool) : Ordered (.bool b)
  | number (n : Number) : Ordered (.number n)
  | string (s : String) : Ordered (.string s)
  | array {vs : List Value} (items : ∀ v ∈ vs, Ordered v) : Ordered (.array vs)
  | object {ms : Members} (sorted : ms.Pairwise fun a b => a.1 < b.1)
    (members : ∀ m ∈ ms, Ordered m.2) : Ordered (.object ms)

/-- A member that is put among others is one of them, and none comes to it. -/
theorem mem_of_mem_putMember {k : String} {v : Value} {ms : Members} {m : String × Value}
    (h : m ∈ putMember k v ms) : m = (k, v) ∨ m ∈ ms := by
  induction ms with
  | nil => exact .inl (List.mem_singleton.mp h)
  | cons n ms ih =>
    rw [putMember] at h
    split at h
    case isTrue =>
      rcases List.mem_cons.mp h with hm | hm
      · exact .inl hm
      · exact .inr (List.mem_cons_of_mem _ hm)
    case isFalse =>
      split at h
      case isTrue => exact List.mem_cons.mp h
      case isFalse =>
        rcases List.mem_cons.mp h with rfl | hm
        · exact .inr List.mem_cons_self
        · exact (ih hm).imp_right (List.mem_cons_of_mem _)

/-- Members that are in order stay so when one is put among them. -/
theorem pairwise_putMember (k : String) (v : Value) {ms : Members}
    (h : ms.Pairwise fun a b => a.1 < b.1) :
    (putMember k v ms).Pairwise fun a b => a.1 < b.1 := by
  induction ms with
  | nil => exact List.pairwise_singleton _ _
  | cons m ms ih =>
    obtain ⟨hm, hms⟩ := List.pairwise_cons.mp h
    rw [putMember]
    split
    case isTrue hk => exact List.pairwise_cons.mpr ⟨fun n hn => hk ▸ hm n hn, hms⟩
    case isFalse hk =>
      split
      case isTrue hlt =>
        refine List.pairwise_cons.mpr ⟨fun n hn => ?_, h⟩
        rcases List.mem_cons.mp hn with rfl | hn
        · exact hlt
        · exact String.lt_trans hlt (hm n hn)
      case isFalse hlt =>
        have hbehind : m.1 < k := String.not_le.mp fun hle =>
          hk (String.le_antisymm hle (String.not_lt.mp hlt))
        refine List.pairwise_cons.mpr ⟨fun n hn => ?_, ih hms⟩
        rcases mem_of_mem_putMember hn with rfl | hn
        · exact hbehind
        · exact hm n hn

theorem ordered_putMembers {ms acc : Members} (hms : ∀ m ∈ ms, m.2.Ordered)
    (hacc : acc.Pairwise fun a b => a.1 < b.1) (hacc' : ∀ m ∈ acc, m.2.Ordered) :
    (Value.object (putMembers ms acc)).Ordered := by
  induction ms generalizing acc with
  | nil => exact .object hacc hacc'
  | cons m ms ih =>
    refine ih (fun n hn => hms n (List.mem_cons_of_mem _ hn))
      (pairwise_putMember m.1 m.2 hacc) fun n hn => ?_
    rcases mem_of_mem_putMember hn with rfl | hn
    · exact hms m List.mem_cons_self
    · exact hacc' n hn

/-- The values of a phrase are in order. -/
def Phrase.Ordered : Phrase → Prop
  | .value v => v.Ordered
  | .items _ vs => ∀ v ∈ vs, v.Ordered
  | .members _ ms => ∀ m ∈ ms, m.2.Ordered

theorem Spells.ordered {depth : Nat} {p : Phrase} (h : Spells depth cs p r) : p.Ordered := by
  induction h with
  | blank _ _ ih => exact ih
  | null => exact .null
  | yes => exact .bool true
  | no => exact .bool false
  | number => exact .number _
  | string => exact .string _
  | array _ ih => exact .array ih
  | object _ ih => exact ordered_putMembers ih .nil nofun
  | noItem | noMember => exact nofun
  | firstItem _ _ ihItem ihRest | nextItem _ _ _ ihItem ihRest =>
    exact List.forall_mem_cons.mpr ⟨ihItem, ihRest⟩
  | member _ _ _ _ _ _ _ ihValue ihRest => exact List.forall_mem_cons.mpr ⟨ihValue, ihRest⟩

/-- A value that a text stands for has its members in order. -/
theorem Denotes.ordered {s : String} {v : Value} (h : Denotes s v) : v.Ordered := by
  obtain ⟨r, hspells, -⟩ := h
  exact hspells.ordered

end ReceiptPrinting.Json
