import ReceiptPrinting.Proofs.Layout.Receipt

/-!
# Figures are exact or visibly cut

The row of a line ends in three columns with figures: the quantity, the price and the total. A
figure that does not fit its column is cut, and then the column ends in a point. No figure does, so
the last byte of a column tells whether the figure is whole; and a whole figure tells the number.

* `IsFigure`: texts of digits, points and signs that end in a digit;
* `Shows`: what a column shows of a text;
* `ShowsLine`: what the last three columns of a row show of a line;
* **`figures_exact_or_cut`**: they are whole, or they are too long and visibly cut.
-/

namespace ReceiptPrinting

/-! ## 1. Figures -/

/-- Digits, points and signs, the last of them a digit. -/
structure IsFigure (cs : List Char) : Prop where
  marks : ∀ c ∈ cs, c.isDigit = true ∨ c = '.' ∨ c = '-'
  last : ∃ ds c, cs = ds ++ [c] ∧ c.isDigit = true

/-- The byte of a digit is none below the digits. -/
theorem ofNat_ne_of_isDigit {c : Char} (h : c.isDigit = true) {b : UInt8} (hb : b.toNat < 0x30) :
    UInt8.ofNat c.toNat ≠ b := by
  have hrange := Natural.toNat_of_isDigit h
  rintro rfl
  rw [UInt8.toNat_ofNat_of_lt' (by simp only [UInt8.size]; omega)] at hb
  omega

namespace IsFigure

variable {cs ds : List Char}

theorem printable (h : IsFigure cs) : Printable cs := by
  intro c hc
  rcases h.marks c hc with hdigit | rfl | rfl
  · have hrange := Natural.toNat_of_isDigit hdigit
    omega
  · decide
  · decide

theorem of_hundredths {n : ℕ} (h : IsHundredths cs n) : IsFigure cs := by
  cases h with
  | @mk whole c d ne_nil digits leading tenths hundredths =>
    refine ⟨fun x hx => ?_, whole ++ ['.', c], d, by simp, hundredths⟩
    simp only [List.mem_append, List.mem_cons, List.not_mem_nil, or_false] at hx
    rcases hx with hx | rfl | rfl | rfl
    · exact .inl (digits x hx)
    · exact .inr (.inl rfl)
    · exact .inl tenths
    · exact .inl hundredths

/-- A minus before a figure makes another. -/
theorem minus (h : IsFigure cs) : IsFigure ('-' :: cs) := by
  obtain ⟨ds, c, rfl, hc⟩ := h.last
  refine ⟨fun x hx => ?_, '-' :: ds, c, rfl, hc⟩
  rcases List.mem_cons.mp hx with rfl | hx
  · exact .inr (.inr rfl)
  · exact h.marks x hx

theorem of_money {n : ℤ} (h : IsMoney cs n) : IsFigure cs := by
  cases h with
  | plain h => exact of_hundredths h
  | minus h => exact (of_hundredths h).minus

theorem of_toDigits (n : ℕ) : IsFigure (Nat.toDigits 10 n) := by
  refine ⟨fun c hc => .inl (Natural.isDigit_toDigits n c hc), ?_⟩
  have hne : Nat.toDigits 10 n ≠ [] := List.ne_nil_of_length_pos Nat.length_toDigits_pos
  exact ⟨_, _, (List.dropLast_append_getLast hne).symm,
    Natural.isDigit_toDigits n _ (List.getLast_mem hne)⟩

/-- No figure ends in a point. -/
theorem getLast?_ascii (h : IsFigure cs) : (ascii cs).getLast? ≠ some 0x2E := by
  obtain ⟨ds, c, rfl, hc⟩ := h.last
  rw [ascii, List.map_append, List.map_singleton, List.getLast?_append, List.getLast?_singleton,
    Option.some_or, Ne, Option.some.injEq]
  exact ofNat_ne_of_isDigit hc (by decide)

/-- No figure starts with a space. -/
theorem dropWhile_ascii (h : IsFigure cs) (n : ℕ) :
    (List.replicate n 0x20 ++ ascii cs).dropWhile (· == 0x20) = ascii cs := by
  rw [List.dropWhile_append_of_pos fun b hb => by simp [List.eq_of_mem_replicate hb]]
  cases cs with
  | nil => rfl
  | cons c r =>
    have hc : UInt8.ofNat c.toNat ≠ 0x20 := by
      rcases h.marks c List.mem_cons_self with hdigit | rfl | rfl
      · exact ofNat_ne_of_isDigit hdigit (by decide)
      · decide
      · decide
    exact List.dropWhile_cons_of_neg (by simpa using hc)

end IsFigure

/-! ## 2. Columns of figures -/

/-- What a column of `w` bytes shows of a text: the whole text behind spaces, or as much of it as
    there is room for and a point. -/
structure Shows (cs : List Char) (w : ℕ) (col : Bytes) : Prop where
  whole : col.getLast? ≠ some 0x2E → col.dropWhile (· == 0x20) = ascii cs
  point : col.getLast? = some 0x2E ↔ w < cs.length
  cut : col.getLast? = some 0x2E → col = ascii (cs.take (w - 1)) ++ [0x2E]

theorem ascii_length (cs : List Char) : (ascii cs).length = cs.length := List.length_map _

/-- **A figure is shown whole or visibly cut.** -/
theorem IsFigure.shows_right {cs : List Char} (h : IsFigure cs) {w : ℕ} (hw : 0 < w) :
    Shows cs w (Column.right (ascii cs) w) := by
  have hlength := ascii_length cs
  by_cases hfits : cs.length ≤ w
  · have hright : Column.right (ascii cs) w = List.replicate (w - cs.length) 0x20 ++ ascii cs := by
      rw [Column.right, hlength, if_pos hfits]
    have hlast : (Column.right (ascii cs) w).getLast? ≠ some 0x2E := by
      obtain ⟨ds, c, rfl, -⟩ := h.last
      have hsome : (ascii (ds ++ [c])).getLast? = some (UInt8.ofNat c.toNat) := by
        rw [ascii, List.map_append, List.getLast?_append]
        rfl
      have hfigure := h.getLast?_ascii
      rw [hright, List.getLast?_append, hsome, Option.some_or]
      rwa [hsome] at hfigure
    exact
      { whole := fun _ => by rw [hright, h.dropWhile_ascii]
        point := iff_of_false hlast (Nat.not_lt_of_le hfits)
        cut := fun hpoint => absurd hpoint hlast }
  · obtain ⟨k, rfl⟩ : ∃ k, w = k + 1 := ⟨w - 1, by omega⟩
    have hright : Column.right (ascii cs) (k + 1) = ascii (cs.take k) ++ [0x2E] := by
      rw [Column.right, hlength, if_neg hfits, Column.cut, ascii, ascii, List.map_take]
    have hlast : (Column.right (ascii cs) (k + 1)).getLast? = some 0x2E := by
      rw [hright, List.getLast?_append]
      rfl
    exact
      { whole := fun hne => absurd hlast hne
        point := iff_of_true hlast (Nat.lt_of_not_le hfits)
        cut := fun _ => hright }

/-- A whole figure tells the text. -/
theorem Shows.text_eq {cs ds : List Char} {w : ℕ} {col : Bytes} (hcs : Shows cs w col)
    (hds : Shows ds w col) (hfigure : IsFigure cs) (hfigure' : IsFigure ds)
    (hwhole : col.getLast? ≠ some 0x2E) : cs = ds :=
  ascii_injective hfigure.printable hfigure'.printable
    ((hcs.whole hwhole).symm.trans (hds.whole hwhole))

/-! ## 3. The figures of a line -/

/-- The last 18 bytes of a row, as columns of 3, 7 and 8. -/
def figures (row : Bytes) : Bytes × Bytes × Bytes :=
  let last := row.drop (row.length - 18)
  (last.take 3, (last.drop 3).take 7, last.drop 10)

/-- What a column shows of a whole number. It is cut if the number is not within `lo` and `hi`. -/
structure ShowsWhole (n : ℤ) (w : ℕ) (lo hi : ℤ) (col : Bytes) : Prop where
  shows : Shows (toString n).toList w col
  cut_iff : col.getLast? = some 0x2E ↔ n < lo ∨ hi < n

/-- What a column shows of an amount: its text of two places, which spells its nearest hundredth. A
    minus stands before it if that is less than nothing, or if the amount is nothing with a minus
    itself. The text is cut if there are less hundredths than `lo` or more than `hi`. -/
def ShowsAmount (d : Decimal) (w : ℕ) (lo hi : ℤ) (col : Bytes) : Prop :=
  ∃ cs n, IsMoney cs n ∧ NearestAway (100 * d.value) n ∧
    ('-' ∈ cs ↔ n < 0 ∨ d.negative = true ∧ d.value = 0) ∧ Shows cs w col ∧
    (col.getLast? = some 0x2E ↔ n < lo ∨ hi < n)

/-- **What the last three columns of a row show of a line.** -/
structure ShowsLine (l : Line) (row : Bytes) : Prop where
  quantity : ShowsWhole l.quantity 3 (-99) 999 (figures row).1
  price : ShowsAmount l.unitPrice 7 (-99999) 999999 (figures row).2.1
  total : ShowsAmount l.lineTotal 8 (-999999) 9999999 (figures row).2.2

theorem isFigure_wholeChars (n : ℤ) : IsFigure (Json.wholeChars n) := by
  rw [Json.wholeChars]
  split
  · exact (IsFigure.of_toDigits n.natAbs).minus
  · exact IsFigure.of_toDigits n.natAbs

/-- How long the text of a whole number is. -/
theorem length_wholeChars_le_iff (n : ℤ) {w : ℕ} (hw : 0 < w) :
    (Json.wholeChars n).length ≤ w + 1 ↔ -10 ^ w < n ∧ n < 10 ^ (w + 1) := by
  have hpow : (10 : ℤ) ^ w = ((10 ^ w : ℕ) : ℤ) := by push_cast; rfl
  have hpow' : (10 : ℤ) ^ (w + 1) = ((10 ^ (w + 1) : ℕ) : ℤ) := by push_cast; rfl
  have hpos : 0 < 10 ^ w := Nat.pow_pos (by decide)
  have hpos' : 0 < 10 ^ (w + 1) := Nat.pow_pos (by decide)
  rw [Json.wholeChars, List.length_append, hpow, hpow']
  split
  case isTrue hn =>
    have hlength := Nat.length_toDigits_le_iff (b := 10) (n := n.natAbs) (by decide) hw
    rw [List.length_singleton]
    omega
  case isFalse hn =>
    have hlength := Nat.length_toDigits_le_iff (b := 10) (n := n.natAbs) (k := w + 1) (by decide)
      (Nat.succ_pos w)
    rw [List.length_nil]
    omega

theorem showsWhole_right (page : CodePage) (n : ℤ) {w : ℕ} (hw : 0 < w) {lo hi : ℤ}
    (hlo : lo = -10 ^ w + 1) (hhi : hi = 10 ^ (w + 1) - 1) :
    ShowsWhole n (w + 1) lo hi
      (Column.right (page.encode (toString n)) (w + 1)) := by
  have hfigure := isFigure_wholeChars n
  have hencode : page.encode (toString n) = ascii (Json.wholeChars n) := by
    rw [CodePage.encode, Json.toList_toString,
      page.encodeChars_of_printable _ hfigure.printable]
  have hshows := hfigure.shows_right (Nat.succ_pos w)
  have hlength := length_wholeChars_le_iff n hw
  rw [hencode]
  refine ⟨by rwa [Json.toList_toString], hshows.point.trans ?_⟩
  rw [Nat.succ_eq_add_one]
  omega

theorem showsAmount_right (page : CodePage) (d : Decimal) {w : ℕ} (hw : 0 < w) {lo hi : ℤ}
    (hlo : lo = -10 ^ (w + 2) + 1) (hhi : hi = 10 ^ (w + 3) - 1) :
    ShowsAmount d (w + 4) lo hi (Column.right (page.encode d.money) (w + 4)) := by
  have hfigure := IsFigure.of_money d.isMoney_money
  have hencode : page.encode d.money = ascii d.money.toList :=
    page.encodeChars_of_printable _ hfigure.printable
  have hshows := hfigure.shows_right (w := w + 4) (Nat.succ_pos _)
  have hlength := d.length_money_le_iff hw
  rw [hencode]
  refine ⟨_, _, d.isMoney_money, d.nearestAway_cents, d.minus_mem_money_iff, hshows,
    hshows.point.trans ?_⟩
  omega

/-- The last columns of a row, where the row of a line has them. -/
theorem figures_orderedRow (p : Paper) (page : CodePage) (l : Line) :
    figures (Receipt.orderedRow p page l) =
      (Column.right (page.encode (toString l.quantity)) 3,
        Column.right (page.encode l.unitPrice.money) 7,
        Column.right (page.encode l.lineTotal.money) 8) := by
  have hp := Receipt.le_columns p
  have h := Receipt.columns_orderedRow p page l
  have hprice : p.columns - 18 + 3 = p.columns - 15 := by omega
  have htotal : p.columns - 18 + 10 = p.columns - 8 := by omega
  simp only [figures, h.width, List.drop_drop, hprice, htotal, h.quantity, h.price, h.total]

theorem showsLine_orderedRow (p : Paper) (page : CodePage) (l : Line) :
    ShowsLine l (Receipt.orderedRow p page l) := by
  have hfigures := figures_orderedRow p page l
  constructor
  case quantity =>
    simp only [hfigures]
    exact showsWhole_right page l.quantity (w := 2) (by decide) (by norm_num) (by norm_num)
  case price =>
    simp only [hfigures]
    exact showsAmount_right page l.unitPrice (w := 3) (by decide) (by norm_num) (by norm_num)
  case total =>
    simp only [hfigures]
    exact showsAmount_right page l.lineTotal (w := 4) (by decide) (by norm_num) (by norm_num)

/-! ## 4. What figures tell -/

/-- Different whole numbers are written differently. -/
theorem wholeChars_injective {n m : ℤ} (h : Json.wholeChars n = Json.wholeChars m) : n = m := by
  have hsign {ds : List Char} {k : ℕ} (heq : '-' :: ds = Nat.toDigits 10 k) : False := by
    have hminus := Natural.isDigit_toDigits k '-' (heq ▸ List.mem_cons_self)
    exact absurd hminus (by decide)
  unfold Json.wholeChars at h
  split at h <;> split at h
  · have habs := Natural.toDigits_injective (List.cons.inj h).2
    omega
  · exact (hsign h).elim
  · exact (hsign h.symm).elim
  · have habs := Natural.toDigits_injective h
    omega

theorem ShowsWhole.eq {n m : ℤ} {w : ℕ} {lo hi : ℤ} {col : Bytes} (hn : ShowsWhole n w lo hi col)
    (hm : ShowsWhole m w lo hi col) (hwhole : col.getLast? ≠ some 0x2E) : n = m := by
  have hfigure (k : ℤ) : IsFigure (toString k).toList :=
    Json.toList_toString k ▸ isFigure_wholeChars k
  have htext := hn.shows.text_eq hm.shows (hfigure n) (hfigure m) hwhole
  rw [Json.toList_toString, Json.toList_toString] at htext
  exact wholeChars_injective htext

/-- Two amounts are rounded to the same hundredth. -/
def SameCents (x y : ℚ) : Prop := ∃ n, NearestAway (100 * x) n ∧ NearestAway (100 * y) n

theorem ShowsAmount.sameCents {d e : Decimal} {w : ℕ} {lo hi : ℤ} {col : Bytes}
    (hd : ShowsAmount d w lo hi col) (he : ShowsAmount e w lo hi col)
    (hwhole : col.getLast? ≠ some 0x2E) : SameCents d.value e.value := by
  obtain ⟨cs, n, hcs, hn, -, hshows, -⟩ := hd
  obtain ⟨ds, m, hds, hm, -, hshows', -⟩ := he
  obtain rfl : cs = ds :=
    hshows.text_eq hshows' (IsFigure.of_money hcs) (IsFigure.of_money hds) hwhole
  obtain rfl : n = m := hcs.unique hds
  exact ⟨n, hn, hm⟩

/-- What the columns of two rows tell of their lines: where they are the same and not cut, so are
    the figures. -/
structure SameFigures (l l' : Line) (row row' : Bytes) : Prop where
  quantity : (figures row).1 = (figures row').1 → (figures row).1.getLast? ≠ some 0x2E →
    l.quantity = l'.quantity
  price : (figures row).2.1 = (figures row').2.1 → (figures row).2.1.getLast? ≠ some 0x2E →
    SameCents l.unitPrice.value l'.unitPrice.value
  total : (figures row).2.2 = (figures row').2.2 → (figures row).2.2.getLast? ≠ some 0x2E →
    SameCents l.lineTotal.value l'.lineTotal.value

theorem ShowsLine.sameFigures {l l' : Line} {row row' : Bytes} (h : ShowsLine l row)
    (h' : ShowsLine l' row') : SameFigures l l' row row' := by
  constructor
  case quantity =>
    intro heq hwhole
    have hquantity := h'.quantity
    rw [← heq] at hquantity
    exact h.quantity.eq hquantity hwhole
  case price =>
    intro heq hwhole
    have hprice := h'.price
    rw [← heq] at hprice
    exact h.price.sameCents hprice hwhole
  case total =>
    intro heq hwhole
    have htotal := h'.total
    rw [← heq] at htotal
    exact h.total.sameCents htotal hwhole

/-- **Figures are exact or visibly cut.** Between other rows of every receipt stand the rows of its
    lines, and whatever the paper and the code page, the last columns of each show its figures: a
    column that does not end in a point shows the whole figure, and one that does shows the figure
    cut, since it was too long. So two lines with the same whole figure have the same quantity, or
    amounts that are rounded to the same hundredth. -/
theorem figures_exact_or_cut :
    (∀ (s : Settings) (o : Ticket) (target : Option String) (width : Option UInt16),
      ∃ txt above below, Escpos.text? (Job.render s ⟨.receipt o, target, width⟩) = some txt ∧
        txt.splitOn 0x0A = above ++ (o.lines.flatMap fun l =>
          Receipt.orderedRow ⟨width.getD s.paperWidth⟩ s.page l ::
            Receipt.notesRow ⟨width.getD s.paperWidth⟩ s.page l) ++ below) ∧
    (∀ (p : Paper) (page : CodePage) (l : Line), ShowsLine l (Receipt.orderedRow p page l)) ∧
    ∀ (p p' : Paper) (page page' : CodePage) (l l' : Line),
      SameFigures l l' (Receipt.orderedRow p page l) (Receipt.orderedRow p' page' l') := by
  refine ⟨fun s o target width => ?_, showsLine_orderedRow, fun p p' page page' l l' =>
    (showsLine_orderedRow p page l).sameFigures (showsLine_orderedRow p' page' l')⟩
  have hrender : Job.render s ⟨.receipt o, target, width⟩ =
      (Paper.sheet ⟨width.getD s.paperWidth⟩ s.page).print
        (Receipt.layout ⟨width.getD s.paperWidth⟩ s.texts o) := Job.render_of_layout rfl
  obtain ⟨txt, htxt, hrows⟩ := Escpos.Sheet.splitOn_text_print
    (Paper.sheet ⟨width.getD s.paperWidth⟩ s.page)
    (Receipt.whole_layout ⟨width.getD s.paperWidth⟩ s.texts o)
  rw [← hrender] at htxt
  rw [Receipt.rows_layout, List.append_assoc, List.append_assoc] at hrows
  exact ⟨txt, _, _, htxt, hrows⟩

/-- A thousand covers, at half a hundredth less than ten thousand each. -/
def banquet (total : Decimal) : Line :=
  ⟨"Banquet", 1000, ⟨false, 9999995, 3, by decide, by decide⟩, total, none⟩

/-- The quantity and the rounded price are too long for their columns. The total has room, and is
    printed as ten thousand is. -/
theorem figures_exact_or_cut_banquet :
    let near := banquet ⟨false, 9999995, 3, by decide, by decide⟩
    let exact := banquet ⟨false, 10000, 0, by decide, by decide⟩
    figures (Receipt.orderedRow ⟨80⟩ .western near) =
        (ascii "10.".toList, ascii "10000..".toList, ascii "10000.00".toList) ∧
      SameCents near.lineTotal.value exact.lineTotal.value := by
  intro near exact
  have hsame := figures_exact_or_cut.2.2 ⟨80⟩ ⟨58⟩ .western .cyrillic near exact
  have hnear : figures (Receipt.orderedRow ⟨80⟩ .western near) =
      (ascii "10.".toList, ascii "10000..".toList, ascii "10000.00".toList) := by
    rw [figures_orderedRow]
    decide +kernel
  have hexact : (figures (Receipt.orderedRow ⟨58⟩ .cyrillic exact)).2.2 =
      ascii "10000.00".toList := by
    rw [figures_orderedRow]
    decide +kernel
  exact ⟨hnear, hsame.total (by rw [hnear, hexact]) (by rw [hnear]; decide)⟩

end ReceiptPrinting
