import ReceiptPrinting.Proofs.Layout.BodyRows

/-!
# Which rows fit the paper

A row of the body that is wider than the paper is broken by the printer, and the columns below it no
longer stand under one another. No ticket has such a row. The test page has one on narrow paper: its
row of digits and signs takes 33 columns, and narrow paper has 32.

* `TestPage.bodyRows_printed`: the rows of the body of the test page;
* **`fits_iff`**: the jobs whose rows all fit the paper;
* `narrow_test_page_breaks`: a job for the test page on paper of 58 mm.
-/

namespace ReceiptPrinting

open Escpos (Instruction Sheet Style Output Machine bodyRows)

/-! ## 1. The test page -/

namespace TestPage

variable (p : Paper) (page : CodePage)

/-- The row of digits and signs. -/
def signsRow : Bytes := page.encode "0123456789 !\"#$%&'()*+,-./:;<=>?@"

/-- The rows of the body, without their styles. -/
def bodyTexts : List Bytes :=
  [Receipt.ruleRow p 0x3D,
    Receipt.endsRow p page "Paper width:" (toString p.millimetres.toNat ++ "mm"),
    Receipt.endsRow p page "Chars per line:" (toString p.columns),
    Receipt.endsRow p page "Code page:" page.name,
    Receipt.ruleRow p 0x2D, page.encode (ruler p.columns),
    page.encode "ABCDEFGHIJKLMNOPQRSTUVWXYZ", page.encode "abcdefghijklmnopqrstuvwxyz",
    signsRow page, page.encode "Bold text", Receipt.ruleRow p 0x2D, [], []]

theorem bodyRows_printed :
    (bodyRows ((p.sheet page).printed (Style.plain page) (layout p page))).map (·.2) =
      bodyTexts p page := by
  obtain ⟨heq, hdash⟩ := Receipt.encodeChars_rule page p.columns
  have hends (l r : String) : page.encodeChars (Sheet.endsRow p.columns l r) =
      Receipt.endsRow p page l r := page.encodeChars_endsRow _ _ _
  rw [bodyTexts, Receipt.ruleRow, Receipt.ruleRow, ← heq, ← hdash, ← hends, ← hends, ← hends]
  simp [layout, setup, Sheet.printed, Style.after, Sheet.outputs, Instruction.row?, bodyRows,
    Output.row?, Style.InBody, Style.plain, Style.initial, Paper.sheet, CodePage.encode, signsRow]
  rfl

theorem ruler_length (n : Nat) : (ruler n).toList.length = n := by simp [ruler]

theorem signsRow_length : (signsRow page).length = 33 := page.encode_length _

/-- The row of digits and signs is the only one that may be wider than the paper. -/
theorem bodyTexts_fit : ∀ r ∈ bodyTexts p page, r = signsRow page ∨ r.length ≤ p.columns := by
  have hp := Receipt.le_columns p
  have hends (l r : String) := (Receipt.endsRow_length p page l r).le
  have hrule (b : UInt8) := (Receipt.ruleRow_length p b).le
  have hruler : (page.encode (ruler p.columns)).length ≤ p.columns := by
    rw [page.encode_length, ruler_length]
  have hshort (s : String) (hs : s.toList.length ≤ 32) : (page.encode s).length ≤ p.columns := by
    rw [page.encode_length]
    omega
  have hnil : ([] : Bytes).length ≤ p.columns := Nat.zero_le _
  simp only [bodyTexts, List.forall_mem_cons]
  exact ⟨.inr (hrule _), .inr (hends _ _), .inr (hends _ _), .inr (hends _ _), .inr (hrule _),
    .inr hruler, .inr (hshort _ (by decide)), .inr (hshort _ (by decide)), .inl trivial,
    .inr (hshort _ (by decide)), .inr (hrule _), .inr hnil, .inr hnil, nofun⟩

/-- All these rows fit the paper exactly if it is not narrow. -/
theorem bodyTexts_fit_iff :
    (∀ r ∈ bodyTexts p page, r.length ≤ p.columns) ↔ p.millimetres = 80 := by
  have hmem : signsRow page ∈ bodyTexts p page := by simp [bodyTexts]
  have hwide : p.millimetres = 80 ↔ 33 ≤ p.columns := by
    unfold Paper.columns
    split
    case isTrue h => simp [h]
    case isFalse h => simp [h]
  rw [hwide, ← signsRow_length page]
  constructor
  · exact fun h => h _ hmem
  · intro h r hr
    rcases bodyTexts_fit p page r hr with rfl | hr
    · exact h
    · exact hr

end TestPage

/-! ## 2. Jobs -/

/-- Every row of the body takes at most `w` columns. -/
def Escpos.Fits (w : Nat) (out : List Output) : Prop := ∀ r ∈ bodyRows out, r.2.length ≤ w

open Escpos (Fits)

section

variable (p : Paper) (page : CodePage) (t : ReceiptTexts) (o : Ticket)

theorem length_le_columns {r : Bytes} (h : r = [] ∨ r.length = p.columns) :
    r.length ≤ p.columns := by
  rcases h with rfl | h
  · exact Nat.zero_le _
  · exact h.le

theorem fits_receipt : Fits p.columns (Receipt.outputs p page t o) := fun r hr =>
  length_le_columns p ((Receipt.styled_outputs p page t o).width r hr)

theorem fits_kitchen : Fits p.columns (KitchenCopy.outputs p page o) := fun r hr =>
  length_le_columns p ((KitchenCopy.styled_outputs p page o).width r hr)

/-- What holds of every text in the body of the test page holds of its rows. -/
theorem forall_bodyRows_testPage {P : Bytes → Prop} :
    (∀ r ∈ bodyRows ((p.sheet page).printed (Style.plain page) (TestPage.layout p page)), P r.2) ↔
      ∀ r ∈ TestPage.bodyTexts p page, P r := by
  rw [← TestPage.bodyRows_printed, List.forall_mem_map]

end

/-- **Which rows fit the paper.** On every printer, each row of the body that a job prints takes at
    most the columns of its paper, unless the job prints the test page on narrow paper; and there
    the one row that does not fit is that of digits and signs. -/
theorem fits_iff (s : Settings) (j : Job) (m : Machine) :
    ∃ m' out, m.feed? (j.render s) = some (m', out) ∧
      (Fits (j.paper s).columns out ↔ ¬ (j.content = .test ∧ s.paperWidth ≠ 80)) ∧
      ∀ r ∈ bodyRows out, r.2 = TestPage.signsRow s.page ∨ r.2.length ≤ (j.paper s).columns := by
  obtain ⟨m', h⟩ := Job.feed?_render s j m
  refine ⟨m', _, h, ?_⟩
  obtain ⟨content, target, width⟩ := j
  cases content with
  | receipt o =>
    have hfits := fits_receipt ⟨width.getD s.paperWidth⟩ s.page s.texts o
    rw [Job.printed_receipt]
    exact ⟨iff_of_true hfits nofun, fun r hr => .inr (hfits r hr)⟩
  | kitchen o =>
    have hfits := fits_kitchen ⟨width.getD s.paperWidth⟩ s.page o
    rw [Job.printed_kitchen]
    exact ⟨iff_of_true hfits nofun, fun r hr => .inr (hfits r hr)⟩
  | drawer => exact ⟨iff_of_true nofun nofun, nofun⟩
  | test =>
    have hiff := TestPage.bodyTexts_fit_iff ⟨s.paperWidth⟩ s.page
    rw [← forall_bodyRows_testPage] at hiff
    refine ⟨hiff.trans (by simp), ?_⟩
    exact (forall_bodyRows_testPage _ _).mpr (TestPage.bodyTexts_fit ⟨s.paperWidth⟩ s.page)

/-- **On paper of 58 mm the test page breaks a row**: a text that asks for it, and a row of 33
    columns where there are 32. -/
theorem narrow_test_page_breaks :
    let s : Settings := { Settings.standard with paperWidth := 58 }
    ∃ j, Job.parse "\x7b\"type\":\"test\"\x7d" = .ok j ∧ (j.paper s).columns = 32 ∧
      ∃ m' out, Machine.initial.feed? (j.render s) = some (m', out) ∧
        ∃ r ∈ bodyRows out, r.2.length = 33 := by
  intro s
  obtain ⟨m', h⟩ := Job.feed?_render s ⟨.test, none, none⟩ .initial
  have hrows : (bodyRows (Job.printed s ⟨.test, none, none⟩)).map (·.2) =
      TestPage.bodyTexts ⟨58⟩ .western := TestPage.bodyRows_printed _ _
  have hmem : TestPage.signsRow .western ∈
      (bodyRows (Job.printed s ⟨.test, none, none⟩)).map (·.2) := by
    rw [hrows]
    simp [TestPage.bodyTexts]
  obtain ⟨r, hr, hsigns⟩ := List.mem_map.mp hmem
  refine ⟨⟨.test, none, none⟩, by decide +kernel, rfl, m', _, h, r, hr, ?_⟩
  rw [hsigns, TestPage.signsRow_length]

end ReceiptPrinting
