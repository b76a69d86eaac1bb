import ReceiptPrinting.Proofs.Layout.BodyRows
import ReceiptPrinting.Proofs.Layout.Figures
import ReceiptPrinting.Proofs.Number.Amounts
import ReceiptPrinting.Proofs.Validation

/-!
# The total is printed exactly

The total of a receipt is the one row at the right. It is the total that the text of the job gives,
rounded to its nearest hundredth, with the currency before it; whatever its length, it is not cut.

* `rowsAt`: the rows that come out at a side;
* `IsGiven`: the totals that can be given exactly, and the numbers they are;
* **`total_exact`**: what is printed for them; and what is printed for an amount in general.
-/

namespace ReceiptPrinting

open Json (Denotes Value InWords)
open Escpos (Align Output Machine Style)

/-! ## 1. Rows at the right -/

namespace Escpos

/-- The rows that come out at a side, in their order. -/
def rowsAt (a : Align) (out : List Output) : List Bytes :=
  ((out.filterMap Output.row?).filter fun r => r.1.align = a).map (·.2)

theorem rowsAt_append (a : Align) (out out' : List Output) :
    rowsAt a (out ++ out') = rowsAt a out ++ rowsAt a out' := by
  simp [rowsAt]

/-- Rows of one style stand at one side. -/
theorem rowsAt_map {a : Align} {s : Style} (h : s.align ≠ a) (rows : List Bytes) :
    rowsAt a (rows.map (.row s)) = [] := by
  induction rows with
  | nil => rfl
  | cons r rs ih => simp_all [rowsAt, Output.row?]

end Escpos

namespace Receipt

variable (p : Paper) (page : CodePage) (t : ReceiptTexts) (o : Ticket)

/-- The total is the one row at the right. -/
theorem rowsAt_right_outputs :
    Escpos.rowsAt .right (outputs p page t o) = [page.encode ("TOTAL: " ++ t.money o.total)] := by
  have hplain : (Style.plain page).align ≠ .right := nofun
  simp only [outputs, mainOutputs, Escpos.rowsAt_append, Escpos.rowsAt_map hplain]
  simp [Escpos.rowsAt, Output.row?, orderStyle, Style.plain, Style.initial, Escpos.ending]

end Receipt

/-- An amount behind its currency. -/
theorem encode_total (page : CodePage) (t : ReceiptTexts) (d : Decimal) :
    page.encode ("TOTAL: " ++ t.money d) =
      ascii "TOTAL: ".toList ++ page.encode t.currency ++ 0x20 :: ascii d.money.toList := by
  have hword : page.encode "TOTAL: " = ascii "TOTAL: ".toList :=
    page.encodeChars_of_printable _ (by decide)
  have hmoney : page.encode d.money = ascii d.money.toList :=
    page.encodeChars_of_printable _ (IsFigure.of_money d.isMoney_money).printable
  have hspace : page.encode " " = [0x20] := congrArg ([·]) page.encodeChar_space
  rw [ReceiptTexts.money]
  simp only [CodePage.encode_append, hword, hmoney, hspace, List.append_assoc,
    List.singleton_append]

/-! ## 2. Totals -/

/-- A total that is given exactly: a whole number of 64 bits, with or without a sign, in digits, or
    a plain text. -/
inductive IsGiven : Value → ℚ → Prop where
  | digits {minus : Bool} {ds : List Char} {n : ℤ} {k : Json.Number} (range : InWords n)
    (value : n = (if minus then -1 else 1) * (Nat.ofDigitChars 10 ds 0 : ℤ))
    (number : Json.Numeral.number? ⟨minus, ds.map Json.digitValue, none, none⟩ = some k) :
    IsGiven (.number k) n
  | text {s : String} {q : ℚ} (h : Decimal.IsPlain s.toList q) : IsGiven (.string s) q

/-- Whole numbers of 64 bits are kept, but for a zero with a minus, which is a binary number. -/
theorem number?_digits {minus : Bool} {ds : List Char} {n : ℤ} {k : Json.Number} (h : InWords n)
    (hn : n = (if minus then -1 else 1) * (Nat.ofDigitChars 10 ds 0 : ℤ))
    (hk : Json.Numeral.number? ⟨minus, ds.map Json.digitValue, none, none⟩ = some k) :
    k = .whole n ∨ n = 0 ∧ k = .real (.zero true) := by
  have hmax : Nat.ofDigitChars 10 ds 0 ≤ Json.maxSignificand := by
    have hbound : Json.maxSignificand = 2 ^ 64 - 1 := rfl
    unfold InWords at h
    split at hn <;> omega
  have hdigits := Json.appendDigits_map ds 0 hmax
  generalize Nat.ofDigitChars 10 ds 0 = m at *
  by_cases hzero : minus = true ∧ m = 0
  · obtain ⟨rfl, rfl⟩ := hzero
    have hscaled : Json.scaled 0 0 = some (.zero false) := by decide +kernel
    refine .inr ⟨by simpa using hn, ?_⟩
    simpa [Json.Numeral.number?, Json.Numeral.whole?, Json.Numeral.significand, hdigits,
      Json.appendDigits, hscaled, Json.Numeral.signed, Binary64.zero] using hk.symm
  · have hwhole : Json.Numeral.whole? ⟨minus, ds.map Json.digitValue, none, none⟩ = some n := by
      have hlow : Nat.pow 2 63 = 0x8000000000000000 := rfl
      unfold InWords at h
      cases minus with
      | false => simp [Json.Numeral.whole?, hdigits, hn]
      | true =>
        have hm : 1 ≤ m ∧ m ≤ Nat.pow 2 63 := by
          simp only [true_and] at hzero
          simp only [if_true] at hn
          omega
        simp [Json.Numeral.whole?, hdigits, hm, hn]
    simp only [Json.Numeral.number?, hwhole, Option.some.injEq] at hk
    exact .inl hk.symm

/-- The total in a text: that of the data of the request. -/
def GivesTotal (text : String) (w : Value) : Prop :=
  ∃ v ms d ts, Denotes text v ∧ v.members? Request.names = some ms ∧ ms.lookup "data" = some d ∧
    d.members? Ticket.names = some ts ∧ ts.lookup "total" = some w

/-- What is given exactly is read as the number it is. -/
theorem IsGiven.is {w : Value} {q : ℚ} {d : Decimal} (h : IsGiven w q)
    (hd : Decimal.IsAmount w d) : d.Is q := by
  cases h with
  | @digits _ _ n _ range value number =>
    rcases number?_digits range value number with rfl | ⟨rfl, rfl⟩
    · obtain ⟨e, he, his⟩ := Decimal.ofInt?_eq_some (n := n) (by unfold InWords at range; omega)
      cases hd with
      | whole hd =>
        rw [he] at hd
        cases hd
        exact his
    · have hzero : Decimal.ofFixed? (Binary64.zero true).plainText = some .zero := by
        decide +kernel
      cases hd with
      | real hd =>
        rw [hzero] at hd
        cases hd
        exact ⟨by simp [Decimal.value, Decimal.zero], nofun⟩
  | text h =>
    obtain ⟨e, he, his⟩ := Decimal.parse?_of_isPlain h
    cases hd with
    | text hd =>
      rw [he] at hd
      cases hd
      exact his

/-- The total of a receipt is the one that its text gives. -/
theorem total_of_parse {text : String} {j : Job} (h : Job.parse text = .ok j)
    (hkind : j.content.kind = .receipt) {w : Value} (hw : GivesTotal text w) {q : ℚ}
    (hq : IsGiven w q) : ∃ o, j.content = .receipt o ∧ o.total.Is q := by
  obtain ⟨v, ms, d, ts, hv, hms, hd, hts, hlookup⟩ := hw
  obtain ⟨v', ms', hv', hms', hfrom⟩ := Job.from_of_parse h
  obtain rfl := hv.unique hv'
  rw [hms] at hms'
  cases hms'
  obtain ⟨o, ho⟩ := hfrom.ticket.mpr (.inl hkind)
  obtain ⟨d', hd', -, ts', hts', hmembers⟩ := hfrom.data o ho
  rw [hd] at hd'
  cases hd'
  rw [hts] at hts'
  cases hts'
  have htotal := hmembers.total
  rw [hlookup] at htotal
  refine ⟨o, ?_, ?_⟩
  · cases hcontent : j.content with
    | receipt o' =>
      rw [hcontent] at ho
      cases ho
      rfl
    | kitchen | test | drawer =>
      rw [hcontent] at hkind
      cases hkind
  · cases htotal with
    | present htotal => exact hq.is htotal

/-! ## 3. What is printed -/

/-- **A total that is given exactly is printed exactly**: behind the currency stands its nearest
    hundredth, halves away from zero, uncut, with a minus exactly if it is less than nothing. Every
    amount is printed as its nearest hundredth; a larger one is not printed as a smaller one, and up
    to two places nothing is lost. -/
theorem total_exact :
    (∀ (text : String) (j : Job) (w : Value) (q : ℚ), Job.parse text = .ok j →
      j.content.kind = .receipt → GivesTotal text w → IsGiven w q →
      ∃ cs n, IsMoney cs n ∧ ('-' ∈ cs ↔ n < 0) ∧ NearestAway (100 * q) n ∧
        ∀ (s : Settings) (m : Machine), ∃ m' out, m.feed? (j.render s) = some (m', out) ∧
          Escpos.rowsAt .right out =
            [ascii "TOTAL: ".toList ++ s.page.encode s.texts.currency ++ 0x20 :: ascii cs]) ∧
    (∀ d : Decimal, IsMoney d.money.toList d.cents ∧ NearestAway (100 * d.value) d.cents) ∧
    (∀ d e : Decimal, d.value ≤ e.value → d.cents ≤ e.cents) ∧
    ∀ d : Decimal, d.scale ≤ 2 → (d.cents : ℚ) = 100 * d.value := by
  refine ⟨fun text j w q hparse hkind hw hq => ?_, fun d => ⟨d.isMoney_money, d.nearestAway_cents⟩,
    fun _ _ => Decimal.cents_mono, Decimal.cents_eq⟩
  obtain ⟨o, hcontent, hvalue, hsign⟩ := total_of_parse hparse hkind hw hq
  have hzero : ¬ (o.total.negative = true ∧ o.total.value = 0) := fun hzero =>
    hsign hzero.1 (o.total.value_eq_zero_iff.mp hzero.2)
  refine ⟨o.total.money.toList, o.total.cents, o.total.isMoney_money,
    o.total.minus_mem_money_iff.trans (or_iff_left hzero), hvalue ▸ o.total.nearestAway_cents,
    fun s m => ?_⟩
  obtain ⟨content, target, width⟩ := j
  obtain rfl : content = .receipt o := hcontent
  obtain ⟨m', h⟩ := Job.feed?_render s ⟨.receipt o, target, width⟩ m
  rw [Job.printed_receipt] at h
  refine ⟨m', _, h, ?_⟩
  rw [Receipt.rowsAt_right_outputs, encode_total]

/-- A request for a receipt with half a cent too much to give back. -/
def halfCent : Value :=
  .object [("data", .object [("total", .string "-0.125")]), ("type", .string "receipt")]

/-- Twelve and a half cents to give back are printed as thirteen. -/
theorem total_exact_halfCent :
    ∃ j, Job.parse halfCent.text = .ok j ∧ j.content.kind = .receipt ∧
      GivesTotal halfCent.text (.string "-0.125") ∧
      IsGiven (.string "-0.125") (-((125 : ℕ) / 10 ^ 3)) ∧
      ∃ cs n, IsMoney cs n ∧ ('-' ∈ cs ↔ n < 0) ∧
        NearestAway (100 * -((125 : ℕ) / 10 ^ 3)) n ∧
        ∀ (s : Settings) (m : Machine), ∃ m' out, m.feed? (j.render s) = some (m', out) ∧
          Escpos.rowsAt .right out =
            [ascii "TOTAL: ".toList ++ s.page.encode s.texts.currency ++ 0x20 :: ascii cs] := by
  have hdata : Json.Plain 1 (.object [("total", .string "-0.125")]) :=
    .object (List.pairwise_singleton _ _) (by simpa using Json.Plain.string 0 "-0.125")
  have hplain : Json.Plain 2 halfCent := by
    refine .object (by decide) ?_
    simpa using ⟨hdata, Json.Plain.string 1 "receipt"⟩
  have hdenotes : Denotes halfCent.text halfCent :=
    Json.parse_eq_ok_iff.mp (Json.parse_text hplain (by decide))
  have hparse : Job.parse halfCent.text =
      .ok ⟨.receipt { Ticket.empty with total := ⟨true, 125, 3, by decide, by decide⟩ }, none,
        none⟩ := by decide +kernel
  have hgives : GivesTotal halfCent.text (.string "-0.125") :=
    ⟨halfCent, _, _, _, hdenotes, rfl, rfl, rfl, rfl⟩
  have hsize : Decimal.IsSize (['0'] ++ '.' :: ['1', '2', '5']) ((125 : ℕ) / 10 ^ 3) :=
    .pointed (by simp) (by simp) (by simp) (by decide)
  have hgiven : IsGiven (.string "-0.125") (-((125 : ℕ) / 10 ^ 3)) := .text (.minus hsize)
  exact ⟨_, hparse, rfl, hgives, hgiven, total_exact.1 _ _ _ _ hparse rfl hgives hgiven⟩

end ReceiptPrinting
