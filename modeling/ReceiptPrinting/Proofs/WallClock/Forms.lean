import ReceiptPrinting.Proofs.WallClock.Fields

/-!
# The forms of a time

What counts as a time is told by a grammar: the time with an offset, its fields in full width, and
the local one with its shorter fields. The date has to be one of the calendar. Five readers are
tried in turn, and a text that one of them reads is read by no other. So it does not matter in which
order they are tried, and a text is read as at most one time.

* `Leap`, `InCalendar`, `Possible`: the calendar, and the times of a day;
* `Offset`, `FullText`, `LocalText`, `Seconds`: the parts of a time as they are written;
* `Accepted`: the texts that are a time;
* **`ofChars?_eq_some_iff`**: exactly these are read, each as the time written in it.
-/

namespace ReceiptPrinting.WallClock

open Text (isBlank trimStart)

/-! ## 1. The calendar -/

/-- A year with a 29th of February. -/
def Leap (y : Int) : Prop := 4 ∣ y ∧ (100 ∣ y → 400 ∣ y)

/-- The days of a year, by month and day. -/
inductive InCalendar (y : Int) (m d : Nat) : Prop where
  | long (month : m ∈ [1, 3, 5, 7, 8, 10, 12]) (first : 1 ≤ d) (last : d ≤ 31)
  | short (month : m ∈ [4, 6, 9, 11]) (first : 1 ≤ d) (last : d ≤ 30)
  | february (month : m = 2) (first : 1 ≤ d) (last : d ≤ 28)
  | leapDay (month : m = 2) (day : d = 29) (leap : Leap y)

/-- A time of a day in the calendar. -/
structure Possible (w : WallClock) : Prop where
  known : -262143 ≤ w.year ∧ w.year ≤ 262142
  date : InCalendar w.year w.month w.day
  hour : w.hour < 24
  minute : w.minute < 60

theorem isLeapYear_iff (y : Int) : isLeapYear y = true ↔ Leap y := by
  simp only [isLeapYear, Leap, Bool.and_eq_true, Bool.or_eq_true, beq_iff_eq, bne_iff_ne]
  omega

theorem inCalendar_iff (y : Int) (m d : Nat) :
    InCalendar y m d ↔ (1 ≤ m ∧ m ≤ 12) ∧ 1 ≤ d ∧ d ≤ daysIn y m := by
  constructor
  · intro h
    cases h with
    | long month first last =>
      simp only [List.mem_cons, List.not_mem_nil, or_false] at month
      rcases month with rfl | rfl | rfl | rfl | rfl | rfl | rfl <;> exact ⟨by decide, first, last⟩
    | short month first last =>
      simp only [List.mem_cons, List.not_mem_nil, or_false] at month
      rcases month with rfl | rfl | rfl | rfl <;> exact ⟨by decide, first, last⟩
    | february month first last =>
      subst month
      refine ⟨by decide, first, ?_⟩
      rw [daysIn]
      split <;> omega
    | leapDay month day leap =>
      subst month day
      refine ⟨by decide, by decide, ?_⟩
      rw [daysIn, if_pos ((isLeapYear_iff y).mpr leap)]
  · intro ⟨hm, first, last⟩
    unfold daysIn at last
    split at last
    case h_1 =>
      by_cases hleap : isLeapYear y = true
      · rw [if_pos hleap] at last
        by_cases hd : d = 29
        · exact .leapDay rfl hd ((isLeapYear_iff y).mp hleap)
        · exact .february rfl first (by omega)
      · rw [if_neg hleap] at last
        exact .february rfl first last
    case h_6 h2 h4 h6 h9 h11 =>
      refine .long ?_ first last
      simp only [List.mem_cons, List.not_mem_nil, or_false]
      have hother : m ≠ 2 ∧ m ≠ 4 ∧ m ≠ 6 ∧ m ≠ 9 ∧ m ≠ 11 := ⟨h2, h4, h6, h9, h11⟩
      omega
    all_goals exact .short (by decide) first last

instance (y : Int) (m d : Nat) : Decidable (InCalendar y m d) :=
  decidable_of_iff _ (inCalendar_iff y m d).symm

/-- The time with these fields, if there is one. -/
def check? (w : WallClock) (s : Nat) : Option WallClock :=
  ofFields? w.year w.month w.day w.hour w.minute s

/-- **A time is made of fields exactly if it is possible.** -/
theorem check?_eq_some_iff {w v : WallClock} {s : Nat} :
    w.check? s = some v ↔ (w.Possible ∧ s ≤ 60) ∧ v = w := by
  have hpossible : w.Possible ↔ (-262143 ≤ w.year ∧ w.year ≤ 262142) ∧
      ((1 ≤ w.month ∧ w.month ≤ 12) ∧ 1 ≤ w.day ∧ w.day ≤ daysIn w.year w.month) ∧
      w.hour < 24 ∧ w.minute < 60 := by
    rw [← inCalendar_iff]
    exact ⟨fun ⟨a, b, c, d⟩ => ⟨a, b, c, d⟩, fun ⟨a, b, c, d⟩ => ⟨a, b, c, d⟩⟩
  rw [hpossible, check?, ofFields?]
  simp only [knownYear, Bool.and_eq_true, decide_eq_true_eq]
  split
  case isTrue h =>
    rw [Option.some_inj]
    constructor
    · intro hv
      exact ⟨by omega, hv.symm⟩
    · intro hv
      exact hv.2.symm
  case isFalse h =>
    constructor
    · intro hv
      cases hv
    · intro hv
      omega

/-! ## 2. Offsets -/

/-- `Z`, or a sign, an hour and a minute. -/
inductive Offset : List Char → Prop where
  | zulu {c : Char} (letter : c ∈ ['Z', 'z']) : Offset [c]
  | hours {c : Char} {h m : Nat} {hs ms : List Char} (sign : c ∈ ['+', '-', '−'])
    (hour : Numeral 2 h hs) (minute : Numeral 2 m ms) (below : h < 24 ∧ m < 60) :
    Offset (c :: (hs ++ ':' :: ms))

section

variable {c : Char} {h m : Nat} {cs hs ms r zs : List Char}

theorem char_cons (x : Char) (r : List Char) : char x (x :: r) = some r := if_pos rfl

theorem char_eq_some_iff {x : Char} : char x cs = some r ↔ cs = x :: r := by
  cases cs with
  | nil => simp [char]
  | cons c cs =>
    simp only [char, Option.ite_none_right_eq_some, Option.some_inj, List.cons.injEq]

/-- Two digits for each, and the whole below a day. -/
theorem offset_hours (hc : c ∈ ['+', '-', '−']) (hh : Numeral 2 h hs) (hm : Numeral 2 m ms) :
    offset (c :: (hs ++ ':' :: (ms ++ r))) = if h < 24 ∧ m < 60 then some r else none := by
  have hsign : ¬ (c = 'Z' || c = 'z') = true ∧ (c = '+' || c = '-' || c = '−') = true := by
    simp only [List.mem_cons, List.not_mem_nil, or_false] at hc
    rcases hc with rfl | rfl | rfl <;> decide
  simp only [offset, if_neg hsign.1, if_pos hsign.2, number_full hh, number_full hm, char_cons,
    Option.bind_eq_bind, Option.bind_some, Bool.and_eq_true, decide_eq_true_eq]

theorem offset_append (hz : Offset zs) : offset (zs ++ r) = some r := by
  cases hz with
  | @zulu c letter =>
    have hletter : (c = 'Z' || c = 'z') = true := by
      simpa only [List.mem_cons, List.not_mem_nil, or_false, Bool.or_eq_true, decide_eq_true_eq]
        using letter
    exact if_pos hletter
  | hours sign hour minute below =>
    rw [List.cons_append, List.append_assoc, List.cons_append, offset_hours sign hour minute,
      if_pos below]

theorem offset_sound (hread : offset cs = some r) : ∃ zs, Offset zs ∧ cs = zs ++ r := by
  unfold offset at hread
  split at hread
  case h_1 => cases hread
  case h_2 c cs =>
    split at hread
    case isTrue hletter =>
      cases hread
      refine ⟨[c], .zulu ?_, rfl⟩
      simpa only [List.mem_cons, List.not_mem_nil, or_false, Bool.or_eq_true, decide_eq_true_eq]
        using hletter
    case isFalse =>
      split at hread
      case isTrue hsign =>
        simp only [Option.bind_eq_bind, Option.bind_eq_some_iff, Prod.exists, char_eq_some_iff,
          Option.ite_none_right_eq_some, Option.some_inj, Bool.and_eq_true,
          decide_eq_true_eq] at hread
        obtain ⟨h, r₁, hh, r₂, rfl, m, r₃, hm, below, rfl⟩ := hread
        obtain ⟨hs, hhour, rfl⟩ := number_full_sound hh
        obtain ⟨ms, hminute, rfl⟩ := number_full_sound hm
        refine ⟨c :: (hs ++ ':' :: ms), .hours ?_ hhour hminute below, by simp⟩
        simpa only [List.mem_cons, List.not_mem_nil, or_false, Bool.or_eq_true, decide_eq_true_eq,
          or_assoc] using hsign
      case isFalse => cases hread

/-- What an offset starts with: something, which is neither a digit nor a point. -/
structure Apart (r : List Char) : Prop where
  ne_nil : r ≠ []
  noDigit : NoDigit r
  noPoint : ∀ c ∈ r.head?, c ≠ '.'

theorem apart_cons (hdigit : c.isDigit = false) (hpoint : c ≠ '.') : Apart (c :: r) where
  ne_nil := List.cons_ne_nil c r
  noDigit := noDigit_cons hdigit
  noPoint := by
    intro d hd
    cases hd
    exact hpoint

theorem Offset.apart (hz : Offset zs) : Apart zs := by
  cases hz with
  | zulu letter =>
    simp only [List.mem_cons, List.not_mem_nil, or_false] at letter
    rcases letter with rfl | rfl <;> exact apart_cons rfl (by decide)
  | hours sign _ _ _ =>
    simp only [List.mem_cons, List.not_mem_nil, or_false] at sign
    rcases sign with rfl | rfl | rfl <;> exact apart_cons rfl (by decide)

end

/-! ## 3. Times with an offset -/

/-- Date and time of day to the minute, all in full width, with `x` between the two. -/
inductive FullText (x : Char) (w : WallClock) : List Char → Prop where
  | mk {y : Nat} {ys ms ds hs mis : List Char} (known : w.year = y) (year : Numeral 4 y ys)
    (month : Numeral 2 w.month ms) (day : Numeral 2 w.day ds) (hour : Numeral 2 w.hour hs)
    (minute : Numeral 2 w.minute mis) :
    FullText x w (ys ++ '-' :: (ms ++ '-' :: (ds ++ x :: (hs ++ ':' :: mis))))

section

variable {x : Char} {w : WallClock} {s : Nat} {cs ss fs zs r : List Char}

theorem dateMark_eq_some_iff :
    dateMark cs = some r ↔ ∃ x ∈ ['T', 't', ' '], cs = x :: r := by
  cases cs with
  | nil => simp [dateMark]
  | cons c cs =>
    simp only [dateMark, Option.ite_none_right_eq_some, Option.some_inj, List.cons.injEq,
      Bool.or_eq_true, decide_eq_true_eq, List.mem_cons, List.not_mem_nil, or_false]
    constructor
    · rintro ⟨hc, rfl⟩
      exact ⟨c, or_assoc.mp hc, rfl, rfl⟩
    · rintro ⟨x, hx, rfl, rfl⟩
      exact ⟨or_assoc.mpr hx, rfl⟩

/-- A full text is read before it matters what follows. -/
theorem ofInternet?_minute (h : FullText x w cs) (hx : x ∈ ['T', 't', ' ']) (r : List Char) :
    ofInternet? (cs ++ r) =
      (char ':' r).bind fun r => (number 2 2 r).bind fun (second, r) =>
      (fraction r).bind fun r => (offset r).bind fun r =>
        if r.isEmpty then w.check? second else none := by
  obtain ⟨hknown, hy, hm, hd, hh, hmi⟩ := h
  have hmark (r : List Char) : dateMark (x :: r) = some r := dateMark_eq_some_iff.mpr ⟨x, hx, rfl⟩
  simp only [ofInternet?, List.append_assoc, List.cons_append, hmark, char_cons, number_full hy,
    number_full hm, number_full hd, number_full hh, number_full hmi, Option.bind_eq_bind,
    Option.bind_some, check?, hknown]

/-- Without seconds there is no offset either. -/
theorem ofInternet?_bare (h : FullText x w cs) (hx : x ∈ ['T', 't', ' ']) :
    ofInternet? (cs ++ []) = none := by
  rw [ofInternet?_minute h hx]
  rfl

/-- **A text with seconds is read to its offset**, and then it depends on that. -/
theorem ofInternet?_append (h : FullText x w cs) (hx : x ∈ ['T', 't', ' ']) (hs : Numeral 2 s ss)
    (hf : Fraction fs) (hdigit : NoDigit zs) (hpoint : ∀ c ∈ zs.head?, c ≠ '.') :
    ofInternet? (cs ++ ':' :: (ss ++ (fs ++ zs))) =
      (offset zs).bind fun r => if r.isEmpty then w.check? s else none := by
  rw [ofInternet?_minute h hx]
  simp only [char_cons, number_full hs, fraction_append hf hdigit hpoint, Option.bind_some]

/-- **What is read with an offset is a full text**, a fraction and an offset. -/
theorem ofInternet?_sound (hread : ofInternet? cs = some w) :
    ∃ x v s ds ss fs zs, x ∈ ['T', 't', ' '] ∧ FullText x v ds ∧ Numeral 2 s ss ∧ Fraction fs ∧
      Offset zs ∧ v.check? s = some w ∧ cs = ds ++ ':' :: (ss ++ (fs ++ zs)) := by
  simp only [ofInternet?, Option.bind_eq_bind, Option.bind_eq_some_iff, Prod.exists,
    char_eq_some_iff, dateMark_eq_some_iff, Option.ite_none_right_eq_some,
    List.isEmpty_iff] at hread
  obtain ⟨y, _, hy, _, rfl, m, _, hm, _, rfl, d, _, hd, _, ⟨x, hx, rfl⟩, h, _, hh, _, rfl, mi, _,
    hmi, _, rfl, s, _, hs, _, hf, _, hz, rfl, hcheck⟩ := hread
  obtain ⟨ys, hys, rfl⟩ := number_full_sound hy
  obtain ⟨ms, hms, rfl⟩ := number_full_sound hm
  obtain ⟨ds, hds, rfl⟩ := number_full_sound hd
  obtain ⟨hs', hhs, rfl⟩ := number_full_sound hh
  obtain ⟨mis, hmis, rfl⟩ := number_full_sound hmi
  obtain ⟨ss, hss, rfl⟩ := number_full_sound hs
  obtain ⟨fs, hfs, rfl⟩ := fraction_sound hf
  obtain ⟨zs, hzs, rfl⟩ := offset_sound hz
  exact ⟨x, ⟨y, m, d, h, mi⟩, s, _, ss, fs, zs, hx, .mk rfl hys hms hds hhs hmis, hss, hfs, hzs,
    hcheck, by simp⟩

end

/-! ## 4. Local times -/

/-- What stands between a day of `k` digits and the hour `hs`: `T`, or only the blanks that the hour
    has before it. -/
inductive Gap (k : Nat) (hs : List Char) : Bool → List Char → Prop where
  | mark : Gap k hs true ['T']
  | blanks (apart : k = 2 ∨ NoDigit hs) : Gap k hs false []

/-- Date and time of day to the minute, in fields that may be shorter. -/
inductive LocalText (marked : Bool) (w : WallClock) : List Char → Prop where
  | mk {j k l i : Nat} {ys ms ds gs hs mis : List Char} (year : YearField w.year ys)
    (month : Field j w.month ms) (day : Field k w.day ds) (gap : Gap k hs marked gs)
    (hour : Field l w.hour hs) (minute : Field i w.minute mis) :
    LocalText marked w (ys ++ '-' :: (ms ++ '-' :: (ds ++ (gs ++ (hs ++ ':' :: mis)))))

/-- The seconds with their fraction, or nothing. -/
inductive Seconds : Bool → Nat → List Char → Prop where
  | written {k s : Nat} {ss fs : List Char} (second : Field k s ss) (fraction : Fraction fs) :
    Seconds true s (':' :: (ss ++ fs))
  | absent : Seconds false 0 []

/-- Reads the hour. -/
def hourField (marked : Bool) (cs : List Char) : Option (Nat × List Char) :=
  if marked then (char 'T' cs).bind field else field cs

/-- Reads the seconds, up to the end of the text. -/
def secondsField (written : Bool) (cs : List Char) : Option Nat :=
  if written then do
    let r ← char ':' cs
    let (second, r) ← field r
    let r ← fraction r
    if r.isEmpty then some second else none
  else if cs.isEmpty then some 0 else none

/-- A local time is read field by field. -/
theorem ofLocalForm?_eq (f : LocalForm) (cs : List Char) :
    ofLocalForm? f cs =
      (yearField cs).bind fun (year, r) => (char '-' r).bind fun r =>
      (field r).bind fun (month, r) => (char '-' r).bind fun r =>
      (field r).bind fun (day, r) => (hourField f.marked r).bind fun (hour, r) =>
      (char ':' r).bind fun r => (field r).bind fun (minute, r) =>
      (secondsField f.seconds r).bind (check? ⟨year, month, day, hour, minute⟩) := by
  have htrim (cs : List Char) : field (trimStart cs) = field cs := by
    rw [field, field, trimStart, trimStart, List.dropWhile_idempotent]
  have hend (r : List Char) (w : WallClock) (s : Nat) :
      (if r = [] then some s else none).bind w.check? =
        if r = [] then ofFields? w.year w.month w.day w.hour w.minute s else none := by
    split <;> rfl
  obtain ⟨marked, seconds⟩ := f
  cases marked <;> cases seconds <;>
    simp [ofLocalForm?, hourField, secondsField, htrim, hend, Option.bind_assoc]

section

variable {k l h s : Nat} {b c : Bool} {w : WallClock} {cs gs hs fs ss zs r : List Char}

/-- An hour is read behind the mark that belongs to the form, and behind no other. -/
theorem hourField_append (hgap : Gap k hs b gs) (hour : Field l h hs) (hr : l = 2 ∨ NoDigit r)
    (marked : Bool) :
    hourField marked (gs ++ (hs ++ r)) = if marked = b then some (h, r) else none := by
  cases hgap with
  | mark =>
    cases marked with
    | true =>
      rw [hourField, if_pos rfl, if_pos rfl, List.singleton_append, char_cons, Option.bind_some,
        field_append hour hr]
    | false =>
      rw [hourField, if_neg Bool.false_ne_true, if_neg Bool.false_ne_true]
      exact field_cons_eq_none rfl rfl
  | blanks _ =>
    cases marked with
    | true =>
      obtain ⟨c, es, rfl, hc⟩ := hour.start
      have hmark : c ≠ 'T' := by
        intro h
        subst h
        rcases hc with hc | hc <;> cases hc
      rw [hourField, if_pos rfl, if_neg Bool.false_ne_true.symm]
      exact congrArg (Option.bind · field) (if_neg hmark)
    | false =>
      rw [hourField, if_neg Bool.false_ne_true, if_pos rfl, List.nil_append, field_append hour hr]

theorem NoDigit.of_append (hr : NoDigit (cs ++ r)) : NoDigit cs := by
  cases cs with
  | nil => exact noDigit_nil
  | cons c cs => exact hr

theorem hourField_sound (hread : hourField b cs = some (h, r)) (hday : k = 2 ∨ NoDigit cs) :
    ∃ l gs hs, Gap k hs b gs ∧ Field l h hs ∧ cs = gs ++ (hs ++ r) := by
  cases b with
  | true =>
    rw [hourField, if_pos rfl, Option.bind_eq_some_iff] at hread
    obtain ⟨_, hmark, hread⟩ := hread
    obtain rfl := char_eq_some_iff.mp hmark
    obtain ⟨l, hs, hhour, -, rfl⟩ := field_sound hread
    exact ⟨l, ['T'], hs, .mark, hhour, rfl⟩
  | false =>
    rw [hourField, if_neg Bool.false_ne_true] at hread
    obtain ⟨l, hs, hhour, -, rfl⟩ := field_sound hread
    exact ⟨l, [], hs, .blanks (hday.imp_right NoDigit.of_append), hhour, rfl⟩

/-- **What is read as seconds** are the seconds up to the end, or nothing. -/
theorem secondsField_eq_some_iff : secondsField c cs = some s ↔ Seconds c s cs := by
  constructor
  · intro hread
    cases c with
    | true =>
      simp only [secondsField, if_true, Option.bind_eq_bind, Option.bind_eq_some_iff, Prod.exists,
        char_eq_some_iff, Option.ite_none_right_eq_some, List.isEmpty_iff] at hread
      obtain ⟨_, rfl, _, _, hs, _, hf, rfl, heq⟩ := hread
      obtain ⟨k, ss, hss, -, rfl⟩ := field_sound hs
      obtain ⟨fs, hfs, rfl⟩ := fraction_sound hf
      cases heq
      rw [List.append_nil]
      exact .written hss hfs
    | false =>
      simp only [secondsField, Bool.false_eq_true, if_false, Option.ite_none_right_eq_some,
        List.isEmpty_iff, Option.some_inj] at hread
      obtain ⟨rfl, rfl⟩ := hread
      exact .absent
  · intro h
    cases h with
    | @written k s ss fs hs hf =>
      have hfraction : fraction fs = some [] := by
        have h := fraction_append hf noDigit_nil noPoint_nil
        rwa [List.append_nil] at h
      simp only [secondsField, if_true, char_cons, field_append hs (.inr hf.noDigit), hfraction,
        Option.bind_eq_bind, Option.bind_some, List.isEmpty_nil]
    | absent => rfl

/-- What follows the minute tells whether seconds are written. -/
theorem Seconds.isEmpty (hs : Seconds c s cs) : cs.isEmpty = !c := by
  cases hs <;> rfl

/-- So they are read in one way only. -/
theorem secondsField_not (hs : Seconds c s cs) : secondsField (!c) cs = none := by
  cases hread : secondsField (!c) cs with
  | none => rfl
  | some s' =>
    have hother : Seconds (!c) s' cs := secondsField_eq_some_iff.mp hread
    have hempty := hs.isEmpty.symm.trans hother.isEmpty
    cases c <;> cases hempty

/-- Seconds do not end in an offset. -/
theorem secondsField_offset (hs : Field k s ss) (hf : Fraction fs) (hz : Apart zs) :
    secondsField b (':' :: (ss ++ (fs ++ zs))) = none := by
  have hnext : NoDigit (fs ++ zs) := by
    cases hf with
    | absent => exact hz.noDigit
    | digits _ _ => exact noDigit_cons rfl
  cases b with
  | true =>
    simp only [secondsField, if_true, char_cons, field_append hs (.inr hnext),
      fraction_append hf hz.noDigit hz.noPoint, Option.bind_eq_bind, Option.bind_some,
      List.isEmpty_iff, if_neg hz.ne_nil]
  | false => rfl

theorem Seconds.noDigit (h : Seconds c s cs) : NoDigit cs := by
  cases h with
  | written _ _ => exact noDigit_cons rfl
  | absent => exact noDigit_nil

/-- The date of a local time is read before it matters what follows. -/
theorem ofLocalForm?_date {y : Int} {j m d : Nat} {ys ms ds : List Char} (hy : YearField y ys)
    (hm : Field j m ms) (hd : Field k d ds) (hr : k = 2 ∨ NoDigit r) (f : LocalForm) :
    ofLocalForm? f (ys ++ '-' :: (ms ++ '-' :: (ds ++ r))) =
      (hourField f.marked r).bind fun (hour, r) => (char ':' r).bind fun r =>
      (field r).bind fun (minute, r) => (secondsField f.seconds r).bind
        (check? ⟨y, m, d, hour, minute⟩) := by
  have hdash (r : List Char) : NoDigit ('-' :: r) := noDigit_cons rfl
  rw [ofLocalForm?_eq]
  simp only [yearField_append hy (hdash _), char_cons, field_append hm (.inr (hdash _)),
    field_append hd hr, Option.bind_some]

/-- **A local text is read to its seconds**, in the forms that have its mark. -/
theorem ofLocalForm?_append (h : LocalText b w cs) (hr : NoDigit r) (f : LocalForm) :
    ofLocalForm? f (cs ++ r) =
      if f.marked = b then (secondsField f.seconds r).bind w.check? else none := by
  obtain ⟨hy, hm, hd, hgap, hh, hmi⟩ := h
  rename_i j k l i ys ms ds gs hs mis
  have hday : k = 2 ∨ NoDigit (gs ++ (hs ++ ':' :: (mis ++ r))) := by
    cases hgap with
    | mark => exact .inr (noDigit_cons rfl)
    | blanks hapart => exact hapart.imp_right fun h => h.append hh.ne_nil
  have hcolon (r : List Char) : NoDigit (':' :: r) := noDigit_cons rfl
  simp only [List.append_assoc, List.cons_append, ofLocalForm?_date hy hm hd hday,
    hourField_append hgap hh (.inr (hcolon _))]
  split
  case isTrue => simp only [Option.bind_some, char_cons, field_append hmi (.inr hr)]
  case isFalse => rfl

/-- **What is read as a local time** is a local text with its seconds. -/
theorem ofLocalForm?_sound {f : LocalForm} (hread : ofLocalForm? f cs = some w) :
    ∃ v s ds r, LocalText f.marked v ds ∧ Seconds f.seconds s r ∧ v.check? s = some w ∧
      cs = ds ++ r := by
  simp only [ofLocalForm?_eq, Option.bind_eq_some_iff, Prod.exists, char_eq_some_iff] at hread
  obtain ⟨y, _, hy, _, rfl, m, _, hm, _, rfl, d, _, hd, h, _, hh, _, rfl, mi, _, hmi, s, hs,
    hcheck⟩ := hread
  obtain ⟨ys, hys, rfl⟩ := yearField_sound hy
  obtain ⟨j, ms, hms, -, rfl⟩ := field_sound hm
  obtain ⟨k, ds, hds, hday, rfl⟩ := field_sound hd
  obtain ⟨l, gs, hs', hgap, hhs, rfl⟩ := hourField_sound hh hday
  obtain ⟨i, mis, hmis, -, rfl⟩ := field_sound hmi
  exact ⟨⟨y, m, d, h, mi⟩, s, _, _, .mk hys hms hds hgap hhs hmis,
    secondsField_eq_some_iff.mp hs, hcheck, by simp⟩

/-- **A local text with its seconds is read as the time it tells**, in whatever order the forms are
    tried: no other form reads it. -/
theorem ofLocal?_append (h : LocalText b w cs) (hs : Seconds c s r) :
    ofLocal? (cs ++ r) = w.check? s := by
  have hread : secondsField c r = some s := secondsField_eq_some_iff.mpr hs
  have hother : secondsField (!c) r = none := secondsField_not hs
  have hform := ofLocalForm?_append h hs.noDigit
  rw [ofLocal?, hform, hform, hform, hform]
  -- of the four forms, one has the mark and the seconds of the text
  cases b <;> cases c <;> simp only [Bool.not_true, Bool.not_false] at hother <;>
    simp [hread, hother]

theorem ofLocal?_sound (hread : ofLocal? cs = some w) : ∃ f, ofLocalForm? f cs = some w := by
  simp only [ofLocal?, Option.orElse_eq_orElse, Option.orElse_eq_or, Option.or_eq_some_iff] at hread
  rcases hread with h | ⟨-, h | ⟨-, h | ⟨-, h⟩⟩⟩ <;> exact ⟨_, h⟩

end

/-! ## 5. All forms -/

/-- **The texts that are a time.** -/
inductive Accepted (w : WallClock) : List Char → Prop where
  | zoned {x : Char} {s : Nat} {cs ss fs zs : List Char} (mark : x ∈ ['T', 't', ' '])
    (body : FullText x w cs) (second : Numeral 2 s ss) (fraction : Fraction fs)
    (offset : Offset zs) (possible : w.Possible ∧ s ≤ 60) :
    Accepted w (cs ++ ':' :: (ss ++ (fs ++ zs)))
  | plain {marked seconds : Bool} {s : Nat} {cs r : List Char} (body : LocalText marked w cs)
    (seconds : Seconds seconds s r) (possible : w.Possible ∧ s ≤ 60) : Accepted w (cs ++ r)

section

variable {x : Char} {w : WallClock} {s : Nat} {cs ss fs zs r : List Char}

/-- A full text is a local one, if its mark is one of those. -/
theorem FullText.marked (h : FullText 'T' w cs) : LocalText true w cs := by
  obtain ⟨hknown, hy, hm, hd, hh, hmi⟩ := h
  exact .mk (hknown ▸ hy.yearField) hm.field hd.field .mark hh.field hmi.field

theorem FullText.spaced (h : FullText ' ' w cs) : LocalText false w cs := by
  obtain ⟨hknown, hy, hm, hd, hh, hmi⟩ := h
  have hhour : Field 2 w.hour ([' '] ++ _) := .mk (by simp; decide) (.inr rfl) hh
  exact .mk (hknown ▸ hy.yearField) hm.field hd.field (.blanks (.inl rfl)) hhour hmi.field

/-- **What has an offset is no local time.** -/
theorem ofLocal?_zoned (hx : x ∈ ['T', 't', ' ']) (h : FullText x w cs) (hs : Numeral 2 s ss)
    (hf : Fraction fs) (hz : Apart zs) : ofLocal? (cs ++ ':' :: (ss ++ (fs ++ zs))) = none := by
  have hcolon : NoDigit (':' :: (ss ++ (fs ++ zs))) := noDigit_cons rfl
  have hlocal {b : Bool} (h : LocalText b w cs) (f : LocalForm) :
      ofLocalForm? f (cs ++ ':' :: (ss ++ (fs ++ zs))) = none := by
    rw [ofLocalForm?_append h hcolon, secondsField_offset hs.field hf hz]
    split <;> rfl
  have hform (f : LocalForm) : ofLocalForm? f (cs ++ ':' :: (ss ++ (fs ++ zs))) = none := by
    simp only [List.mem_cons, List.not_mem_nil, or_false] at hx
    rcases hx with rfl | rfl | rfl
    · exact hlocal h.marked f
    · obtain ⟨hknown, hy, hm, hd, hh, hmi⟩ := h
      have hnone (b : Bool) (r : List Char) : hourField b ('t' :: r) = none := by
        cases b with
        | true => rfl
        | false =>
          rw [hourField, if_neg Bool.false_ne_true]
          exact field_cons_eq_none rfl rfl
      simp only [List.append_assoc, List.cons_append,
        ofLocalForm?_date hy.yearField hm.field hd.field (.inl rfl), hnone, Option.bind_none]
    · exact hlocal h.spaced f
  simp only [ofLocal?, hform]
  rfl

/-- **Exactly the accepted texts are read**, each as the time written in it. -/
theorem ofChars?_eq_some_iff : ofChars? cs = some w ↔ Accepted w cs := by
  constructor
  · intro hread
    rw [ofChars?, Option.orElse_eq_orElse, Option.orElse_eq_or, Option.or_eq_some_iff] at hread
    rcases hread with hread | ⟨-, hread⟩
    · obtain ⟨x, v, s, ds, ss, fs, zs, hx, h, hs, hf, hz, hcheck, rfl⟩ := ofInternet?_sound hread
      obtain ⟨hpossible, rfl⟩ := check?_eq_some_iff.mp hcheck
      exact .zoned hx h hs hf hz hpossible
    · obtain ⟨f, hread⟩ := ofLocal?_sound hread
      obtain ⟨v, s, ds, r, h, hs, hcheck, rfl⟩ := ofLocalForm?_sound hread
      obtain ⟨hpossible, rfl⟩ := check?_eq_some_iff.mp hcheck
      exact .plain h hs hpossible
  · intro h
    cases h with
    | @zoned x s cs ss fs zs hx h hs hf hz hpossible =>
      have hoffset : offset zs = some [] := by
        rw [← List.append_nil zs]
        exact offset_append hz
      rw [ofChars?, ofInternet?_append h hx hs hf hz.apart.noDigit hz.apart.noPoint, hoffset,
        Option.bind_some, List.isEmpty_nil, if_pos rfl, check?_eq_some_iff.mpr ⟨hpossible, rfl⟩]
      rfl
    | @plain b c s cs r h hs hpossible =>
      have hlocal : ofLocal? (cs ++ r) = some w := by
        rw [ofLocal?_append h hs]
        exact check?_eq_some_iff.mpr ⟨hpossible, rfl⟩
      -- what the reader tried first accepts has an offset, and then it is no local time
      have hzoned : ofInternet? (cs ++ r) = none := by
        cases hread : ofInternet? (cs ++ r) with
        | none => rfl
        | some v =>
          obtain ⟨x, v, s, ds, ss, fs, zs, hx, h, hs, hf, hz, -, heq⟩ := ofInternet?_sound hread
          rw [heq, ofLocal?_zoned hx h hs hf hz.apart] at hlocal
          cases hlocal
      rw [ofChars?, hzoned, hlocal]
      rfl

end

end ReceiptPrinting.WallClock
