import ReceiptPrinting.Proofs.WallClock.Forms

/-!
# Times as a till writes them

A till writes every field in full width, with `T` or a space between date and time, and behind the
minute nothing, or the seconds, or the seconds and an offset. Whatever figures it writes, the text
is read as a time exactly if there is such a time and such an offset, and the time that is read has
the figures that were written: a fraction and an offset do not move it.

* `Zone`, `Ending`, `Writing`: what is written, and its characters;
* `Writing.Possible`: a date of the calendar, a time of day, an offset of less than a day;
* **`ofChars?_chars`**: exactly what is possible is read;
* `dateTimeChars_clock`, `timeChars_clock`: what is printed of it are the characters written.
-/

namespace ReceiptPrinting.WallClock

open Natural (padded)
open Text (isBlank Trimmed)

/-! ## 1. What is written -/

/-- An offset from universal time. -/
inductive Zone where
  | zulu
  | hours (ahead : Bool) (hour minute : Fin 100)

/-- What stands behind the minute. A fraction without digits is not written. -/
inductive Ending where
  | bare
  | seconds (second : Fin 100) (fraction : List (Fin 10))
  | zoned (second : Fin 100) (fraction : List (Fin 10)) (zone : Zone)

/-- The figures of a date and a time of day. -/
structure Writing where
  year : Fin 10000
  month : Fin 100
  day : Fin 100
  hour : Fin 100
  minute : Fin 100
  /-- A space between date and time; otherwise `T`. -/
  spaced : Bool
  ending : Ending

/-- `Z`, or `+HH:MM`, or `-HH:MM`. -/
def Zone.chars : Zone → List Char
  | zulu => ['Z']
  | hours ahead h m => (if ahead then '+' else '-') :: (padded 2 h ++ ':' :: padded 2 m)

/-- A point and the digits, if there are any. -/
def fractionChars : List (Fin 10) → List Char
  | [] => []
  | d :: ds => '.' :: (d :: ds).map fun e => Nat.digitChar e.val

/-- `:SS.fraction`. -/
def secondChars (s : Fin 100) (fraction : List (Fin 10)) : List Char :=
  ':' :: (padded 2 s ++ fractionChars fraction)

def Ending.chars : Ending → List Char
  | bare => []
  | seconds s fraction => secondChars s fraction
  | zoned s fraction z => secondChars s fraction ++ z.chars

namespace Writing

/-- `YYYY-MM-DD`. -/
def date (x : Writing) : List Char :=
  padded 4 x.year ++ '-' :: (padded 2 x.month ++ '-' :: padded 2 x.day)

/-- `HH:MM`. -/
def time (x : Writing) : List Char := padded 2 x.hour ++ ':' :: padded 2 x.minute

/-- The character between date and time. -/
def mark (x : Writing) : Char := if x.spaced then ' ' else 'T'

/-- The whole text. -/
def chars (x : Writing) : List Char := x.date ++ x.mark :: (x.time ++ x.ending.chars)

/-- The time that the figures tell. -/
def clock (x : Writing) : WallClock := ⟨(x.year : Nat), x.month, x.day, x.hour, x.minute⟩

end Writing

/-- An offset of less than a day. -/
def Zone.Possible : Zone → Prop
  | zulu => True
  | hours _ h m => h.val < 24 ∧ m.val < 60

instance : DecidablePred Zone.Possible
  | .zulu => isTrue trivial
  | .hours _ h m => inferInstanceAs (Decidable (h.val < 24 ∧ m.val < 60))

/-- A second of a minute; a 60th is one that was put in. -/
def Ending.Possible : Ending → Prop
  | bare => True
  | seconds s _ => s.val ≤ 60
  | zoned s _ z => s.val ≤ 60 ∧ z.Possible

/-- **There is such a time.** -/
structure Writing.Possible (x : Writing) : Prop where
  date : InCalendar (x.year : Nat) x.month x.day
  hour : x.hour.val < 24
  minute : x.minute.val < 60
  ending : x.ending.Possible

/-! ## 2. It is read as it is written -/

theorem numeral_two (n : Fin 100) : Numeral 2 n (padded 2 n) := numeral_padded (by decide) n.isLt

theorem fraction_chars (ds : List (Fin 10)) : Fraction (fractionChars ds) := by
  cases ds with
  | nil => exact .absent
  | cons d ds =>
    refine .digits (List.map_eq_nil_iff.not.mpr (List.cons_ne_nil d ds)) fun c hc => ?_
    obtain ⟨e, -, rfl⟩ := List.mem_map.mp hc
    rw [Nat.isDigit_digitChar, decide_eq_true_eq]
    exact e.isLt

theorem Zone.apart (z : Zone) : Apart z.chars := by
  cases z with
  | zulu => exact apart_cons rfl (by decide)
  | hours ahead h m => cases ahead <;> exact apart_cons rfl (by decide)

/-- An offset is read to its end, if it is less than a day. -/
theorem Zone.offset_chars (z : Zone) :
    offset z.chars = if z.Possible then some [] else none := by
  cases z with
  | zulu => exact (if_pos trivial).symm
  | hours ahead h m =>
    have hsign : (if ahead then '+' else '-') ∈ ['+', '-', '−'] := by cases ahead <;> decide
    have hread := offset_hours (r := []) hsign (numeral_two h) (numeral_two m)
    rw [List.append_nil] at hread
    rw [chars, hread]
    rfl

namespace Writing

variable (x : Writing)

theorem mark_mem : x.mark ∈ ['T', 't', ' '] := by
  rw [mark]
  split <;> decide

theorem fullText : FullText x.mark x.clock (x.date ++ x.mark :: x.time) := by
  have h := FullText.mk (x := x.mark) (w := x.clock) rfl (numeral_padded (by decide) x.year.isLt)
    (numeral_two x.month) (numeral_two x.day) (numeral_two x.hour) (numeral_two x.minute)
  rw [date, time, List.append_assoc, List.cons_append, List.append_assoc, List.cons_append]
  exact h

theorem localText : ∃ marked, LocalText marked x.clock (x.date ++ x.mark :: x.time) := by
  have h := x.fullText
  unfold mark at *
  split at h
  case isTrue hspaced => exact ⟨false, by rw [if_pos hspaced]; exact h.spaced⟩
  case isFalse hspaced => exact ⟨true, by rw [if_neg hspaced]; exact h.marked⟩

theorem chars_eq : x.chars = (x.date ++ x.mark :: x.time) ++ x.ending.chars := by
  rw [List.append_assoc]
  rfl

theorem possible_iff : x.Possible ↔ x.clock.Possible ∧ x.ending.Possible := by
  have hyear := x.year.isLt
  constructor
  · intro ⟨hdate, hhour, hminute, hending⟩
    refine ⟨⟨?_, hdate, hhour, hminute⟩, hending⟩
    simp only [clock]
    omega
  · intro ⟨⟨_, hdate, hhour, hminute⟩, hending⟩
    exact ⟨hdate, hhour, hminute, hending⟩

/-- **Exactly what is possible is read**, and as the time that the figures tell. -/
theorem ofChars?_chars {w : WallClock} :
    ofChars? x.chars = some w ↔ x.Possible ∧ w = x.clock := by
  have hfull := x.fullText
  obtain ⟨marked, hlocal⟩ := x.localText
  rw [possible_iff, chars_eq, ofChars?]
  -- behind the minute it shows which reader takes the text; the others refuse it for what follows
  cases x.ending with
  | bare =>
    have hread := ofLocal?_append hlocal .absent
    rw [Ending.chars, ofInternet?_bare hfull x.mark_mem, hread, Option.orElse_eq_orElse,
      Option.orElse_eq_or, Option.none_or, check?_eq_some_iff, iff_true_intro (Nat.zero_le 60)]
    rfl
  | seconds s fraction =>
    have hzoned : ofInternet? (_ ++ ':' :: (_ ++ (_ ++ []))) = none :=
      ofInternet?_append hfull x.mark_mem (numeral_two s) (fraction_chars fraction)
        noDigit_nil noPoint_nil
    have hread := ofLocal?_append hlocal (.written (numeral_two s).field (fraction_chars fraction))
    rw [List.append_nil] at hzoned
    rw [Ending.chars, secondChars, hread, hzoned, Option.orElse_eq_orElse, Option.orElse_eq_or,
      Option.none_or, check?_eq_some_iff]
    rfl
  | zoned s fraction z =>
    have hchars : (Ending.zoned s fraction z).chars =
        ':' :: (padded 2 s ++ (fractionChars fraction ++ z.chars)) := by
      rw [Ending.chars, secondChars, List.cons_append, List.append_assoc]
    rw [hchars, ofLocal?_zoned x.mark_mem hfull (numeral_two s) (fraction_chars fraction) z.apart,
      ofInternet?_append hfull x.mark_mem (numeral_two s) (fraction_chars fraction)
        z.apart.noDigit z.apart.noPoint,
      z.offset_chars, Option.orElse_eq_orElse, Option.orElse_eq_or, Option.or_none]
    by_cases hz : z.Possible
    · have hending : (Ending.zoned s fraction z).Possible ↔ s.val ≤ 60 :=
        ⟨fun h => h.1, fun hs => ⟨hs, hz⟩⟩
      rw [if_pos hz, Option.bind_some, List.isEmpty_nil, if_pos rfl, check?_eq_some_iff, hending]
    · rw [if_neg hz, Option.bind_none]
      refine ⟨fun h => ?_, fun h => absurd h.1.2.2 hz⟩
      cases h

/-! ## 3. It is printed as it is written -/

theorem timeChars_clock : x.clock.timeChars = x.time := rfl

/-- **The digits that are printed are those that were written.** -/
theorem dateTimeChars_clock : x.clock.dateTimeChars = x.date ++ ' ' :: x.time := by
  have hyear : 0 ≤ x.clock.year ∧ x.clock.year ≤ 9999 := by
    have hlt := x.year.isLt
    simp only [clock]
    omega
  rw [dateTimeChars, yearChars, if_pos hyear, timeChars_clock]
  simp only [date, clock, Int.natAbs_natCast, List.append_assoc, List.cons_append]

/-! ## 4. It has no blank ends -/

/-- No character of the text is blank. -/
def Solid (cs : List Char) : Prop := ∀ c ∈ cs, isBlank c = false

theorem solid_append {cs ds : List Char} : Solid (cs ++ ds) ↔ Solid cs ∧ Solid ds :=
  List.forall_mem_append

theorem solid_cons {c : Char} {cs : List Char} : Solid (c :: cs) ↔ isBlank c = false ∧ Solid cs :=
  List.forall_mem_cons

theorem solid_of_isDigit {cs : List Char} (h : ∀ c ∈ cs, c.isDigit = true) : Solid cs :=
  fun c hc => Natural.isBlank_of_isDigit (h c hc)

theorem solid_two (n : Fin 100) : Solid (padded 2 n) := solid_of_isDigit (numeral_two n).digits

theorem solid_fractionChars (ds : List (Fin 10)) : Solid (fractionChars ds) := by
  generalize hfs : fractionChars ds = fs
  cases hfs ▸ fraction_chars ds with
  | absent => exact fun c hc => nomatch hc
  | digits _ digits => exact solid_cons.mpr ⟨rfl, solid_of_isDigit digits⟩

theorem solid_ending (e : Ending) : Solid e.chars := by
  have hsecond (s : Fin 100) (fraction : List (Fin 10)) : Solid (secondChars s fraction) :=
    solid_cons.mpr ⟨rfl, solid_append.mpr ⟨solid_two s, solid_fractionChars fraction⟩⟩
  have hzone (z : Zone) : Solid z.chars := by
    cases z with
    | zulu => exact solid_cons.mpr ⟨rfl, fun c hc => nomatch hc⟩
    | hours ahead h m =>
      refine solid_cons.mpr ⟨by cases ahead <;> rfl, solid_append.mpr ⟨solid_two h, ?_⟩⟩
      exact solid_cons.mpr ⟨rfl, solid_two m⟩
  cases e with
  | bare => exact fun c hc => nomatch hc
  | seconds s fraction => exact hsecond s fraction
  | zoned s fraction z => exact solid_append.mpr ⟨hsecond s fraction, hzone z⟩

/-- **A time starts with a digit, and no character from the hour on is blank.** -/
theorem trimmed_chars : Trimmed x.chars := by
  obtain ⟨c, es, hyear, hc⟩ :=
    (numeral_padded (k := 4) (by decide) x.year.isLt).start (by decide)
  have htail : Solid (x.time ++ x.ending.chars) :=
    solid_append.mpr ⟨solid_append.mpr ⟨solid_two x.hour, solid_cons.mpr ⟨rfl, solid_two x.minute⟩⟩,
      solid_ending x.ending⟩
  constructor
  case first =>
    intro d hd
    rw [chars, date, hyear] at hd
    cases hd
    exact Natural.isBlank_of_isDigit hc
  case last =>
    intro d hd
    have hne : x.time ++ x.ending.chars ≠ [] := by simp [time]
    rw [chars, List.append_cons, List.getLast?_append_of_ne_nil _ hne] at hd
    exact htail d (List.mem_of_getLast? hd)

theorem chars_ne_nil : x.chars ≠ [] := by simp [chars]

end Writing

end ReceiptPrinting.WallClock
