import ReceiptPrinting.Number.Natural
import ReceiptPrinting.Text.Blank

/-!
# The time of an order, as the clock on the wall showed it

A till writes the time of an order as text. What is printed is the date and the time as they are
written there: an offset from universal time is read, so that the text is known to be a time, and
then forgotten.

Two forms are accepted.

* `WallClock.ofInternet?`: `2024-03-05T18:42:10.5+02:00`, the profile of ISO 8601 for the internet.
  All fields have their full width, and an offset is required.
* `WallClock.ofLocal?`: `2024-3-5 18:42` or `2024-03-05T18:42:10.5`, without an offset. Fields may
  be shorter and have blanks before them, and a year with a sign may be longer.

`Stamp.ofText?` is what a ticket's text comes to: a time, or the text itself where it is none.
-/

namespace ReceiptPrinting

/-- A date and a time of day, to the minute. -/
structure WallClock where
  year : Int
  month : Nat
  day : Nat
  hour : Nat
  minute : Nat
deriving DecidableEq, Repr

namespace WallClock

open Natural (digit?)

/-! ## 1. The calendar -/

/-- Has the year a 29th of February? -/
def isLeapYear (y : Int) : Bool := y % 4 == 0 && (y % 100 != 0 || y % 400 == 0)

/-- The days of a month. -/
def daysIn (y : Int) (month : Nat) : Nat :=
  match month with
  | 2 => if isLeapYear y then 29 else 28
  | 4 | 6 | 9 | 11 => 30
  | _ => 31

/-- The years that dates are known in. -/
def knownYear (y : Int) : Bool := -262143 ≤ y && y ≤ 262142

/-- A time of the calendar: a month from 1 to 12, a day of that month, an hour below 24, a minute
    below 60, a second of at most 60. -/
def ofFields? (year : Int) (month day hour minute second : Nat) : Option WallClock :=
  if knownYear year && 1 ≤ month && month ≤ 12 && 1 ≤ day && day ≤ daysIn year month &&
      hour < 24 && minute < 60 && second ≤ 60 then
    some ⟨year, month, day, hour, minute⟩
  else none

/-! ## 2. Fields of a text -/

/-- Reads at least `least` and at most `most` digits. -/
def number (least most : Nat) (cs : List Char) : Option (Nat × List Char) :=
  let ds := (cs.take most).takeWhile fun c => (digit? c).isSome
  if ds.length < least then none
  else some (ds.foldl (fun n c => n * 10 + (digit? c).getD 0) 0, cs.drop ds.length)

/-- Reads one character. -/
def char (x : Char) : List Char → Option (List Char)
  | c :: r => if c = x then some r else none
  | [] => none

/-- Reads all digits, at least one. -/
def digits (cs : List Char) : Option (List Char) := (number 1 cs.length cs).map (·.2)

/-- Reads the fraction of a second, if there is one. -/
def fraction (cs : List Char) : Option (List Char) :=
  match cs with
  | '.' :: r => digits r
  | _ => some cs

/-! ## 3. The form with an offset -/

/-- Reads the offset: `Z`, or a sign, hours below 24 and minutes below 60. -/
def offset (cs : List Char) : Option (List Char) :=
  match cs with
  | [] => none
  | c :: r =>
    if c = 'Z' || c = 'z' then some r
    else if c = '+' || c = '-' || c = '−' then do
      let (h, r) ← number 2 2 r
      let r ← char ':' r
      let (m, r) ← number 2 2 r
      if h < 24 && m < 60 then some r else none
    else none

/-- The character between date and time. -/
def dateMark : List Char → Option (List Char)
  | c :: r => if c = 'T' || c = 't' || c = ' ' then some r else none
  | [] => none

/-- A time with an offset. -/
def ofInternet? (cs : List Char) : Option WallClock := do
  let (year, r) ← number 4 4 cs
  let r ← char '-' r
  let (month, r) ← number 2 2 r
  let r ← char '-' r
  let (day, r) ← number 2 2 r
  let r ← dateMark r
  let (hour, r) ← number 2 2 r
  let r ← char ':' r
  let (minute, r) ← number 2 2 r
  let r ← char ':' r
  let (second, r) ← number 2 2 r
  let r ← fraction r
  let r ← offset r
  if r.isEmpty then ofFields? year month day hour minute second else none

/-! ## 4. The form without an offset -/

/-- Reads a field of one or two digits, with or without blanks before it. -/
def field (cs : List Char) : Option (Nat × List Char) := number 1 2 (Text.trimStart cs)

/-- Reads a year: up to four digits, or a sign and any count of digits. -/
def yearField (cs : List Char) : Option (Int × List Char) :=
  match Text.trimStart cs with
  | '-' :: r => (number 1 r.length r).map fun (n, r) => (-(n : Int), r)
  | '+' :: r => (number 1 r.length r).map fun (n, r) => ((n : Int), r)
  | r => (number 1 4 r).map fun (n, r) => ((n : Int), r)

/-- How date and time are kept apart, and whether seconds follow. -/
structure LocalForm where
  /-- `T` between date and time; otherwise blanks, or nothing. -/
  marked : Bool
  seconds : Bool

/-- A time without an offset, in one form. -/
def ofLocalForm? (f : LocalForm) (cs : List Char) : Option WallClock := do
  let (year, r) ← yearField cs
  let r ← char '-' r
  let (month, r) ← field r
  let r ← char '-' r
  let (day, r) ← field r
  let r ← if f.marked then char 'T' r else some (Text.trimStart r)
  let (hour, r) ← field r
  let r ← char ':' r
  let (minute, r) ← field r
  let (second, r) ← if f.seconds then do
      let r ← char ':' r
      let (second, r) ← field r
      pure (second, ← fraction r)
    else pure (0, r)
  if r.isEmpty then ofFields? year month day hour minute second else none

/-- A time without an offset. -/
def ofLocal? (cs : List Char) : Option WallClock :=
  ofLocalForm? ⟨true, true⟩ cs <|> ofLocalForm? ⟨false, true⟩ cs <|>
    ofLocalForm? ⟨true, false⟩ cs <|> ofLocalForm? ⟨false, false⟩ cs

/-- A time. -/
def ofChars? (cs : List Char) : Option WallClock := ofInternet? cs <|> ofLocal? cs

/-! ## 5. Text -/

/-- A year: four digits, with a sign if it has more or lies before the year 0. -/
def yearChars (y : Int) : List Char :=
  if 0 ≤ y ∧ y ≤ 9999 then Natural.padded 4 y.natAbs
  else (if y < 0 then '-' else '+') :: Natural.padded 4 y.natAbs

/-- The time of day: `HH:MM`. -/
def timeChars (w : WallClock) : List Char :=
  Natural.padded 2 w.hour ++ ':' :: Natural.padded 2 w.minute

/-- Date and time: `YYYY-MM-DD HH:MM`. -/
def dateTimeChars (w : WallClock) : List Char :=
  yearChars w.year ++ '-' :: Natural.padded 2 w.month ++ '-' :: Natural.padded 2 w.day ++
    ' ' :: w.timeChars

end WallClock

/-! ## 6. Stamps -/

/-- The time of an order, as far as it can be told. -/
inductive Stamp where
  | clock (w : WallClock)
  /-- A text that is no time in any form accepted; it is printed as it is. -/
  | verbatim (s : String)
deriving DecidableEq, Repr

namespace Stamp

/-- The stamp that a text comes to. A blank text is none. -/
def ofText? (s : String) : Option Stamp :=
  (Text.printable s).map fun t =>
    match WallClock.ofChars? t.toList with
    | some w => clock w
    | none => verbatim t

/-- The stamp with its date. -/
def dateTime : Stamp → String
  | clock w => String.ofList w.dateTimeChars
  | verbatim s => s

/-- The stamp without its date. -/
def time : Stamp → String
  | clock w => String.ofList w.timeChars
  | verbatim s => s

end Stamp

end ReceiptPrinting
