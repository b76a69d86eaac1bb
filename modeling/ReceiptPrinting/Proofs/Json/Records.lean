import ReceiptPrinting.Json.Record
import ReceiptPrinting.Proofs.Json.Values

/-!
# Records are read as they are written

A record is written as an object, and what its fields are written as is read by the decoders of the
fields. Then the record is read from the text of the object, in the order the members are written
in, and it is read from the value that the text is, in the order of their names.

* `Decoder.Takes`, `Field.Takes`: a value is read as `a` on both ways;
* `Record.Fills`: members that fill a draft, one field after another;
* `Record.fromText_object`, `Record.fromValue_object`: the two ways of reading the object;
* **`Record.recovers_object`**: a record is read from the text of its object on both ways.
-/

namespace ReceiptPrinting.Json

variable {α β σ : Type}

/-! ## 1. Decoders -/

/-- With `depth` levels of brackets left, the value `v` is read as `a`: from its text, whatever
    follows, and from the value itself. -/
structure Decoder.Takes (d : Decoder α) (depth : Nat) (v : Value) (a : α) : Prop where
  fromText : ∀ {rest : List Char}, Delimited rest → ∀ o, ∃ m,
    d.fromText depth ⟨v.chars ++ rest, o⟩ = .ok (a, ⟨rest, m⟩)
  fromValue : d.fromValue v = .ok a

namespace Decoder

theorem takes_scalar {accept : Found → Except Mismatch α} {v : Value} {a : α} (depth : Nat)
    (h : Plain 0 v) (ha : accept v.found = .ok a) : (scalar accept).Takes depth v a where
  fromText hrest o := by
    obtain ⟨m, hm⟩ := head_scalar h hrest o
    refine ⟨m, ?_⟩
    simp only [scalar, hm, ok_bind, ha]
    rfl
  fromValue := ha

theorem takes_string (depth : Nat) (s : String) : string.Takes depth (.string s) s :=
  takes_scalar depth (.string 0 s) rfl

theorem takes_bool (depth : Nat) (b : Bool) : bool.Takes depth (.bool b) b :=
  takes_scalar depth (.bool 0 b) rfl

theorem takes_wholeWithin {wanted : Wanted} {lo hi n : Int} (depth : Nat) (hn : InWords n)
    (h : lo ≤ n ∧ n ≤ hi) :
    (wholeWithin wanted lo hi).Takes depth (.number (.whole n)) n :=
  takes_scalar depth (.whole 0 hn) (if_pos h)

theorem takes_value {d depth : Nat} {v : Value} (h : Plain d v) (hd : d < depth) :
    value.Takes depth v v where
  fromText hrest o := readsBack_of_plain h hd hrest o (by simp [Cursor.budget])
  fromValue := rfl

theorem Takes.map {d : Decoder α} {depth : Nat} {v : Value} {a : α} (h : d.Takes depth v a)
    (f : α → β) : (d.map f).Takes depth v (f a) where
  fromText hrest o := by
    obtain ⟨m, hm⟩ := h.fromText hrest o
    refine ⟨m, ?_⟩
    simp only [Decoder.map, hm, ok_bind]
    rfl
  fromValue := by
    simp only [Decoder.map, h.fromValue]
    rfl

/-- Only `null` is read as absent. -/
theorem Takes.optional {d : Decoder α} {depth e : Nat} {v : Value} {a : α}
    (h : d.Takes depth v a) (hplain : Plain e v) (hnull : v ≠ .null) :
    (Decoder.optional d).Takes depth v (some a) where
  fromText := by
    intro rest hrest o
    obtain ⟨m, hm⟩ := h.fromText hrest o
    obtain ⟨c, r, hchars, hblank, -, hn⟩ := hplain.start
    refine ⟨m, ?_⟩
    rw [hchars, List.cons_append] at hm ⊢
    simp only [Decoder.optional, skipBlanks_cons _ _ hblank]
    split
    case h_1 heq =>
      cases heq
      exact absurd (hn rfl) hnull
    case h_2 =>
      simp only [hm, ok_bind]
      rfl
  fromValue := by
    cases v with
    | null => exact absurd rfl hnull
    | bool | number | string | array | object =>
      simp only [Decoder.optional, h.fromValue]
      rfl

end Decoder

/-! ## 2. Fields -/

/-- The value `v` is read into the draft `s` on both ways, and the draft is then `t`. -/
structure Field.Takes (f : Field σ) (depth : Nat) (s : σ) (v : Value) (t : σ) : Prop where
  fromText : ∀ {rest : List Char}, Delimited rest → ∀ o, ∃ m,
    f.fromText s depth ⟨v.chars ++ rest, o⟩ = .ok (t, ⟨rest, m⟩)
  fromValue : f.fromValue s v = .ok t

theorem Decoder.Takes.field {d : Decoder α} {depth : Nat} {v : Value} {a : α}
    (h : d.Takes depth v a) (name : String) (required : Bool) (get : σ → Option α)
    (set : σ → α → σ) (s : σ) :
    (Field.of name required d get set).Takes depth s v (set s a) where
  fromText hrest o := by
    obtain ⟨m, hm⟩ := h.fromText hrest o
    refine ⟨m, ?_⟩
    simp only [Field.of, hm, ok_bind]
    rfl
  fromValue := by
    simp only [Field.of, h.fromValue]
    rfl

/-! ## 3. Records -/

namespace Record

/-- The members fill the draft `s` up to `t`: each is a field that the draft has not got before. -/
inductive Fills (r : Record σ α) (depth : Nat) : σ → Members → σ → Prop where
  | nil (s : σ) : Fills r depth s [] s
  | cons {s t u : σ} {m : String × Value} {ms : Members} {f : Field σ}
    (known : r.field? m.1 = some f) (unset : f.isSet s = false) (takes : f.Takes depth s m.2 t)
    (others : Fills r depth t ms u) : Fills r depth s (m :: ms) u

variable {r : Record σ α}

theorem Fills.append {depth : Nat} {s t u : σ} {ms ns : Members} (h : r.Fills depth s ms t)
    (h' : r.Fills depth t ns u) : r.Fills depth s (ms ++ ns) u := by
  induction h with
  | nil s => exact h'
  | cons known unset takes _ ih => exact .cons known unset takes (ih h')

/-- A member that may be absent fills its field, or the draft stays as it is. -/
theorem Fills.optional {γ : Type} {depth : Nat} {name : String} {required : Bool}
    {d : Decoder (Option γ)} {get : σ → Option (Option γ)} {set : σ → Option γ → σ} {s t : σ}
    {o : Option γ} {write : γ → Value}
    (known : r.field? name = some (.of name required d get set)) (unset : get s = none)
    (takes : ∀ c, o = some c → d.Takes depth (write c) (some c))
    (filled : (o.elim s fun c => set s (some c)) = t) :
    r.Fills depth s (optionalMember name (o.map write)) t := by
  subst filled
  cases o with
  | none => exact .nil s
  | some c =>
    have hunset : (get s).isSome = false := by rw [unset]; rfl
    exact .cons known hunset ((takes c rfl).field ..) (.nil _)

/-- Members that fill a draft are read into it from their text, up to the brace behind them. -/
theorem membersFrom_chars {depth : Nat} {s t : σ} {ms : Members} (h : r.Fills depth s ms t)
    (first : Bool) (rest : List Char) (o : Nat) {k : Nat}
    (hk : (objectTail first ms rest).length < k) :
    ∃ n, r.membersFrom depth k first s ⟨objectTail first ms rest, o⟩ =
      .ok (t, ⟨'\x7d' :: rest, n⟩) := by
  obtain ⟨k, rfl⟩ : ∃ j, k = j + 1 := ⟨k - 1, by omega⟩
  induction h generalizing first o k with
  | nil s => exact ⟨o, rfl⟩
  | @cons s t u m ms f known unset takes _ ih =>
    have hlength := length_lt_memberChars m
    rw [objectTail_cons, List.length_append, List.length_append] at hk
    obtain ⟨c, d, n, hname, hstring, hcolon⟩ := nextName_member first m
      (objectTail false ms rest) o
    obtain ⟨n', hvalue⟩ := takes.fromText (delimited_objectTail ms rest) n
    obtain ⟨k, rfl⟩ : ∃ j, k = j + 1 := ⟨k - 1, by omega⟩
    obtain ⟨n'', hrest⟩ := ih false n' k (by omega)
    refine ⟨n'', ?_⟩
    rw [membersFrom, objectTail_cons]
    simp only [hname, placed, ok_bind, hstring, known, unset, hcolon, hvalue, hrest]
    rfl

/-- Members that fill a draft are read into it from their values. -/
theorem draftOfMembers_of_fills {depth : Nat} {s t : σ} {ms : Members}
    (h : r.Fills depth s ms t) : r.draftOfMembers ms s = .ok t := by
  induction h with
  | nil s => rfl
  | cons known _ takes _ ih => simp only [draftOfMembers, known, takes.fromValue, ok_bind, ih]

theorem fromText_object {depth : Nat} {s : σ} {ms : Members}
    (h : r.Fills (depth - 1) r.blank ms s) (hdepth : 1 < depth) (hs : r.missing? s = none)
    (rest : List Char) (o : Nat) :
    ∃ n, r.fromText depth ⟨(Value.object ms).chars ++ rest, o⟩ =
      .ok (r.finish s, ⟨rest, n⟩) := by
  obtain ⟨n, hn⟩ := membersFrom_chars h true rest (o + 1)
    (k := (Cursor.mk (objectTail true ms rest) (o + 1)).budget)
    (by simp only [Cursor.budget]; omega)
  refine ⟨n + 1, ?_⟩
  rw [chars_object]
  simp only [fromText, head_object, ok_bind, enter_of_lt hdepth, fromMembers, hn, hs]
  rfl

theorem fromValue_object {depth : Nat} {s : σ} {ms : Members}
    (h : r.Fills depth r.blank ms s) (hs : r.missing? s = none) :
    r.fromValue (.object ms) = .ok (r.finish s) := by
  simp only [fromValue, draftOfMembers_of_fills h, ok_bind, hs]
  rfl

end Record

/-! ## 4. Both ways -/

theorem plain_optionalMember {depth : Nat} {name : String} {o : Option Value}
    (h : ∀ v ∈ o, Plain depth v) : ∀ m ∈ optionalMember name o, Plain depth m.2 := by
  cases o with
  | none => exact nofun
  | some v => simpa [optionalMember] using h v rfl

/-- The text is read as `a`, and it is a value that is read as `a`. -/
def Decoder.Recovers (d : Decoder α) (text : String) (a : α) : Prop :=
  d.read text = .ok a ∧ ∃ v, parse text = .ok v ∧ d.convert v = .ok a

/-- A text is read in one way only. -/
theorem Decoder.Recovers.unique {d : Decoder α} {text : String} {a b : α}
    (h : d.Recovers text a) (h' : d.Recovers text b) : a = b := by
  have hread := h.1
  rw [h'.1] at hread
  cases hread
  rfl

/-- **A record is read from the text of its object** on both ways, if the members fill all that is
    required, in the order they are written in as well as in the order of their names. -/
theorem Record.recovers_object {r : Record σ α} {d : Nat} {s : σ} {ms : Members}
    (hd : d + 1 < maxDepth) (plain : ∀ m ∈ ms, Plain d m.2)
    (written : r.Fills (maxDepth - 1) r.blank ms s)
    (ordered : r.Fills (maxDepth - 1) r.blank (putMembers ms []) s)
    (complete : r.missing? s = none) :
    r.decoder.Recovers (Value.object ms).text (r.finish s) := by
  obtain ⟨n, hn⟩ := fromText_object written (by decide) complete [] 0
  rw [List.append_nil] at hn
  refine ⟨?_, _, parse_object hd plain, fromValue_object ordered complete⟩
  simp only [decoder, Decoder.read, Value.text, Cursor.start, String.toList_ofList, hn, ok_bind]
  rfl

end ReceiptPrinting.Json
