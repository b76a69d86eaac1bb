import ReceiptPrinting.Json.Parser
import ReceiptPrinting.Proofs.Json.Numbers

/-!
# Values are read as they are written

The compact text of a value is read as that value, if its numbers are whole and its brackets are not
nested deeper than reading goes. Binary numbers are left out: the text of one may be read as the
binary number next to it.

* `Plain`: a value of whole numbers, in the form that reading gives, and how deep it is nested;
* `head_scalar`, `Plain.start`: how values start, and that a value without parts is all head;
* `itemsWithin_chars`, `membersWithin_chars`: one item and one member after another;
* **`readsBack_of_plain`**, `parse_text`: a plain value is read from its text;
* **`tooDeep_of_plain`**: with fewer levels left it is not read at all.
-/

namespace ReceiptPrinting.Json

/-! ## 1. Plain values -/

/-- A value of whole numbers in which at most `depth` brackets and braces are open at once. A number
    is one that is kept whole; a binary number, even of a whole amount, is written with a fraction
    or an exponent. Members are in the order of their names, each name once. -/
inductive Plain : (depth : Nat) → Value → Prop where
  | null (depth : Nat) : Plain depth .null
  | bool (depth : Nat) (b : Bool) : Plain depth (.bool b)
  | whole (depth : Nat) {n : Int} (h : InWords n) : Plain depth (.number (.whole n))
  | string (depth : Nat) (s : String) : Plain depth (.string s)
  | array {depth : Nat} {vs : List Value} (items : ∀ v ∈ vs, Plain depth v) :
    Plain (depth + 1) (.array vs)
  | object {depth : Nat} {ms : Members} (sorted : ms.Pairwise fun a b => a.1 < b.1)
    (members : ∀ m ∈ ms, Plain depth m.2) : Plain (depth + 1) (.object ms)

/-! ## 2. Heads -/

theorem ne_of_isDigit {c d : Char} (hc : isDigit c = true) (hd : isDigit d = false) : c ≠ d := by
  rintro rfl
  rw [hc] at hd
  cases hd

theorem isBlank_of_isDigit {c : Char} (h : isDigit c = true) : isBlank c = false := by
  simp only [isBlank, Bool.or_eq_false_iff, beq_eq_false_iff_ne]
  exact ⟨⟨⟨ne_of_isDigit h rfl, ne_of_isDigit h rfl⟩, ne_of_isDigit h rfl⟩, ne_of_isDigit h rfl⟩

theorem skipBlanks_cons {c : Char} (r : List Char) (o : Nat) (h : isBlank c = false) :
    Cursor.skipBlanks ⟨c :: r, o⟩ = ⟨c :: r, o⟩ := by
  simp [Cursor.skipBlanks, skipBlanksFrom, h]

/-- The digits of a number start with a digit. -/
theorem toDigits_cons (n : Nat) : ∃ d ds, Nat.toDigits 10 n = d :: ds ∧ isDigit d = true := by
  cases hd : Nat.toDigits 10 n with
  | nil => simp at hd
  | cons d ds => exact ⟨d, ds, rfl, isDigit_of_mem_toDigits (n := n) (by simp [hd])⟩

theorem head_string (s : String) (rest : List Char) (o : Nat) :
    ∃ m, head ⟨stringChars s ++ rest, o⟩ = .ok (.scalar (.string s) ⟨rest, m⟩) := by
  obtain ⟨m, hm⟩ := readString_escaped s rest (o + 1)
  refine ⟨m, ?_⟩
  have htext : stringChars s ++ rest = '"' :: (s.toList.flatMap escapeChar ++ '"' :: rest) := by
    simp [stringChars]
  rw [htext, head, skipBlanks_cons _ _ rfl]
  simp only [hm, ok_bind]
  rfl

theorem head_whole {n : Int} (h : InWords n) {rest : List Char} (hrest : Delimited rest)
    (o : Nat) :
    ∃ m, head ⟨wholeChars n ++ rest, o⟩ = .ok (.scalar (.number (.whole n)) ⟨rest, m⟩) := by
  by_cases hn : n < 0
  · obtain ⟨m, hm⟩ := readNumber_toDigits h hrest (o + 1)
    rw [decide_eq_true hn] at hm
    refine ⟨m, ?_⟩
    rw [wholeChars, if_pos hn, List.append_assoc, List.singleton_append, head,
      skipBlanks_cons _ _ rfl]
    simp only [hm, ok_bind]
    rfl
  · obtain ⟨m, hm⟩ := readNumber_toDigits h hrest o
    rw [decide_eq_false hn] at hm
    refine ⟨m, ?_⟩
    obtain ⟨d, ds, hds, hd⟩ := toDigits_cons n.natAbs
    rw [wholeChars, if_neg hn, List.nil_append]
    rw [hds, List.cons_append] at hm ⊢
    rw [head, skipBlanks_cons _ _ (isBlank_of_isDigit hd)]
    simp only [if_neg (ne_of_isDigit hd (d := 'n') rfl), if_neg (ne_of_isDigit hd (d := 't') rfl),
      if_neg (ne_of_isDigit hd (d := 'f') rfl), if_neg (ne_of_isDigit hd (d := '"') rfl),
      if_neg (ne_of_isDigit hd (d := '-') rfl), if_pos hd, hm, ok_bind]
    rfl

/-- **The head of a value without parts** is all of it. Without brackets a value has no parts. -/
theorem head_scalar {v : Value} (h : Plain 0 v) {rest : List Char} (hrest : Delimited rest)
    (o : Nat) : ∃ m, head ⟨v.chars ++ rest, o⟩ = .ok (.scalar v.found ⟨rest, m⟩) := by
  cases h with
  | null => exact ⟨o + 4, rfl⟩
  | bool _ b =>
    cases b
    · exact ⟨o + 5, rfl⟩
    · exact ⟨o + 4, rfl⟩
  | whole _ hn =>
    rw [Value.chars]
    exact head_whole hn hrest o
  | string _ s =>
    rw [Value.chars]
    exact head_string s rest o

/-- A value starts with a character that is neither a blank nor the end of a list, and only `null`
    starts as `null` does. -/
theorem Plain.start {depth : Nat} {v : Value} (h : Plain depth v) :
    ∃ c r, v.chars = c :: r ∧ isBlank c = false ∧ c ≠ ']' ∧ (c = 'n' → v = .null) := by
  cases h with
  | null => exact ⟨_, _, rfl, rfl, by decide, fun _ => rfl⟩
  | bool _ b => cases b <;> exact ⟨_, _, rfl, rfl, by decide, fun h => absurd h (by decide)⟩
  | @whole _ n _ =>
    simp only [Value.chars, Number.chars, wholeChars]
    by_cases hn : n < 0
    · rw [if_pos hn]
      exact ⟨_, _, rfl, rfl, by decide, fun h => absurd h (by decide)⟩
    · rw [if_neg hn]
      obtain ⟨d, ds, hds, hd⟩ := toDigits_cons n.natAbs
      have hne : d ≠ 'n' := ne_of_isDigit hd rfl
      exact ⟨d, ds, hds, isBlank_of_isDigit hd, ne_of_isDigit hd rfl, fun h => absurd h hne⟩
  | string | array | object =>
    simp only [Value.chars, stringChars, List.cons_append]
    exact ⟨_, _, rfl, rfl, by decide, fun h => absurd h (by decide)⟩

theorem Plain.chars_pos {depth : Nat} {v : Value} (h : Plain depth v) : 0 < v.chars.length := by
  obtain ⟨c, r, hchars, -⟩ := h.start
  rw [hchars]
  exact Nat.succ_pos _

theorem length_lt_memberChars (m : String × Value) : m.2.chars.length < (memberChars m).length := by
  cases m
  simp only [memberChars, List.length_append, List.length_cons]
  omega

/-! ## 3. One part after another -/

/-- What stands before a part: a comma, but not before the first one. -/
def comma (first : Bool) : List Char := if first then [] else [',']

/-- Parts with commas between them, and one before the first part unless it is the first of all. -/
def joined : (first : Bool) → List (List Char) → List Char
  | _, [] => []
  | first, t :: ts => comma first ++ t ++ joined false ts

theorem itemsChars_eq (vs : List Value) : itemsChars vs = joined true (vs.map Value.chars) := by
  induction vs with
  | nil => rfl
  | cons v vs ih =>
    cases vs with
    | nil => simp [itemsChars, joined, comma]
    | cons w ws =>
      rw [itemsChars, ih]
      · simp [joined, comma]
      · exact nofun

theorem membersChars_eq (ms : Members) : membersChars ms = joined true (ms.map memberChars) := by
  induction ms with
  | nil => rfl
  | cons m ms ih =>
    cases ms with
    | nil => simp [membersChars, joined, comma]
    | cons n ns =>
      rw [membersChars, ih]
      · simp [joined, comma]
      · exact nofun

/-- What is left of a list: items, the bracket and what follows. -/
def listTail (first : Bool) (vs : List Value) (rest : List Char) : List Char :=
  joined first (vs.map Value.chars) ++ ']' :: rest

/-- What is left of an object: members, the brace and what follows. -/
def objectTail (first : Bool) (ms : Members) (rest : List Char) : List Char :=
  joined first (ms.map memberChars) ++ '\x7d' :: rest

theorem chars_array (vs : List Value) (rest : List Char) :
    (Value.array vs).chars ++ rest = '[' :: listTail true vs rest := by
  simp [Value.chars, itemsChars_eq, listTail]

theorem chars_object (ms : Members) (rest : List Char) :
    (Value.object ms).chars ++ rest = '\x7b' :: objectTail true ms rest := by
  simp [Value.chars, membersChars_eq, objectTail]

theorem listTail_cons (first : Bool) (v : Value) (vs : List Value) (rest : List Char) :
    listTail first (v :: vs) rest = comma first ++ (v.chars ++ listTail false vs rest) := by
  simp [listTail, joined]

theorem objectTail_cons (first : Bool) (m : String × Value) (ms : Members) (rest : List Char) :
    objectTail first (m :: ms) rest =
      comma first ++ (memberChars m ++ objectTail false ms rest) := by
  simp [objectTail, joined]

/-- Behind a part stands a comma or the end. -/
theorem delimited_joined (ts : List (List Char)) {close : Char} (rest : List Char)
    (h : close = ']' ∨ close = '\x7d') : Delimited (joined false ts ++ close :: rest) := by
  cases ts with
  | nil => exact delimited_cons _ (.inr h)
  | cons t ts => exact delimited_cons _ (.inl rfl)

theorem delimited_listTail (vs : List Value) (rest : List Char) :
    Delimited (listTail false vs rest) := delimited_joined _ rest (.inl rfl)

theorem delimited_objectTail (ms : Members) (rest : List Char) :
    Delimited (objectTail false ms rest) := delimited_joined _ rest (.inr rfl)

/-- Behind the comma, if there is one, the next item starts. -/
theorem nextItem_cons (first : Bool) {c : Char} (r : List Char) (o : Nat)
    (hblank : isBlank c = false) (hclose : c ≠ ']') :
    ∃ n, nextItem first ⟨comma first ++ c :: r, o⟩ = .ok (some ⟨c :: r, n⟩) := by
  cases first with
  | true =>
    refine ⟨o, ?_⟩
    simp only [comma, if_true, List.nil_append, nextItem, skipBlanks_cons r o hblank]
  | false =>
    refine ⟨o + 1, ?_⟩
    -- neither the comma nor what stands behind it ends the list
    have hcomma := skipBlanks_cons (c := ',') (c :: r) o rfl
    have hne : (',' : Char) ≠ ']' := by decide
    simp only [comma, Bool.false_eq_true, if_false, List.singleton_append, nextItem, hcomma,
      if_true, skipBlanks_cons r (o + 1) hblank]
    split
    case h_1 h =>
      cases h
      contradiction
    case h_2 => contradiction
    case h_3 => rfl

/-- The name of the next member is read, and the colon behind it. -/
theorem nextName_member (first : Bool) (m : String × Value) (rest : List Char) (o : Nat) :
    ∃ c d n, nextName first ⟨comma first ++ (memberChars m ++ rest), o⟩ = .ok (some c) ∧
      readString c = .ok (m.1, d) ∧ colon d = .ok ⟨m.2.chars ++ rest, n⟩ := by
  obtain ⟨name, v⟩ := m
  have htext : memberChars (name, v) ++ rest =
      '"' :: (name.toList.flatMap escapeChar ++ '"' :: ':' :: (v.chars ++ rest)) := by
    simp [memberChars, stringChars]
  have hname : ∃ k, nextName first ⟨comma first ++ (memberChars (name, v) ++ rest), o⟩ = .ok (some
      ⟨name.toList.flatMap escapeChar ++ '"' :: ':' :: (v.chars ++ rest), k⟩) := by
    rw [htext]
    cases first
    · exact ⟨o + 2, rfl⟩
    · exact ⟨o + 1, rfl⟩
  obtain ⟨k, hk⟩ := hname
  obtain ⟨n, hn⟩ := readString_escaped name (':' :: (v.chars ++ rest)) k
  exact ⟨_, _, n + 1, hk, hn, rfl⟩

/-! ## 4. Members in order -/

/-- The members of an object as it is read: in the order of their names. -/
def putMembers (ms acc : Members) : Members := ms.foldl (fun acc m => putMember m.1 m.2 acc) acc

theorem putMember_nil (k : String) (v : Value) : putMember k v [] = [(k, v)] := rfl

theorem putMember_before {k l : String} (v w : Value) (r : Members) (h : k < l) :
    putMember k v ((l, w) :: r) = (k, v) :: (l, w) :: r := by
  rw [putMember, if_neg (String.ne_of_lt h), if_pos h]

theorem putMember_behind {k l : String} (v w : Value) (r : Members) (h : l < k) :
    putMember k v ((l, w) :: r) = (l, w) :: putMember k v r := by
  rw [putMember, if_neg (String.ne_of_lt h).symm, if_neg (String.lt_asymm h)]

/-- A member whose name is behind all others comes last. -/
theorem putMember_last {k : String} {acc : Members} (v : Value) (h : ∀ m ∈ acc, m.1 < k) :
    putMember k v acc = acc ++ [(k, v)] := by
  induction acc with
  | nil => rfl
  | cons m acc ih =>
    have hm : m.1 < k := h m (by simp)
    obtain ⟨l, w⟩ := m
    rw [putMember_behind v w acc hm, ih fun n hn => h n (by simp [hn])]
    rfl

/-- Members that are in order stay as they are. -/
theorem putMembers_sorted {ms acc : Members} (h : (acc ++ ms).Pairwise fun a b => a.1 < b.1) :
    putMembers ms acc = acc ++ ms := by
  induction ms generalizing acc with
  | nil => simp [putMembers]
  | cons m ms ih =>
    have hlast : ∀ n ∈ acc, n.1 < m.1 := fun n hn =>
      (List.pairwise_append.1 h).2.2 n hn m (by simp)
    have hput : putMembers (m :: ms) acc = putMembers ms (acc ++ [m]) := by
      rw [putMembers, List.foldl_cons, putMember_last m.2 hlast]
      rfl
    rw [hput, ih (by simpa using h), List.append_assoc, List.singleton_append]

/-! ## 5. One step of a list and of an object -/

/-- Reading a list goes on with its next item. -/
theorem itemsWithin_cons {d : Nat} {v : Value} (h : Plain d v) (k depth : Nat) (first : Bool)
    (vs : List Value) (rest : List Char) (o : Nat) :
    ∃ n, itemsWithin (k + 1) depth first ⟨listTail first (v :: vs) rest, o⟩ = (do
      let (w, c) ← valueWithin k depth ⟨v.chars ++ listTail false vs rest, n⟩
      let (ws, c) ← itemsWithin k depth false c
      pure (w :: ws, c)) := by
  obtain ⟨c, r, hchars, hblank, hclose, -⟩ := h.start
  obtain ⟨n, hn⟩ := nextItem_cons first (r ++ listTail false vs rest) o hblank hclose
  rw [← List.cons_append, ← hchars] at hn
  refine ⟨n, ?_⟩
  simp only [itemsWithin, listTail_cons, hn, ok_bind]

/-- Reading an object goes on with the value of its next member. -/
theorem membersWithin_cons (k depth : Nat) (first : Bool) (acc : Members) (m : String × Value)
    (ms : Members) (rest : List Char) (o : Nat) :
    ∃ n, membersWithin (k + 1) depth first acc ⟨objectTail first (m :: ms) rest, o⟩ = (do
      let (v, c) ← valueWithin k depth ⟨m.2.chars ++ objectTail false ms rest, n⟩
      membersWithin k depth false (putMember m.1 v acc) c) := by
  obtain ⟨c, d, n, hname, hstring, hcolon⟩ := nextName_member first m (objectTail false ms rest) o
  refine ⟨n, ?_⟩
  simp only [membersWithin, objectTail_cons, hname, ok_bind, hstring, hcolon]

/-! ## 6. Values -/

/-- The text of a value is read as the value, with `depth` levels of brackets left and whatever
    budget is more than twice the text: whatever follows that cannot belong to the value. -/
def ReadsBack (depth : Nat) (v : Value) : Prop :=
  ∀ ⦃rest : List Char⦄, Delimited rest → ∀ (o : Nat) ⦃k : Nat⦄,
    2 * (v.chars ++ rest).length < k →
      ∃ m, valueWithin k depth ⟨v.chars ++ rest, o⟩ = .ok (v, ⟨rest, m⟩)

theorem readsBack_scalar {v : Value} (depth : Nat) (h : Plain 0 v) : ReadsBack depth v := by
  intro rest hrest o k hk
  obtain ⟨m, hm⟩ := head_scalar h hrest o
  have hvalue : v.found.value = v := by cases h <;> rfl
  cases k with
  | zero => omega
  | succ k =>
    refine ⟨m, ?_⟩
    simp only [valueWithin, hm, ok_bind, hvalue]
    rfl

/-- The items of a list are read one after another, up to the closing bracket. -/
theorem itemsWithin_chars {depth d : Nat} {vs : List Value}
    (h : ∀ v ∈ vs, Plain d v ∧ ReadsBack depth v) (first : Bool) (rest : List Char) (o : Nat)
    {k : Nat} (hk : 2 * (listTail first vs rest).length + 1 < k) :
    ∃ m, itemsWithin k depth first ⟨listTail first vs rest, o⟩ = .ok (vs, ⟨rest, m⟩) := by
  obtain ⟨k, rfl⟩ : ∃ j, k = j + 1 := ⟨k - 1, by omega⟩
  induction vs generalizing first o k with
  | nil => exact ⟨o + 1, rfl⟩
  | cons v vs ih =>
    obtain ⟨hplain, hv⟩ := h v (by simp)
    -- one step of the budget is spent on an item, and the item has at least one character
    have hpos := hplain.chars_pos
    rw [listTail_cons, List.length_append, List.length_append] at hk
    obtain ⟨n, hstep⟩ := itemsWithin_cons hplain k depth first vs rest o
    obtain ⟨n', hvalue⟩ := hv (delimited_listTail vs rest) n (k := k)
      (by rw [List.length_append]; omega)
    obtain ⟨k, rfl⟩ : ∃ j, k = j + 1 := ⟨k - 1, by omega⟩
    obtain ⟨m, hrest⟩ := ih (fun w hw => h w (by simp [hw])) false n' k (by omega)
    refine ⟨m, ?_⟩
    simp only [hstep, hvalue, ok_bind, hrest]
    rfl

/-- The members of an object are read one after another, up to the closing brace. -/
theorem membersWithin_chars {depth : Nat} {ms : Members} (h : ∀ m ∈ ms, ReadsBack depth m.2)
    (first : Bool) (acc : Members) (rest : List Char) (o : Nat) {k : Nat}
    (hk : 2 * (objectTail first ms rest).length + 1 < k) :
    ∃ n, membersWithin k depth first acc ⟨objectTail first ms rest, o⟩ =
      .ok (putMembers ms acc, ⟨rest, n⟩) := by
  obtain ⟨k, rfl⟩ : ∃ j, k = j + 1 := ⟨k - 1, by omega⟩
  induction ms generalizing first acc o k with
  | nil => exact ⟨o + 1, rfl⟩
  | cons m ms ih =>
    have hlength := length_lt_memberChars m
    rw [objectTail_cons, List.length_append, List.length_append] at hk
    obtain ⟨n, hstep⟩ := membersWithin_cons k depth first acc m ms rest o
    obtain ⟨n', hvalue⟩ := h m (by simp) (delimited_objectTail ms rest) n (k := k)
      (by rw [List.length_append]; omega)
    obtain ⟨k, rfl⟩ : ∃ j, k = j + 1 := ⟨k - 1, by omega⟩
    obtain ⟨n'', hrest⟩ := ih (fun w hw => h w (by simp [hw])) false (putMember m.1 m.2 acc) n' k
      (by omega)
    refine ⟨n'', ?_⟩
    simp only [hstep, hvalue, ok_bind, hrest]
    rfl

theorem enter_of_lt {depth : Nat} (h : 1 < depth) (o : Nat) :
    enter depth o = .ok (depth - 1) := if_neg (by omega)

theorem head_list (r : List Char) (o : Nat) : head ⟨'[' :: r, o⟩ = .ok (.list ⟨r, o + 1⟩) := rfl

theorem head_object (r : List Char) (o : Nat) :
    head ⟨'\x7b' :: r, o⟩ = .ok (.object ⟨r, o + 1⟩) := rfl

/-- A list is read if its items are, one level down. -/
theorem readsBack_array {d depth : Nat} {vs : List Value} (hdepth : 1 < depth)
    (h : ∀ v ∈ vs, Plain d v ∧ ReadsBack (depth - 1) v) : ReadsBack depth (.array vs) := by
  intro rest _ o k hk
  rw [chars_array] at hk ⊢
  rw [List.length_cons] at hk
  obtain ⟨k, rfl⟩ : ∃ j, k = j + 1 := ⟨k - 1, by omega⟩
  obtain ⟨m, hm⟩ := itemsWithin_chars h true rest (o + 1) (k := k) (by omega)
  refine ⟨m, ?_⟩
  simp only [valueWithin, head_list, ok_bind, enter_of_lt hdepth, hm]
  rfl

/-- An object is read if its members are, one level down. Its members come in the order of their
    names, whatever order they are written in. -/
theorem valueWithin_object {depth : Nat} {ms : Members} (hdepth : 1 < depth)
    (h : ∀ m ∈ ms, ReadsBack (depth - 1) m.2) (rest : List Char) (o : Nat) {k : Nat}
    (hk : 2 * ((Value.object ms).chars ++ rest).length < k) :
    ∃ n, valueWithin k depth ⟨(Value.object ms).chars ++ rest, o⟩ =
      .ok (.object (putMembers ms []), ⟨rest, n⟩) := by
  rw [chars_object] at hk ⊢
  rw [List.length_cons] at hk
  obtain ⟨k, rfl⟩ : ∃ j, k = j + 1 := ⟨k - 1, by omega⟩
  obtain ⟨n, hn⟩ := membersWithin_chars h true [] rest (o + 1) (k := k) (by omega)
  refine ⟨n, ?_⟩
  simp only [valueWithin, head_object, ok_bind, enter_of_lt hdepth, hn]
  rfl

/-- **A plain value is read from its text** as long as there are more levels left than it has
    brackets within each other. -/
theorem readsBack_of_plain {d depth : Nat} {v : Value} (h : Plain d v) (hd : d < depth) :
    ReadsBack depth v := by
  induction h generalizing depth with
  | null => exact readsBack_scalar depth (.null 0)
  | bool _ b => exact readsBack_scalar depth (.bool 0 b)
  | whole _ hn => exact readsBack_scalar depth (.whole 0 hn)
  | string _ s => exact readsBack_scalar depth (.string 0 s)
  | array items ih =>
    exact readsBack_array (by omega) fun v hv => ⟨items v hv, ih v hv (by omega)⟩
  | @object _ ms sorted _ ih =>
    intro rest _ o k hk
    have hms : putMembers ms [] = ms := putMembers_sorted sorted
    have hdepth : 1 < depth := by omega
    obtain ⟨n, hn⟩ := valueWithin_object hdepth (fun m hm => ih m hm (by omega)) rest o hk
    exact ⟨n, by rw [hn, hms]⟩

/-- **A plain value is the value that its text is.** -/
theorem parse_text {d : Nat} {v : Value} (h : Plain d v) (hd : d < maxDepth) :
    parse v.text = .ok v := by
  obtain ⟨n, hn⟩ := readsBack_of_plain h hd delimited_nil 0 (k := 2 * v.chars.length + 2) (by simp)
  rw [List.append_nil] at hn
  simp only [parse, readValue, Cursor.start, Cursor.budget, Value.text, String.toList_ofList, hn,
    ok_bind]
  rfl

/-- A binary number need not be read back: two to the power of 70 is read as the one below it. -/
example :
    let v : Value := .number (.real ⟨false, 2 ^ 52, 18⟩)
    v.text = "1.1805916207174113e+21" ∧
      (parse v.text).toOption.map Value.text = some "1.1805916207174112e+21" := by decide +kernel

/-- **The text of an object is a value**: the object, its members in the order of their names. -/
theorem parse_object {d : Nat} {ms : Members} (hd : d + 1 < maxDepth)
    (h : ∀ m ∈ ms, Plain d m.2) :
    parse (Value.object ms).text = .ok (.object (putMembers ms [])) := by
  have hdepth : 1 < maxDepth := by decide
  obtain ⟨n, hn⟩ := valueWithin_object hdepth
    (fun m hm => readsBack_of_plain (h m hm) (by omega)) [] 0
    (k := 2 * (Value.object ms).chars.length + 2) (by simp)
  rw [List.append_nil] at hn
  simp only [parse, readValue, Cursor.start, Cursor.budget, Value.text, String.toList_ofList, hn,
    ok_bind]
  rfl

/-! ## 7. Values that are too deep -/

/-- Reading the text of a value, with `depth` levels of brackets left, stops at a bracket that would
    be one more. -/
def TooDeep (depth : Nat) (v : Value) : Prop :=
  ∀ ⦃rest : List Char⦄, Delimited rest → ∀ (o : Nat) ⦃k : Nat⦄,
    2 * (v.chars ++ rest).length < k →
      ∃ m, valueWithin k depth ⟨v.chars ++ rest, o⟩ = faultAt m .tooDeep

theorem fault_bind {α β : Type} (n : Nat) (f : Fault) (g : α → Except Failure β) :
    ((faultAt n f : Except Failure α) >>= g) = faultAt n f := rfl

/-- Reading a list stops at the first item that is too deep. -/
theorem itemsWithin_tooDeep {depth d : Nat} {vs : List Value}
    (h : ∀ v ∈ vs, Plain d v ∧ (ReadsBack depth v ∨ TooDeep depth v))
    (hdeep : ∃ v ∈ vs, TooDeep depth v) (first : Bool) (rest : List Char) (o : Nat) {k : Nat}
    (hk : 2 * (listTail first vs rest).length + 1 < k) :
    ∃ m, itemsWithin k depth first ⟨listTail first vs rest, o⟩ = faultAt m .tooDeep := by
  obtain ⟨k, rfl⟩ : ∃ j, k = j + 1 := ⟨k - 1, by omega⟩
  induction vs generalizing first o k with
  | nil => simp at hdeep
  | cons v vs ih =>
    obtain ⟨hplain, hv⟩ := h v (by simp)
    have hpos := hplain.chars_pos
    rw [listTail_cons, List.length_append, List.length_append] at hk
    obtain ⟨n, hstep⟩ := itemsWithin_cons hplain k depth first vs rest o
    have hbudget : 2 * (v.chars ++ listTail false vs rest).length < k := by
      rw [List.length_append]
      omega
    by_cases hfirst : TooDeep depth v
    · obtain ⟨m, hm⟩ := hfirst (delimited_listTail vs rest) n hbudget
      exact ⟨m, by rw [hstep, hm, fault_bind]⟩
    · have hlater : ∃ w ∈ vs, TooDeep depth w := by
        simpa only [List.mem_cons, exists_eq_or_imp, hfirst, false_or] using hdeep
      obtain ⟨n', hvalue⟩ := hv.resolve_right hfirst (delimited_listTail vs rest) n hbudget
      obtain ⟨k, rfl⟩ : ∃ j, k = j + 1 := ⟨k - 1, by omega⟩
      obtain ⟨m, hrest⟩ := ih (fun w hw => h w (by simp [hw])) hlater false n' k (by omega)
      exact ⟨m, by simp only [hstep, hvalue, ok_bind, hrest, fault_bind]⟩

/-- Reading an object stops at the first member that is too deep. -/
theorem membersWithin_tooDeep {depth : Nat} {ms : Members}
    (h : ∀ m ∈ ms, ReadsBack depth m.2 ∨ TooDeep depth m.2)
    (hdeep : ∃ m ∈ ms, TooDeep depth m.2) (first : Bool) (acc : Members) (rest : List Char)
    (o : Nat) {k : Nat} (hk : 2 * (objectTail first ms rest).length + 1 < k) :
    ∃ n, membersWithin k depth first acc ⟨objectTail first ms rest, o⟩ = faultAt n .tooDeep := by
  obtain ⟨k, rfl⟩ : ∃ j, k = j + 1 := ⟨k - 1, by omega⟩
  induction ms generalizing first acc o k with
  | nil => simp at hdeep
  | cons m ms ih =>
    have hlength := length_lt_memberChars m
    rw [objectTail_cons, List.length_append, List.length_append] at hk
    obtain ⟨n, hstep⟩ := membersWithin_cons k depth first acc m ms rest o
    have hbudget : 2 * (m.2.chars ++ objectTail false ms rest).length < k := by
      rw [List.length_append]
      omega
    by_cases hfirst : TooDeep depth m.2
    · obtain ⟨n', hn⟩ := hfirst (delimited_objectTail ms rest) n hbudget
      exact ⟨n', by rw [hstep, hn, fault_bind]⟩
    · have hlater : ∃ w ∈ ms, TooDeep depth w.2 := by
        simpa only [List.mem_cons, exists_eq_or_imp, hfirst, false_or] using hdeep
      obtain ⟨n', hvalue⟩ := (h m (by simp)).resolve_right hfirst (delimited_objectTail ms rest) n
        hbudget
      obtain ⟨k, rfl⟩ : ∃ j, k = j + 1 := ⟨k - 1, by omega⟩
      obtain ⟨n'', hrest⟩ := ih (fun w hw => h w (by simp [hw])) hlater false
        (putMember m.1 m.2 acc) n' k (by omega)
      exact ⟨n'', by simp only [hstep, hvalue, ok_bind, hrest]⟩

/-- Where no bracket may be opened, a list and an object are too deep. -/
theorem tooDeep_one {v : Value} (h : v.found = .list ∨ v.found = .object) : TooDeep 1 v := by
  intro rest _ o k hk
  obtain ⟨k, rfl⟩ : ∃ j, k = j + 1 := ⟨k - 1, by omega⟩
  cases v with
  | null | bool | number | string => simp [Value.found] at h
  | array vs => exact ⟨o + 1, by rw [chars_array]; rfl⟩
  | object ms => exact ⟨o + 1, by rw [chars_object]; rfl⟩

/-- A list is too deep if one of its items is, one level down. -/
theorem tooDeep_array {depth d : Nat} {vs : List Value} (hdepth : 1 < depth)
    (h : ∀ v ∈ vs, Plain d v ∧ (ReadsBack (depth - 1) v ∨ TooDeep (depth - 1) v))
    (hdeep : ∃ v ∈ vs, TooDeep (depth - 1) v) : TooDeep depth (.array vs) := by
  intro rest _ o k hk
  rw [chars_array] at hk ⊢
  rw [List.length_cons] at hk
  obtain ⟨k, rfl⟩ : ∃ j, k = j + 1 := ⟨k - 1, by omega⟩
  obtain ⟨m, hm⟩ := itemsWithin_tooDeep h hdeep true rest (o + 1) (k := k) (by omega)
  refine ⟨m, ?_⟩
  simp only [valueWithin, head_list, ok_bind, enter_of_lt hdepth, hm, fault_bind]

/-- An object is too deep if one of its members is, one level down. -/
theorem tooDeep_object {depth : Nat} {ms : Members} (hdepth : 1 < depth)
    (h : ∀ m ∈ ms, ReadsBack (depth - 1) m.2 ∨ TooDeep (depth - 1) m.2)
    (hdeep : ∃ m ∈ ms, TooDeep (depth - 1) m.2) : TooDeep depth (.object ms) := by
  intro rest _ o k hk
  rw [chars_object] at hk ⊢
  rw [List.length_cons] at hk
  obtain ⟨k, rfl⟩ : ∃ j, k = j + 1 := ⟨k - 1, by omega⟩
  obtain ⟨n, hn⟩ := membersWithin_tooDeep h hdeep true [] rest (o + 1) (k := k) (by omega)
  refine ⟨n, ?_⟩
  simp only [valueWithin, head_object, ok_bind, enter_of_lt hdepth, hn, fault_bind]

/-- **A value with more brackets within each other than are left is too deep.** -/
theorem tooDeep_of_plain {d e : Nat} {v : Value} (h : Plain d v) (he : ¬ Plain e v) :
    TooDeep (e + 1) v := by
  -- What reading does with a part of `v`, one level down.
  have hpart {d e : Nat} {w : Value} (hw : Plain d w) (ih : ¬ Plain e w → TooDeep (e + 1) w) :
      ReadsBack (e + 1) w ∨ TooDeep (e + 1) w := by
    by_cases hwe : Plain e w
    · exact .inl (readsBack_of_plain hwe (Nat.lt_succ_self e))
    · exact .inr (ih hwe)
  induction h generalizing e with
  | null => exact absurd (.null e) he
  | bool _ b => exact absurd (.bool e b) he
  | whole _ hn => exact absurd (.whole e hn) he
  | string _ s => exact absurd (.string e s) he
  | @array _ vs items ih =>
    cases e with
    | zero => exact tooDeep_one (.inl rfl)
    | succ e =>
      have hdeep : ∃ v ∈ vs, ¬ Plain e v := by
        apply Classical.byContradiction
        intro hno
        exact he (.array fun v hv => Classical.byContradiction fun hp => hno ⟨v, hv, hp⟩)
      obtain ⟨v, hv, hvdeep⟩ := hdeep
      exact tooDeep_array (Nat.le_add_left 2 e)
        (fun w hw => ⟨items w hw, hpart (items w hw) (ih w hw)⟩) ⟨v, hv, ih v hv hvdeep⟩
  | @object _ ms sorted members ih =>
    cases e with
    | zero => exact tooDeep_one (.inr rfl)
    | succ e =>
      have hdeep : ∃ m ∈ ms, ¬ Plain e m.2 := by
        apply Classical.byContradiction
        intro hno
        exact he (.object sorted fun m hm => Classical.byContradiction fun hp => hno ⟨m, hm, hp⟩)
      obtain ⟨m, hm, hmdeep⟩ := hdeep
      exact tooDeep_object (Nat.le_add_left 2 e) (fun w hw => hpart (members w hw) (ih w hw))
        ⟨m, hm, ih m hm hmdeep⟩

/-- **The text of an object with a member that is too deep is not a value.** -/
theorem parse_object_tooDeep {d : Nat} {ms : Members} (h : ∀ m ∈ ms, Plain d m.2)
    (hdeep : ∃ m ∈ ms, ¬ Plain (maxDepth - 2) m.2) :
    ∃ n, parse (Value.object ms).text = faultAt n .tooDeep := by
  have hdepth : 1 < maxDepth := by decide
  have hparts : ∀ m ∈ ms, ReadsBack (maxDepth - 1) m.2 ∨ TooDeep (maxDepth - 1) m.2 := by
    intro m hm
    by_cases hplain : Plain (maxDepth - 2) m.2
    · exact .inl (readsBack_of_plain hplain (by decide))
    · exact .inr (tooDeep_of_plain (h m hm) hplain)
  obtain ⟨m, hm, hmdeep⟩ := hdeep
  obtain ⟨n, hn⟩ := tooDeep_object hdepth hparts ⟨m, hm, tooDeep_of_plain (h m hm) hmdeep⟩
    delimited_nil 0 (k := 2 * (Value.object ms).chars.length + 2) (by simp)
  rw [List.append_nil] at hn
  refine ⟨n, ?_⟩
  simp only [parse, readValue, Cursor.start, Cursor.budget, Value.text, String.toList_ofList, hn,
    fault_bind]

end ReceiptPrinting.Json
