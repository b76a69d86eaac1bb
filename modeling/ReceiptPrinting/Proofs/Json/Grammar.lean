import ReceiptPrinting.Proofs.Json.Values

/-!
# The grammar of JSON

What a JSON text is can be said without reading it: a text is a spelling of a value. A spelling is
told from left to right, as a relation of the text, what its beginning stands for, and the text that
is left. That `parse` reads exactly the spellings is shown elsewhere; nothing here reads.

* `CharOf`, `StringOf`: characters and strings, with their escapes;
* `WholeOf`, `FractionOf`, `ExponentOf`, `NumberOf`: the parts of a number, and numbers in range;
* `Spells`: spellings of values, of the items of a list and of the members of an object;
* `Denotes`: a whole text and the value it stands for.
-/

namespace ReceiptPrinting.Json

/-! ## 1. Blanks and strings -/

/-- Blanks, and what is left behind them. -/
inductive Blanks : List Char → List Char → Prop where
  | done (r : List Char) : Blanks r r
  | skip {c : Char} {cs r : List Char} (blank : isBlank c = true) (rest : Blanks cs r) :
    Blanks (c :: cs) r

/-- Four hexadecimal digits. -/
inductive Quad : List Char → Nat → List Char → Prop where
  | mk {a b c d : Char} {w x y z : Nat} {r : List Char} (ha : hexValue? a = some w)
    (hb : hexValue? b = some x) (hc : hexValue? c = some y) (hd : hexValue? d = some z) :
    Quad (a :: b :: c :: d :: r) (((w * 16 + x) * 16 + y) * 16 + z) r

/-- What may stand behind a backslash, and what it stands for there. -/
def signs : List (Char × Char) :=
  [('"', '"'), ('\\', '\\'), ('/', '/'), ('b', '\x08'), ('f', '\x0c'), ('n', '\n'), ('r', '\r'),
    ('t', '\t')]

/-- A character of a string: it stands for itself, or a sign or its code stands for it. A character
    beyond 16 bits has two codes. -/
inductive CharOf : List Char → Char → List Char → Prop where
  | plain {c : Char} {r : List Char} (quote : c ≠ '"') (back : c ≠ '\\')
    (control : 0x20 ≤ c.toNat) : CharOf (c :: r) c r
  | sign {d x : Char} {r : List Char} (h : (d, x) ∈ signs) : CharOf ('\\' :: d :: r) x r
  | code {u : Nat} {cs r : List Char} (quad : Quad cs u r) (leading : isLeading u = false)
    (trailing : isTrailing u = false) : CharOf ('\\' :: 'u' :: cs) (Char.ofNat u) r
  | pair {u v : Nat} {cs ds r : List Char} (first : Quad cs u ('\\' :: 'u' :: ds))
    (second : Quad ds v r) (leading : isLeading u = true) (trailing : isTrailing v = true) :
    CharOf ('\\' :: 'u' :: cs) (Char.ofNat (0x10000 + (u - 0xD800) * 0x400 + (v - 0xDC00))) r

/-- A string behind its opening quote. -/
inductive StringOf : List Char → List Char → List Char → Prop where
  | done (r : List Char) : StringOf ('"' :: r) [] r
  | char {cs ds r xs : List Char} {x : Char} (head : CharOf cs x ds) (rest : StringOf ds xs r) :
    StringOf cs (x :: xs) r

/-! ## 2. Numbers -/

/-- Digits, if there are any. -/
inductive DigitsOf : List Char → List Nat → List Char → Prop where
  | done (r : List Char) : DigitsOf r [] r
  | digit {c : Char} {cs r : List Char} {ds : List Nat} (h : isDigit c = true)
    (rest : DigitsOf cs ds r) : DigitsOf (c :: cs) (digitValue c :: ds) r

/-- A whole part: a zero, or digits that do not start with one. -/
inductive WholeOf : List Char → List Nat → List Char → Prop where
  | zero (r : List Char) : WholeOf ('0' :: r) [0] r
  | digits {c : Char} {cs r : List Char} {ds : List Nat} (h : isDigit c = true) (zero : c ≠ '0')
    (rest : DigitsOf cs ds r) : WholeOf (c :: cs) (digitValue c :: ds) r

/-- A fraction, if there is one. -/
inductive FractionOf : List Char → Option (List Nat) → List Char → Prop where
  | absent (r : List Char) : FractionOf r none r
  | point {cs r : List Char} {ds : List Nat} (digits : DigitsOf cs ds r) (ne_nil : ds ≠ []) :
    FractionOf ('.' :: cs) (some ds) r

/-- The sign of an exponent, which may be left out if it is not a minus. -/
inductive SignOf : List Char → Bool → List Char → Prop where
  | absent (r : List Char) : SignOf r false r
  | plus (r : List Char) : SignOf ('+' :: r) false r
  | minus (r : List Char) : SignOf ('-' :: r) true r

/-- An exponent, if there is one: its sign and its digits. -/
inductive ExponentOf : List Char → Option (Bool × List Nat) → List Char → Prop where
  | absent (r : List Char) : ExponentOf r none r
  | mark {c : Char} {cs ds r : List Char} {negative : Bool} {es : List Nat}
    (h : c = 'e' ∨ c = 'E') (sign : SignOf cs negative ds) (digits : DigitsOf ds es r)
    (ne_nil : es ≠ []) : ExponentOf (c :: cs) (some (negative, es)) r

/-- What an exponent says. -/
def Exponent.sense (e : Exponent) : Bool × List Nat := (e.negative, e.digits)

/-- A numeral without its sign. -/
inductive NumeralOf : List Char → Numeral → List Char → Prop where
  | mk {cs ds es r : List Char} {x : Numeral} (whole : WholeOf cs x.whole ds)
    (fraction : FractionOf ds x.fraction es)
    (exponent : ExponentOf es (x.exponent.map Exponent.sense) r) : NumeralOf cs x r

/-- The number that a numeral is, if it is in range. -/
def Numeral.number? (x : Numeral) : Option Number :=
  match x.whole? with
  | some k => some (.whole k)
  | none =>
    let (m, e) := x.significand
    match x.exponent with
    | none => (scaled m e).map x.signed
    | some ex =>
      match exponentValue ex.digits with
      | .ok k => (scaled m (if ex.negative then e - k else e + k)).map x.signed
      | .error _ => if m ≠ 0 ∧ !ex.negative then none else some (x.signed (.zero false))

/-- A number, which is in range. -/
inductive NumberOf : List Char → Number → List Char → Prop where
  | plain {cs r : List Char} {x : Numeral} {n : Number} (numeral : NumeralOf cs x r)
    (sign : x.negative = false) (value : x.number? = some n) : NumberOf cs n r
  | minus {cs r : List Char} {x : Numeral} {n : Number} (numeral : NumeralOf cs x r)
    (sign : x.negative = true) (value : x.number? = some n) : NumberOf ('-' :: cs) n r

/-! ## 3. Values -/

/-- What a part of a text can stand for. Of the items of a list and the members of an object, those
    that are not the `first` have a comma before them. -/
inductive Phrase where
  | value (v : Value)
  | items (first : Bool) (vs : List Value)
  | members (first : Bool) (ms : Members)

/-- The spellings of values in which at most `depth` brackets and braces are open at once. Items and
    members end before the bracket or brace that closes them. Of members with one name the last
    counts, and members are held in the order of their names. -/
inductive Spells : (depth : Nat) → List Char → Phrase → List Char → Prop where
  | blank {d : Nat} {c : Char} {cs r : List Char} {v : Value} (h : isBlank c = true)
    (rest : Spells d cs (.value v) r) : Spells d (c :: cs) (.value v) r
  | null (d : Nat) (r : List Char) : Spells d ('n' :: 'u' :: 'l' :: 'l' :: r) (.value .null) r
  | yes (d : Nat) (r : List Char) :
    Spells d ('t' :: 'r' :: 'u' :: 'e' :: r) (.value (.bool true)) r
  | no (d : Nat) (r : List Char) :
    Spells d ('f' :: 'a' :: 'l' :: 's' :: 'e' :: r) (.value (.bool false)) r
  | number (d : Nat) {cs r : List Char} {n : Number} (h : NumberOf cs n r) :
    Spells d cs (.value (.number n)) r
  | string (d : Nat) {cs xs r : List Char} (h : StringOf cs xs r) :
    Spells d ('"' :: cs) (.value (.string (String.ofList xs))) r
  | array {d : Nat} {cs r : List Char} {vs : List Value}
    (items : Spells d cs (.items true vs) (']' :: r)) :
    Spells (d + 1) ('[' :: cs) (.value (.array vs)) r
  | object {d : Nat} {cs r : List Char} {ms : Members}
    (members : Spells d cs (.members true ms) ('\x7d' :: r)) :
    Spells (d + 1) ('\x7b' :: cs) (.value (.object (putMembers ms []))) r
  | noItem {d : Nat} (first : Bool) {cs r : List Char} (blanks : Blanks cs r) :
    Spells d cs (.items first []) r
  | firstItem {d : Nat} {cs ds r : List Char} {v : Value} {vs : List Value}
    (item : Spells d cs (.value v) ds) (rest : Spells d ds (.items false vs) r) :
    Spells d cs (.items true (v :: vs)) r
  | nextItem {d : Nat} {cs ds es r : List Char} {v : Value} {vs : List Value}
    (comma : Blanks cs (',' :: ds)) (item : Spells d ds (.value v) es)
    (rest : Spells d es (.items false vs) r) : Spells d cs (.items false (v :: vs)) r
  | noMember {d : Nat} (first : Bool) {cs r : List Char} (blanks : Blanks cs r) :
    Spells d cs (.members first []) r
  | member {d : Nat} (first : Bool) {cs ds es fs gs hs r xs : List Char} {v : Value} {ms : Members}
    (comma : Blanks cs (comma first ++ ds)) (quote : Blanks ds ('"' :: es))
    (name : StringOf es xs fs) (colon : Blanks fs (':' :: gs)) (value : Spells d gs (.value v) hs)
    (rest : Spells d hs (.members false ms) r) :
    Spells d cs (.members first ((String.ofList xs, v) :: ms)) r

/-- The text is JSON, and `v` is what it stands for: a spelling with nothing but blanks behind it.
    Of the brackets and braces, at most 127 are open at once. -/
def Denotes (s : String) (v : Value) : Prop :=
  ∃ r, Spells 127 s.toList (.value v) r ∧ Blanks r []

end ReceiptPrinting.Json
