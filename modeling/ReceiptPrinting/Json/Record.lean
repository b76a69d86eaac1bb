import ReceiptPrinting.Json.Decoder

/-!
# Records

A record is written as an object with a member for each field, or as a list with the fields in their
order. A field is required or has a value of its own when it is absent. Members that are no field
are passed over.

A record is read into a draft, which starts out blank and is filled field by field (`Field.set`); at
the end the draft is made into the record (`Record.finish`). What is missing is reported for the
first required field in the order of fields.

* `Record.decoder` is the decoder of a record.
-/

namespace ReceiptPrinting.Json

/-- A field of a record that is read into a draft of type `σ`. -/
structure Field (σ : Type) where
  name : String
  required : Bool
  /-- Has the draft got this field? -/
  isSet : σ → Bool
  /-- Reads the field from a text into the draft. -/
  fromText : σ → (depth : Nat) → Cursor → Except Failure (σ × Cursor)
  /-- Reads the field from a value into the draft. -/
  fromValue : σ → Value → Except Mismatch σ

/-- A field read by `d` and kept in the draft by `get` and `set`. -/
def Field.of {σ α : Type} (name : String) (required : Bool) (d : Decoder α) (get : σ → Option α)
    (set : σ → α → σ) : Field σ where
  name
  required
  isSet s := (get s).isSome
  fromText s depth c := do
    let (a, c) ← d.fromText depth c
    pure (set s a, c)
  fromValue s v := (d.fromValue v).map (set s)

/-- How a record of type `α` is read. -/
structure Record (σ α : Type) where
  name : String
  fields : List (Field σ)
  blank : σ
  finish : σ → α

namespace Record

variable {σ α : Type}

/-- Why reading the parts of a record stops: at a place of its own, or for the record as a whole,
    with the text left to read. -/
inductive Stop where
  | placed (f : Failure)
  | loose (m : Mismatch) (c : Cursor)

/-- Reading the parts of a record. -/
abbrev Parts (β : Type) := Except Stop β

/-- A step that knows its own place. -/
def placed {β : Type} : Except Failure β → Parts β
  | .ok b => .ok b
  | .error f => .error (.placed f)

/-- The field of a name. -/
def field? (r : Record σ α) (name : String) : Option (Field σ) :=
  r.fields.find? (·.name == name)

/-- The first required field that a draft has not got. -/
def missing? (r : Record σ α) (s : σ) : Option Mismatch :=
  (r.fields.find? fun f => f.required && !f.isSet s).map fun f => .missing f.name

/-! ## 1. From a text -/

/-- Reads the members of an object into a draft, up to the closing brace. -/
def membersFrom (r : Record σ α) (depth : Nat) : (budget : Nat) → (first : Bool) → σ → Cursor →
    Parts (σ × Cursor)
  | 0, _, _, c => placed (faultAt c.offset .endOfObject)
  | k + 1, first, s, c => do
    match ← placed (nextName first c) with
    | none => pure (s, c)
    | some c =>
      let (name, c) ← placed (readString c)
      match r.field? name with
      | some f =>
        if f.isSet s then throw (.loose (.duplicate name) c)
        let c ← placed (colon c)
        let (s, c) ← placed (f.fromText s depth c)
        membersFrom r depth k false s c
      | none =>
        let c ← placed (colon c)
        let c ← placed (skipValue c)
        membersFrom r depth k false s c

/-- Reads an object behind its opening brace. -/
def fromMembers (r : Record σ α) (depth : Nat) (c : Cursor) : Parts (σ × Cursor) := do
  let (s, c) ← r.membersFrom depth c.budget true r.blank c
  match r.missing? s with
  | some m => throw (.loose m c)
  | none => pure (s, c)

/-- Reads the items of a list as the fields in their order, up to the closing bracket. `i` fields
    have been read. -/
def itemsFrom (r : Record σ α) (depth : Nat) : List (Field σ) → (i : Nat) → σ → Cursor →
    Parts (σ × Cursor)
  | [], _, s, c => .ok (s, c)
  | f :: fs, i, s, c => do
    match ← placed (nextItem (i == 0) c) with
    | some c =>
      let (s, c) ← placed (f.fromText s depth c)
      itemsFrom r depth fs (i + 1) s c
    | none =>
      if f.required then throw (.loose (.tooShort i r.name r.fields.length) c)
      itemsFrom r depth fs (i + 1) s c

/-- The record read from its parts. A failure of the record as a whole is placed where its end has
    been looked for. -/
def close (r : Record σ α) (parts : Parts (σ × Cursor)) (settle : Cursor → Nat)
    (closing : Cursor → Except Failure Cursor) : Except Failure (α × Cursor) :=
  match parts with
  | .ok (s, c) => do pure (r.finish s, ← closing c)
  | .error (.placed f) => .error f
  | .error (.loose m c) => mismatchAt (settle c) m

/-- Reads the record from a text. -/
def fromText (r : Record σ α) (depth : Nat) (c : Cursor) : Except Failure (α × Cursor) := do
  match ← head c with
  | .scalar f d => mismatchAt d.offset (.kind f (.record r.name))
  | .list d =>
    let depth ← enter depth d.offset
    r.close (r.itemsFrom depth r.fields 0 r.blank d) settleList closeList
  | .object d =>
    let depth ← enter depth d.offset
    r.close (r.fromMembers depth d) settleObject closeObject

/-! ## 2. From a value -/

/-- Reads members into a draft. -/
def draftOfMembers (r : Record σ α) : Members → σ → Except Mismatch σ
  | [], s => .ok s
  | m :: ms, s =>
    match r.field? m.1 with
    | some f => do draftOfMembers r ms (← f.fromValue s m.2)
    | none => draftOfMembers r ms s

/-- Reads items as the fields in their order, `n` items in all. -/
def draftOfItems (r : Record σ α) (n : Nat) : List (Field σ) → List Value → (i : Nat) → σ →
    Except Mismatch σ
  | [], [], _, s => .ok s
  | [], _ :: _, _, _ => .error (.tooLong n)
  | f :: fs, [], i, s =>
    if f.required then .error (.tooShort i r.name r.fields.length)
    else draftOfItems r n fs [] (i + 1) s
  | f :: fs, v :: vs, i, s => do draftOfItems r n fs vs (i + 1) (← f.fromValue s v)

/-- Reads the record from a value. -/
def fromValue (r : Record σ α) : Value → Except Mismatch α
  | .object ms => do
    let s ← r.draftOfMembers ms r.blank
    match r.missing? s with
    | some m => throw m
    | none => pure (r.finish s)
  | .array vs => do pure (r.finish (← r.draftOfItems vs.length r.fields vs 0 r.blank))
  | v => .error (.kind v.found (.record r.name))

/-- The decoder of a record. -/
def decoder (r : Record σ α) : Decoder α := ⟨r.fromText, r.fromValue⟩

end Record

end ReceiptPrinting.Json
