import Mathlib.Data.List.Forall2
import Mathlib.Data.List.Nodup
import ReceiptPrinting.Json.Record
import ReceiptPrinting.Proofs.Json.Parsing

/-!
# Which values are read, and as what

What a value has to look like to be read can be said without a decoder: a relation of values and
what they stand for, its *shape*. A decoder reads values by a shape if it takes exactly the values
that have it, each as what it stands for (`Decoder.ReadsBy`). The shape of a record is put together
from the shapes of its fields.

* `IsString`, `IsBool`, `IsWhole`, `Nullable`, `ListOf`: the shapes of values;
* `OrElse`, `Required`: parts that may be left out, and parts that have to be there;
* `Value.members?`: the members of a record, which may be written as a list;
* `Slots`: the fields of a record are kept apart in its draft;
* **`Slots.fromValue_eq_ok_iff`**: a record is read exactly if each field is read from its member.
-/

namespace ReceiptPrinting.Json

variable {α β σ : Type}

/-! ## 1. Shapes -/

/-- What a value stands for. -/
abbrev Shape (α : Type) := Value → α → Prop

/-- A text. -/
inductive IsString : Shape String where
  | mk (s : String) : IsString (.string s) s

/-- A truth value. -/
inductive IsBool : Shape Bool where
  | mk (b : Bool) : IsBool (.bool b) b

/-- A whole number from `lo` up to `hi`. -/
inductive IsWhole (lo hi : Int) : Shape Int where
  | mk {n : Int} (lower : lo ≤ n) (upper : n ≤ hi) : IsWhole lo hi (.number (.whole n)) n

/-- `null`, which stands for nothing, or another value. -/
inductive Nullable (shape : Shape α) : Shape (Option α) where
  | null : Nullable shape .null none
  | given {v : Value} {a : α} (ne_null : v ≠ .null) (h : shape v a) : Nullable shape v (some a)

/-- A list, item by item. -/
inductive ListOf (shape : Shape α) : Shape (List α) where
  | mk {vs : List Value} {as : List α} (items : List.Forall₂ shape vs as) :
    ListOf shape (.array vs) as

/-- A part that may be left out; then `a₀` stands in for it. -/
inductive OrElse (a₀ : α) (shape : Shape α) : Option Value → α → Prop where
  | absent : OrElse a₀ shape none a₀
  | present {v : Value} {a : α} (h : shape v a) : OrElse a₀ shape (some v) a

/-- A part that has to be there. -/
inductive Required (shape : Shape α) : Option Value → α → Prop where
  | mk {v : Value} {a : α} (h : shape v a) : Required shape (some v) a

/-! ## 2. Decoders -/

/-- The decoder takes exactly the values of the shape, each as what it stands for. -/
def Decoder.ReadsBy (d : Decoder α) (shape : Shape α) : Prop :=
  ∀ v : Value, v.Ordered → ∀ a : α, d.fromValue v = .ok a ↔ shape v a

namespace Decoder

theorem readsBy_string : string.ReadsBy IsString := by
  intro v _ s
  constructor
  · intro h
    cases v with
    | string =>
      cases h
      exact .mk _
    | null | bool | number | array | object => cases h
  · rintro ⟨s⟩
    rfl

theorem readsBy_bool : bool.ReadsBy IsBool := by
  intro v _ b
  constructor
  · intro h
    cases v with
    | bool =>
      cases h
      exact .mk _
    | null | string | number | array | object => cases h
  · rintro ⟨b⟩
    rfl

theorem readsBy_wholeWithin (wanted : Wanted) (lo hi : Int) :
    (wholeWithin wanted lo hi).ReadsBy (IsWhole lo hi) := by
  intro v _ n
  constructor
  · intro h
    cases v with
    | number k =>
      cases k with
      | whole k =>
        simp only [wholeWithin, scalar, Value.found] at h
        split at h
        case isTrue hk =>
          cases h
          exact .mk hk.1 hk.2
        case isFalse => cases h
      | real => cases h
    | null | bool | string | array | object => cases h
  · rintro ⟨lower, upper⟩
    exact if_pos ⟨lower, upper⟩

theorem readsBy_value : value.ReadsBy (· = ·) := by
  intro v _ a
  exact Except.ok.injEq v a ▸ Iff.rfl

theorem ReadsBy.map {d : Decoder α} {shape : Shape α} (h : d.ReadsBy shape) (f : α → β) :
    (d.map f).ReadsBy fun v b => ∃ a, shape v a ∧ f a = b := by
  intro v hv b
  simp only [Decoder.map]
  cases hd : d.fromValue v with
  | error m =>
    refine iff_of_false (by rintro ⟨⟩) ?_
    rintro ⟨a, ha, -⟩
    rw [(h v hv _).mpr ha] at hd
    cases hd
  | ok a =>
    have ha : shape v a := (h v hv _).mp hd
    constructor
    · intro hb
      cases hb
      exact ⟨a, ha, rfl⟩
    · rintro ⟨a', ha', rfl⟩
      rw [(h v hv _).mpr ha'] at hd
      cases hd
      rfl

theorem ReadsBy.optional {d : Decoder α} {shape : Shape α} (h : d.ReadsBy shape) :
    (Decoder.optional d).ReadsBy (Nullable shape) := by
  intro v hv o
  by_cases hnull : v = .null
  · rw [hnull]
    constructor
    · intro ho
      cases ho
      exact .null
    · intro ho
      cases ho with
      | null => rfl
      | given ne_null => exact absurd rfl ne_null
  · have hread : (Decoder.optional d).fromValue v = (d.fromValue v).map some := by
      cases v with
      | null => exact absurd rfl hnull
      | bool | number | string | array | object => rfl
    have hmap := h.map some v hv o
    simp only [Decoder.map] at hmap
    rw [hread, hmap]
    constructor
    · rintro ⟨a, ha, rfl⟩
      exact .given hnull ha
    · intro ho
      cases ho with
      | null => exact absurd rfl hnull
      | given _ ha => exact ⟨_, ha, rfl⟩

theorem ReadsBy.list {d : Decoder α} {shape : Shape α} (h : d.ReadsBy shape) :
    (Decoder.list d).ReadsBy (ListOf shape) := by
  have hitems {vs : List Value} (hvs : ∀ v ∈ vs, v.Ordered) (as : List α) :
      vs.mapM d.fromValue = .ok as ↔ List.Forall₂ shape vs as := by
    induction vs generalizing as with
    | nil =>
      rw [List.mapM_nil, List.forall₂_nil_left_iff]
      exact ⟨fun h => (Except.ok.inj h).symm, fun h => h ▸ rfl⟩
    | cons v vs ih =>
      have hv : v.Ordered := hvs v List.mem_cons_self
      have ih := ih fun w hw => hvs w (List.mem_cons_of_mem _ hw)
      rw [List.mapM_cons, List.forall₂_cons_left_iff]
      constructor
      · intro hread
        obtain ⟨a, ha, hread⟩ := bind_eq_ok hread
        obtain ⟨as', has, hread⟩ := bind_eq_ok hread
        cases hread
        exact ⟨a, as', (h v hv _).mp ha, (ih as').mp has, rfl⟩
      · rintro ⟨a, as', ha, has, rfl⟩
        rw [(h v hv _).mpr ha, (ih as').mpr has]
        rfl
  intro v hv as
  cases hv with
  | array hvs =>
    refine (hitems hvs as).trans ⟨.mk, ?_⟩
    rintro ⟨hall⟩
    exact hall
  | null | bool | number | string | object => exact iff_of_false (by rintro ⟨⟩) (by rintro ⟨⟩)

end Decoder

/-! ## 3. Members -/

/-- The members of a record with fields of these names. A record may be written as a list, its items
    being the fields in their order, from the first as far as it goes. -/
def Value.members? (names : List String) : Value → Option Members
  | .object ms => some ms
  | .array vs => if vs.length ≤ names.length then some (names.zip vs) else none
  | _ => none

theorem map_fst_zip_sublist (names : List String) (vs : List Value) :
    ((names.zip vs).map (·.1)).Sublist names := by
  induction names generalizing vs with
  | nil => exact List.Sublist.refl []
  | cons n names ih =>
    cases vs with
    | nil => exact List.nil_sublist _
    | cons v vs => exact (ih vs).cons_cons n

theorem Value.Ordered.members {names : List String} {v : Value} {ms : Members} (hv : v.Ordered)
    (hnames : names.Nodup) (h : v.members? names = some ms) :
    (ms.map (·.1)).Nodup ∧ ∀ m ∈ ms, m.2.Ordered := by
  cases hv with
  | object sorted members =>
    cases h
    refine ⟨?_, members⟩
    rw [List.Nodup, List.pairwise_map]
    exact sorted.imp String.ne_of_lt
  | array items =>
    simp only [members?] at h
    split at h
    case isTrue hlength =>
      cases h
      refine ⟨?_, fun m hm => items m.2 (List.of_mem_zip hm).2⟩
      exact hnames.sublist (map_fst_zip_sublist names _)
    case isFalse => cases h
  | null | bool | number | string => cases h

/-- A part of a value in order is in order. -/
theorem Value.Ordered.lookup {names : List String} {v : Value} {ms : Members} (hv : v.Ordered)
    (hnames : names.Nodup) (h : v.members? names = some ms) (name : String) :
    ∀ w ∈ ms.lookup name, w.Ordered := by
  intro w hw
  obtain ⟨l, l', rfl, -⟩ := List.lookup_eq_some_iff.mp hw
  exact (hv.members hnames h).2 (name, w) (by simp)

/-! ## 4. Fields -/

/-- What comes of a part that is read: something, or nothing if it is left out and need not be
    there. -/
def Decoder.Yields (d : Decoder α) (required : Bool) (o : Option Value) (x : Option α) : Prop :=
  match o with
  | none => required = false ∧ x = none
  | some v => ∃ a, d.fromValue v = .ok a ∧ x = some a

section

variable {d : Decoder α} {shape : Shape α} {o : Option Value}

/-- A part that may be left out, with what stands in for it. -/
theorem Decoder.ReadsBy.orElse_iff (h : d.ReadsBy shape) (ho : ∀ v ∈ o, v.Ordered) {a₀ a : α} :
    OrElse a₀ shape o a ↔ ∃ x, d.Yields false o x ∧ x.getD a₀ = a := by
  cases o with
  | none =>
    constructor
    · rintro ⟨⟩
      exact ⟨none, ⟨rfl, rfl⟩, rfl⟩
    · rintro ⟨_, ⟨-, rfl⟩, rfl⟩
      exact .absent
  | some v =>
    have hv : v.Ordered := ho v rfl
    constructor
    · intro ha
      cases ha with
      | present ha => exact ⟨some a, ⟨a, (h v hv _).mpr ha, rfl⟩, rfl⟩
    · rintro ⟨_, ⟨a, ha, rfl⟩, rfl⟩
      exact .present ((h v hv _).mp ha)

/-- A part that has to be there; nothing stands in for it. -/
theorem Decoder.ReadsBy.required_iff (h : d.ReadsBy shape) (ho : ∀ v ∈ o, v.Ordered) (a₀ : α)
    {a : α} : Required shape o a ↔ ∃ x, d.Yields true o x ∧ x.getD a₀ = a := by
  cases o with
  | none => exact iff_of_false (by rintro ⟨⟩) (by rintro ⟨_, ⟨⟨⟩, -⟩, -⟩)
  | some v =>
    have hv : v.Ordered := ho v rfl
    constructor
    · intro ha
      cases ha with
      | mk ha => exact ⟨some a, ⟨a, (h v hv _).mpr ha, rfl⟩, rfl⟩
    · rintro ⟨_, ⟨a, ha, rfl⟩, rfl⟩
      exact .mk ((h v hv _).mp ha)

end

/-- A field by its parts: what reads it, and where a draft keeps it. -/
structure Slot (σ : Type) where
  {α : Type}
  name : String
  required : Bool
  decoder : Decoder α
  get : σ → Option α
  set : σ → α → σ

namespace Slot

/-- The slot as a field. -/
def field (f : Slot σ) : Field σ := .of f.name f.required f.decoder f.get f.set

theorem field_fromValue_eq_ok_iff {f : Slot σ} {s t : σ} {v : Value} :
    f.field.fromValue s v = .ok t ↔ ∃ a, f.decoder.fromValue v = .ok a ∧ f.set s a = t := by
  simp only [field, Field.of]
  cases f.decoder.fromValue v with
  | error m => exact iff_of_false (by rintro ⟨⟩) (by rintro ⟨a, ⟨⟩, -⟩)
  | ok a => simp [Except.map]

/-- What the draft `s` has of a field whose part is `o`. -/
def Holds (f : Slot σ) (o : Option Value) (s : σ) : Prop :=
  f.decoder.Yields f.required o (f.get s)

/-- What the draft `t` has of a field whose part is `o`, if it started as `s`: what is read from it,
    or what it had. -/
def Filled (f : Slot σ) (o : Option Value) (s t : σ) : Prop :=
  match o with
  | none => f.get t = f.get s
  | some v => ∃ a, f.decoder.fromValue v = .ok a ∧ f.get t = some a

theorem holds_iff_filled {f : Slot σ} {o : Option Value} {s t : σ} (hs : f.get s = none) :
    f.Holds o t ↔ f.Filled o s t ∧ (f.required = true → o ≠ none) := by
  cases o with
  | none => simp [Holds, Decoder.Yields, Filled, hs, and_comm]
  | some v => simp [Holds, Decoder.Yields, Filled]

theorem Filled.isSome {f : Slot σ} {o : Option Value} {s t : σ} (h : f.Filled o s t)
    (hs : f.get s = none) : (f.get t).isSome = true ↔ o ≠ none := by
  cases o with
  | none =>
    have hget : f.get t = f.get s := h
    simp [hget, hs]
  | some v =>
    obtain ⟨a, -, ha⟩ := h
    simp [ha]

end Slot

/-- The fields of a record, which do not come in each other's way. -/
structure Slots (r : Record σ α) (fs : List (Slot σ)) : Prop where
  fields : r.fields = fs.map Slot.field
  nodup : (fs.map Slot.name).Nodup
  blank : ∀ f ∈ fs, f.get r.blank = none
  get_set : ∀ f ∈ fs, ∀ s a, f.get (f.set s a) = some a
  get_set_other : ∀ f ∈ fs, ∀ g ∈ fs, f.name ≠ g.name → ∀ s a, g.get (f.set s a) = g.get s
  ext : ∀ s t, (∀ f ∈ fs, f.get s = f.get t) → s = t

namespace Slots

variable {r : Record σ α} {fs : List (Slot σ)} {s t : σ} {ms : Members}

theorem field?_name (h : Slots r fs) {f : Slot σ} (hf : f ∈ fs) :
    r.field? f.name = some f.field := by
  have hmap : r.field? f.name = (fs.find? (·.name == f.name)).map Slot.field := by
    rw [Record.field?, h.fields, List.find?_map]
    rfl
  cases hfind : fs.find? (·.name == f.name) with
  | none =>
    have hnone := List.find?_eq_none.mp hfind f hf
    simp at hnone
  | some g =>
    have hname : g.name = f.name := by simpa using List.find?_some hfind
    obtain rfl := List.inj_on_of_nodup_map h.nodup (List.mem_of_find?_eq_some hfind) hf hname
    rw [hmap, hfind]
    rfl

theorem field?_eq_none (h : Slots r fs) {name : String} (hname : name ∉ fs.map Slot.name) :
    r.field? name = none := by
  rw [Record.field?, List.find?_eq_none, h.fields]
  intro g hg
  obtain ⟨f, hf, rfl⟩ := List.mem_map.mp hg
  have hne : f.name ≠ name := fun heq => hname (heq ▸ List.mem_map_of_mem hf)
  simpa [Slot.field, Field.of] using hne

/-! ## 5. Records from members -/

theorem lookup_eq_none_of_notMem {name : String} (h : name ∉ ms.map (·.1)) :
    ms.lookup name = none := by
  rw [List.lookup_eq_none_iff]
  intro m hm
  have hne : name ≠ m.1 := fun heq => h (heq ▸ List.mem_map_of_mem hm)
  simpa using hne

theorem lookup_cons_other {name : String} {m : String × Value} (h : name ≠ m.1) :
    (m :: ms).lookup name = ms.lookup name := by
  obtain ⟨k, v⟩ := m
  rw [List.lookup_cons, beq_false_of_ne h]

theorem lookup_cons_self (m : String × Value) : (m :: ms).lookup m.1 = some m.2 := by
  obtain ⟨k, v⟩ := m
  rw [List.lookup_cons, beq_self_eq_true]

/-- What is read from members with names of their own. -/
theorem filled_of_draftOfMembers (h : Slots r fs) (hnames : (ms.map (·.1)).Nodup)
    (hread : r.draftOfMembers ms s = .ok t) : ∀ f ∈ fs, f.Filled (ms.lookup f.name) s t := by
  induction ms generalizing s with
  | nil =>
    cases hread
    exact fun f _ => rfl
  | cons m ms ih =>
    obtain ⟨hm, hnames⟩ := List.nodup_cons.mp hnames
    rw [Record.draftOfMembers] at hread
    by_cases hknown : m.1 ∈ fs.map Slot.name
    · obtain ⟨g, hg, hname⟩ := List.mem_map.mp hknown
      rw [← hname, h.field?_name hg] at hread
      obtain ⟨u, hu, hread⟩ := bind_eq_ok hread
      obtain ⟨a, ha, rfl⟩ := Slot.field_fromValue_eq_ok_iff.mp hu
      intro f hf
      have hfilled := ih hnames hread f hf
      by_cases hsame : f.name = m.1
      · obtain rfl := List.inj_on_of_nodup_map h.nodup hf hg (hsame.trans hname.symm)
        -- no later member is of this field
        rw [lookup_eq_none_of_notMem (hsame ▸ hm)] at hfilled
        rw [hsame, lookup_cons_self]
        exact ⟨a, ha, hfilled.trans (h.get_set f hf s a)⟩
      · rw [lookup_cons_other hsame]
        have hget : f.get (g.set s a) = f.get s :=
          h.get_set_other g hg f hf (fun heq => hsame (heq.symm.trans hname)) s a
        simpa only [Slot.Filled, hget] using hfilled
    · rw [h.field?_eq_none hknown] at hread
      intro f hf
      have hsame : f.name ≠ m.1 := fun heq => hknown (heq ▸ List.mem_map_of_mem hf)
      rw [lookup_cons_other hsame]
      exact ih hnames hread f hf

/-- Members are read if each that is of a field is. -/
theorem exists_draftOfMembers (h : Slots r fs) (hnames : (ms.map (·.1)).Nodup)
    (hms : ∀ f ∈ fs, ∀ v, ms.lookup f.name = some v → ∃ a, f.decoder.fromValue v = .ok a) (s : σ) :
    ∃ t, r.draftOfMembers ms s = .ok t := by
  induction ms generalizing s with
  | nil => exact ⟨s, rfl⟩
  | cons m ms ih =>
    obtain ⟨hm, hnames⟩ := List.nodup_cons.mp hnames
    have hrest (s : σ) : ∃ t, r.draftOfMembers ms s = .ok t := by
      refine ih hnames (fun f hf v hv => hms f hf v ?_) s
      have hsame : f.name ≠ m.1 := by
        intro heq
        rw [heq, lookup_eq_none_of_notMem hm] at hv
        cases hv
      rwa [lookup_cons_other hsame]
    rw [Record.draftOfMembers]
    by_cases hknown : m.1 ∈ fs.map Slot.name
    · obtain ⟨g, hg, hname⟩ := List.mem_map.mp hknown
      obtain ⟨a, ha⟩ := hms g hg m.2 (hname ▸ lookup_cons_self m)
      obtain ⟨t, ht⟩ := hrest (g.set s a)
      rw [← hname, h.field?_name hg]
      refine ⟨t, ?_⟩
      simp only [Slot.field_fromValue_eq_ok_iff.mpr ⟨a, ha, rfl⟩, ok_bind, ht]
    · rw [h.field?_eq_none hknown]
      exact hrest s

theorem draftOfMembers_eq_ok_iff (h : Slots r fs) (hnames : (ms.map (·.1)).Nodup) :
    r.draftOfMembers ms s = .ok t ↔ ∀ f ∈ fs, f.Filled (ms.lookup f.name) s t := by
  refine ⟨h.filled_of_draftOfMembers hnames, fun ht => ?_⟩
  have hms : ∀ f ∈ fs, ∀ v, ms.lookup f.name = some v → ∃ a, f.decoder.fromValue v = .ok a := by
    intro f hf v hv
    have hfilled := ht f hf
    rw [hv] at hfilled
    obtain ⟨a, ha, -⟩ := hfilled
    exact ⟨a, ha⟩
  obtain ⟨u, hu⟩ := h.exists_draftOfMembers hnames hms s
  have hsame : u = t := by
    refine h.ext u t fun f hf => ?_
    have hfu := h.filled_of_draftOfMembers hnames hu f hf
    have hft := ht f hf
    cases hlookup : ms.lookup f.name with
    | none =>
      rw [hlookup] at hfu hft
      exact Eq.trans hfu (Eq.symm hft)
    | some v =>
      rw [hlookup] at hfu hft
      obtain ⟨a, ha, hua⟩ := hfu
      obtain ⟨b, hb, htb⟩ := hft
      rw [ha] at hb
      cases hb
      exact hua.trans htb.symm
  rw [hu, hsame]

/-- Nothing is missing if every field that is required has been read. -/
theorem missing?_eq_none_iff (h : Slots r fs) :
    r.missing? s = none ↔ ∀ f ∈ fs, f.required = true → (f.get s).isSome = true := by
  rw [Record.missing?, Option.map_eq_none_iff, List.find?_eq_none, h.fields]
  simp [Slot.field, Field.of]

/-! ## 6. Records from lists -/

/-- The items of a list are read as the members they stand for. -/
theorem draftOfItems_eq_ok_iff {gs : List (Slot σ)}
    (hfield : ∀ g ∈ gs, r.field? g.name = some g.field) (n : Nat) (vs : List Value) (i : Nat) :
    r.draftOfItems n (gs.map Slot.field) vs i s = .ok t ↔
      vs.length ≤ gs.length ∧ r.draftOfMembers ((gs.map Slot.name).zip vs) s = .ok t ∧
        ∀ g ∈ gs.drop vs.length, g.required = false := by
  induction gs generalizing vs i s with
  | nil =>
    cases vs with
    | nil => simp [Record.draftOfItems, Record.draftOfMembers]
    | cons v vs => simp [Record.draftOfItems]
  | cons g gs ih =>
    have hg := hfield g List.mem_cons_self
    have ih := fun s vs i => ih (s := s) (fun f hf => hfield f (List.mem_cons_of_mem _ hf)) vs i
    cases vs with
    | nil =>
      have ih := ih s [] (i + 1)
      rw [List.map_cons, Record.draftOfItems]
      cases hrequired : g.required with
      | false =>
        have hfalse : g.field.required = false := hrequired
        simp only [hfalse, Bool.false_eq_true, if_false, ih]
        simp [hrequired]
      | true =>
        have htrue : g.field.required = true := hrequired
        simp [htrue, hrequired]
    | cons v vs =>
      rw [List.map_cons, List.map_cons, Record.draftOfItems, List.zip_cons_cons,
        Record.draftOfMembers]
      simp only [hg]
      cases hv : g.field.fromValue s v with
      | error m => exact iff_of_false (by rintro ⟨⟩) (by rintro ⟨-, ⟨⟩, -⟩)
      | ok u =>
        simp only [ok_bind, ih u vs (i + 1), List.length_cons, List.drop_succ_cons,
          Nat.add_le_add_iff_right]

/-- A list has no item for exactly the last of the names. -/
theorem lookup_zip_eq_none_iff {names : List String} (hnames : names.Nodup) {name : String}
    (hname : name ∈ names) (vs : List Value) :
    (names.zip vs).lookup name = none ↔ name ∈ names.drop vs.length := by
  induction names generalizing vs with
  | nil => cases hname
  | cons k names ih =>
    obtain ⟨hk, hnames⟩ := List.nodup_cons.mp hnames
    cases vs with
    | nil => exact iff_of_true rfl hname
    | cons v vs =>
      rw [List.zip_cons_cons, List.length_cons, List.drop_succ_cons]
      by_cases hsame : name = k
      · rw [hsame, lookup_cons_self (k, v)]
        exact iff_of_false (by simp) fun hmem => hk (List.mem_of_mem_drop hmem)
      · rw [lookup_cons_other hsame]
        exact ih hnames (List.mem_of_ne_of_mem hsame hname) vs

/-- The fields that a list has no item for may be left out. -/
theorem required_drop_iff (h : Slots r fs) (vs : List Value) :
    (∀ f ∈ fs.drop vs.length, f.required = false) ↔
      ∀ f ∈ fs, f.required = true → ((fs.map Slot.name).zip vs).lookup f.name ≠ none := by
  have hlookup : ∀ f ∈ fs, ((fs.map Slot.name).zip vs).lookup f.name = none ↔
      f ∈ fs.drop vs.length := by
    intro f hf
    rw [lookup_zip_eq_none_iff h.nodup (List.mem_map_of_mem hf), ← List.map_drop, List.mem_map]
    constructor
    · rintro ⟨g, hg, hname⟩
      rwa [← List.inj_on_of_nodup_map h.nodup (List.mem_of_mem_drop hg) hf hname]
    · intro hmem
      exact ⟨f, hmem, rfl⟩
  constructor
  · intro hdrop f hf hrequired hnone
    rw [hdrop f ((hlookup f hf).mp hnone)] at hrequired
    cases hrequired
  · intro hall f hf
    have hmem := List.mem_of_mem_drop hf
    refine Bool.eq_false_iff.mpr fun hrequired => ?_
    exact hall f hmem hrequired ((hlookup f hmem).mpr hf)

/-! ## 7. Records -/

/-- A draft holds what is read from the members, and what is required is among them. -/
theorem holds_iff_draftOfMembers (h : Slots r fs) (hnames : (ms.map (·.1)).Nodup) :
    (∀ f ∈ fs, f.Holds (ms.lookup f.name) s) ↔ r.draftOfMembers ms r.blank = .ok s ∧
      ∀ f ∈ fs, f.required = true → ms.lookup f.name ≠ none := by
  rw [h.draftOfMembers_eq_ok_iff hnames, ← forall₂_and]
  exact forall₂_congr fun f hf => Slot.holds_iff_filled (h.blank f hf)

/-- Nothing is missing from a draft if what is required is among the members. -/
theorem missing?_draftOfMembers (h : Slots r fs) (hnames : (ms.map (·.1)).Nodup)
    (hread : r.draftOfMembers ms r.blank = .ok s) :
    r.missing? s = none ↔ ∀ f ∈ fs, f.required = true → ms.lookup f.name ≠ none := by
  have hfilled := h.filled_of_draftOfMembers hnames hread
  rw [h.missing?_eq_none_iff]
  exact forall₂_congr fun f hf => imp_congr_right fun _ => (hfilled f hf).isSome (h.blank f hf)

theorem fromValue_object_eq_ok_iff (h : Slots r fs) (hnames : (ms.map (·.1)).Nodup) {a : α} :
    r.fromValue (.object ms) = .ok a ↔
      ∃ s, (∀ f ∈ fs, f.Holds (ms.lookup f.name) s) ∧ r.finish s = a := by
  constructor
  · intro hread
    obtain ⟨s, hs, hread⟩ := bind_eq_ok hread
    split at hread
    case h_1 => cases hread
    case h_2 hnone =>
      cases hread
      have hrequired := (h.missing?_draftOfMembers hnames hs).mp hnone
      exact ⟨s, (h.holds_iff_draftOfMembers hnames).mpr ⟨hs, hrequired⟩, rfl⟩
  · rintro ⟨s, hall, rfl⟩
    obtain ⟨hs, hrequired⟩ := (h.holds_iff_draftOfMembers hnames).mp hall
    have hnone := (h.missing?_draftOfMembers hnames hs).mpr hrequired
    simp only [Record.fromValue, hs, ok_bind, hnone]
    rfl

theorem fromValue_array_eq_ok_iff (h : Slots r fs) {vs : List Value}
    (hnames : (((fs.map Slot.name).zip vs).map (·.1)).Nodup) {a : α} :
    r.fromValue (.array vs) = .ok a ↔ vs.length ≤ fs.length ∧
      ∃ s, (∀ f ∈ fs, f.Holds (((fs.map Slot.name).zip vs).lookup f.name) s) ∧ r.finish s = a := by
  have hitems {s : σ} : r.draftOfItems vs.length r.fields vs 0 r.blank = .ok s ↔
      vs.length ≤ fs.length ∧
        ∀ f ∈ fs, f.Holds (((fs.map Slot.name).zip vs).lookup f.name) s := by
    rw [h.fields, draftOfItems_eq_ok_iff (fun g hg => h.field?_name hg), h.required_drop_iff,
      h.holds_iff_draftOfMembers hnames]
  constructor
  · intro hread
    obtain ⟨s, hs, hread⟩ := bind_eq_ok hread
    cases hread
    obtain ⟨hlength, hall⟩ := hitems.mp hs
    exact ⟨hlength, s, hall, rfl⟩
  · rintro ⟨hlength, s, hall, rfl⟩
    simp only [Record.fromValue, hitems.mpr ⟨hlength, hall⟩, ok_bind]
    rfl

/-- **A record is read exactly if each of its fields is**, from the member of its name: what is
    there is read by the decoder of the field, and what is required is there. -/
theorem fromValue_eq_ok_iff (h : Slots r fs) {v : Value} (hv : v.Ordered) {a : α} :
    r.fromValue v = .ok a ↔ ∃ ms s, v.members? (fs.map Slot.name) = some ms ∧
      (∀ f ∈ fs, f.Holds (ms.lookup f.name) s) ∧ r.finish s = a := by
  cases v with
  | object ms =>
    have hmembers : (Value.object ms).members? (fs.map Slot.name) = some ms := rfl
    rw [h.fromValue_object_eq_ok_iff (hv.members h.nodup hmembers).1]
    constructor
    · rintro ⟨s, hall, hfinish⟩
      exact ⟨ms, s, rfl, hall, hfinish⟩
    · rintro ⟨_, s, ⟨⟩, hall, hfinish⟩
      exact ⟨s, hall, hfinish⟩
  | array vs =>
    have hnames : (((fs.map Slot.name).zip vs).map (·.1)).Nodup :=
      h.nodup.sublist (map_fst_zip_sublist _ vs)
    rw [h.fromValue_array_eq_ok_iff hnames]
    simp only [Value.members?, List.length_map]
    constructor
    · rintro ⟨hlength, s, hall, hfinish⟩
      exact ⟨_, s, if_pos hlength, hall, hfinish⟩
    · rintro ⟨ms, s, hms, hall, hfinish⟩
      split at hms
      case isTrue hlength =>
        cases hms
        exact ⟨hlength, s, hall, hfinish⟩
      case isFalse => cases hms
  | null | bool | number | string =>
    refine iff_of_false (by rintro ⟨⟩) ?_
    rintro ⟨ms, s, ⟨⟩, -⟩

end Slots

end ReceiptPrinting.Json
