import Mathlib.Data.List.DropRight
import ReceiptPrinting.Text.Blank

/-!
# Blank texts and what trimming leaves

A text is blank if all its characters are. Trimming leaves nothing of a blank text and something of
every other; so a text is printed exactly if it is not blank. What trimming leaves has no blank at
either end (`trimmed_trim`), and a text without such blanks is left as it is (`trim_ofList`),
whatever blanks stand around it (`trim_surrounded`). Blanks around a text (`Spaced`) make no
difference to what is left of it (`Spaced.trim_eq`).
-/

namespace ReceiptPrinting.Text

/-- Every character of the text is blank. -/
def Blank (s : String) : Prop := ∀ c ∈ s.toList, isBlank c = true

instance (s : String) : Decidable (Blank s) := List.decidableBAll _ s.toList

theorem trimStart_eq_nil {cs : List Char} : trimStart cs = [] ↔ ∀ c ∈ cs, isBlank c = true :=
  List.dropWhile_eq_nil_iff

theorem trimEnd_eq_nil {cs : List Char} : trimEnd cs = [] ↔ ∀ c ∈ cs, isBlank c = true :=
  List.rdropWhile_eq_nil_iff

theorem trimEnd_trimStart_eq_nil {cs : List Char} :
    trimEnd (trimStart cs) = [] ↔ trimStart cs = [] := by
  constructor
  · intro h
    by_contra hne
    -- what is left at the start is not blank, so it is left at the end as well
    have hhead : isBlank ((trimStart cs).head hne) = false := List.head_dropWhile_not isBlank hne
    rw [trimEnd_eq_nil.mp h _ (List.head_mem hne)] at hhead
    cases hhead
  · intro h
    rw [h]
    rfl

theorem toList_trim_eq_nil (s : String) : (trim s).toList = [] ↔ Blank s := by
  rw [trim, String.toList_ofList, trimEnd_trimStart_eq_nil, trimStart_eq_nil]
  rfl

theorem trim_isEmpty (s : String) : (trim s).isEmpty = true ↔ Blank s := by
  rw [String.isEmpty_iff, ← String.toList_eq_nil_iff, toList_trim_eq_nil]

/-- **Exactly what is not blank is printed**, and it is printed trimmed. -/
theorem printable_eq_some_iff {s t : String} : printable s = some t ↔ ¬ Blank s ∧ t = trim s := by
  rw [← trim_isEmpty, printable]
  split
  case isTrue h => simp [h]
  case isFalse h => simp [h, eq_comm]

theorem printable_isSome_iff {s : String} : (printable s).isSome = true ↔ ¬ Blank s := by
  rw [Option.isSome_iff_exists]
  simp [printable_eq_some_iff]

/-! ## Ends -/

/-- Neither the first character nor the last is blank. -/
structure Trimmed (cs : List Char) : Prop where
  first : ∀ c ∈ cs.head?, isBlank c = false
  last : ∀ c ∈ cs.getLast?, isBlank c = false

section

variable {cs : List Char}

theorem trimEnd_isPrefix (cs : List Char) : trimEnd cs <+: cs := List.rdropWhile_prefix isBlank cs

/-- Trimming keeps no character that was not there. -/
theorem mem_of_mem_trim {c : Char} {s : String} (h : c ∈ (trim s).toList) : c ∈ s.toList := by
  rw [trim, String.toList_ofList] at h
  have hstart : c ∈ trimStart s.toList := (trimEnd_isPrefix _).subset h
  exact (List.dropWhile_suffix isBlank).subset hstart

theorem trimmed_trim (s : String) : Trimmed (trim s).toList := by
  rw [trim, String.toList_ofList]
  constructor
  case first =>
    intro c hc
    -- what is left at the end starts as what is left at the start does
    obtain ⟨behind, hbehind⟩ := trimEnd_isPrefix (trimStart s.toList)
    have hhead : (trimStart s.toList).head? = some c := by
      rw [← hbehind, List.head?_append, Option.mem_def.mp hc, Option.some_or]
    have hnot := List.head?_dropWhile_not isBlank s.toList
    rw [← trimStart, hhead] at hnot
    exact hnot
  case last =>
    intro c hc
    have hne : trimEnd (trimStart s.toList) ≠ [] := by
      rintro hnil
      rw [hnil] at hc
      cases hc
    have hnot := List.rdropWhile_last_not isBlank (trimStart s.toList) hne
    rw [List.getLast?_eq_some_getLast hne, Option.mem_some_iff] at hc
    rw [← hc]
    exact Bool.eq_false_iff.mpr hnot

theorem Trimmed.trimStart (h : Trimmed cs) : trimStart cs = cs := by
  cases cs with
  | nil => rfl
  | cons c r =>
    have hc : isBlank c = false := h.first c rfl
    rw [Text.trimStart, List.dropWhile_cons_of_neg (by rw [hc]; exact Bool.false_ne_true)]

theorem Trimmed.trimEnd (h : Trimmed cs) : trimEnd cs = cs := by
  refine List.rdropWhile_eq_self_iff.mpr fun hne hblank => ?_
  have hlast := h.last (cs.getLast hne) (List.getLast?_eq_some_getLast hne)
  rw [hlast] at hblank
  cases hblank

theorem trimStart_append {bs : List Char} (hbs : ∀ c ∈ bs, isBlank c = true) (cs : List Char) :
    trimStart (bs ++ cs) = trimStart cs := List.dropWhile_append_of_pos hbs

theorem trimEnd_append {bs : List Char} (hbs : ∀ c ∈ bs, isBlank c = true) (cs : List Char) :
    trimEnd (cs ++ bs) = trimEnd cs := by
  rw [trimEnd, List.reverse_append,
    List.dropWhile_append_of_pos fun c hc => hbs c (List.mem_reverse.mp hc), trimEnd]

/-- **Blanks around a text are dropped.** -/
theorem trim_surrounded {before after : String} (h : Trimmed cs) (hne : cs ≠ [])
    (hbefore : Blank before) (hafter : Blank after) :
    trim (before ++ String.ofList cs ++ after) = String.ofList cs := by
  obtain ⟨c, r, rfl⟩ := List.exists_cons_of_ne_nil hne
  have hc : ¬ isBlank c = true := Bool.eq_false_iff.mp (h.first c rfl)
  have hstart : Text.trimStart (c :: r ++ after.toList) = c :: r ++ after.toList :=
    List.dropWhile_cons_of_neg hc
  rw [trim, String.toList_append, String.toList_append, String.toList_ofList, List.append_assoc,
    trimStart_append hbefore, hstart, trimEnd_append hafter, h.trimEnd]

/-- **What has no blank ends is left as it is.** -/
theorem trim_ofList (h : Trimmed cs) : trim (String.ofList cs) = String.ofList cs := by
  rw [trim, String.toList_ofList, h.trimStart, h.trimEnd]

end

/-! ## Blanks around a text -/

/-- `s` is the text `t`, with blanks around it or without. -/
def Spaced (t s : String) : Prop :=
  ∃ before after, Blank before ∧ Blank after ∧ s = before ++ t ++ after

theorem trim_append_blank {after : String} (h : Blank after) (s : String) :
    trim (s ++ after) = trim s := by
  rw [trim, trim, String.toList_append]
  by_cases hs : trimStart s.toList = []
  · -- the whole text is blank
    have hall : ∀ c ∈ s.toList ++ after.toList, isBlank c = true := by
      intro c hc
      rcases List.mem_append.mp hc with hc | hc
      · exact trimStart_eq_nil.mp hs c hc
      · exact h c hc
    rw [hs, trimStart_eq_nil.mpr hall]
  · have hstart : trimStart (s.toList ++ after.toList) = trimStart s.toList ++ after.toList := by
      have hempty : ¬ (s.toList.dropWhile isBlank).isEmpty = true := by
        rwa [List.isEmpty_iff]
      rw [trimStart, List.dropWhile_append, if_neg hempty, trimStart]
    rw [hstart, trimEnd_append h]

/-- **Blanks around a text make no difference**, whatever the text. -/
theorem Spaced.trim_eq {s t : String} (h : Spaced t s) : trim s = trim t := by
  obtain ⟨before, after, hbefore, hafter, rfl⟩ := h
  rw [trim_append_blank hafter, trim, String.toList_append, trimStart_append hbefore, trim]

/-- Blanks around a text add nothing but blanks. -/
theorem Spaced.notMem {s t : String} {c : Char} (h : Spaced t s) (hc : isBlank c = false)
    (ht : c ∉ t.toList) : c ∉ s.toList := by
  obtain ⟨before, after, hbefore, hafter, rfl⟩ := h
  have hblank {b : String} (hb : Blank b) : c ∉ b.toList := by
    intro hmem
    rw [hb c hmem] at hc
    cases hc
  simp only [String.toList_append, List.mem_append, not_or]
  exact ⟨⟨hblank hbefore, ht⟩, hblank hafter⟩

theorem spaced_trimStart (s : String) : Spaced (String.ofList (trimStart s.toList)) s := by
  refine ⟨String.ofList (s.toList.takeWhile isBlank), "", fun c hc => ?_,
    fun _ h => absurd h List.not_mem_nil, ?_⟩
  · rw [String.toList_ofList] at hc
    exact List.mem_takeWhile_imp hc
  · rw [trimStart, ← String.ofList_append, List.takeWhile_append_dropWhile, String.ofList_toList,
      String.append_empty]

theorem spaced_trimEnd (s : String) : Spaced (String.ofList (trimEnd s.toList)) s := by
  refine ⟨"", String.ofList (s.toList.reverse.takeWhile isBlank).reverse,
    fun _ h => absurd h List.not_mem_nil, fun c hc => ?_, ?_⟩
  · rw [String.toList_ofList, List.mem_reverse] at hc
    exact List.mem_takeWhile_imp hc
  · rw [trimEnd, String.empty_append, ← String.ofList_append, ← List.reverse_append,
      List.takeWhile_append_dropWhile, List.reverse_reverse, String.ofList_toList]

/-! ## Trimming around a character that stays -/

section

variable {c : Char} (hc : isBlank c = false) (as bs : List Char)

include hc

theorem trimStart_append_cons : trimStart (as ++ c :: bs) = trimStart as ++ c :: bs := by
  have hstart : (c :: bs).dropWhile isBlank = c :: bs :=
    List.dropWhile_cons_of_neg (Bool.eq_false_iff.mp hc)
  unfold trimStart
  rw [List.dropWhile_append]
  split
  case isTrue h => rw [List.isEmpty_iff.mp h, hstart, List.nil_append]
  case isFalse h => rfl

theorem trimEnd_append_cons : trimEnd (as ++ c :: bs) = as ++ c :: trimEnd bs := by
  have hreverse : (as ++ c :: bs).reverse = bs.reverse ++ c :: as.reverse := by simp
  have h := trimStart_append_cons hc bs.reverse as.reverse
  unfold trimStart at h
  unfold trimEnd
  rw [hreverse, h]
  simp

/-- The blanks at the two ends are dropped each on its side of it. -/
theorem trimEnd_trimStart_append_cons :
    trimEnd (trimStart (as ++ c :: bs)) = trimStart as ++ c :: trimEnd bs := by
  rw [trimStart_append_cons hc, trimEnd_append_cons hc]

end

/-- A text starts with its first character that is not blank. -/
theorem head?_trim (s : String) : (trim s).toList.head? = (trimStart s.toList).head? := by
  rw [trim, String.toList_ofList]
  by_cases h : trimStart s.toList = []
  · rw [h]
    rfl
  · obtain ⟨behind, hbehind⟩ := trimEnd_isPrefix (trimStart s.toList)
    have hne := mt trimEnd_trimStart_eq_nil.mp h
    conv_rhs => rw [← hbehind]
    rw [List.head?_append_of_ne_nil _ hne]

end ReceiptPrinting.Text
