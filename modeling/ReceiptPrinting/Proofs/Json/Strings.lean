import ReceiptPrinting.Json.StringLiteral

/-!
# Strings are read as they are written

Every character of a string is written by itself or behind a backslash, and each of these spellings
is read as the character it stands for: whatever the string holds, its quotes and backslashes do not
end it, and its end is found.

* `readEscape_hex`: a control character is read from its code;
* **`readString_escaped`**: a string is read from its text, whatever follows its closing quote.
-/

namespace ReceiptPrinting.Json

theorem ok_bind {ε α β : Type} (a : α) (f : α → Except ε β) : (Except.ok a >>= f) = f a := rfl

/-! ## 1. Escapes -/

/-- The characters of an escape that has been read are passed over. -/
theorem readStringFrom_skip (ds r : List Char) (n : Nat) :
    ∃ m, readStringFrom ds.length (ds ++ r) n = readStringFrom 0 r m := by
  induction ds generalizing n with
  | nil => exact ⟨n, rfl⟩
  | cons d ds ih => exact ih (n + d.utf8Size)

theorem hexValue?_hexDigit : ∀ k < 16, hexValue? (hexDigit k) = some k := by decide

/-- A control character is read from its code. -/
theorem readEscape_hex {c : Char} (hc : c.toNat < 0x20) (r : List Char) (n : Nat) :
    readEscape ('u' :: '0' :: '0' :: hexDigit (c.toNat / 16) :: hexDigit (c.toNat % 16) :: r) n =
      .ok (c, 5) := by
  have hquad : hexQuad ('0' :: '0' :: hexDigit (c.toNat / 16) :: hexDigit (c.toNat % 16) :: r)
      (n + 1) = .ok c.toNat := by
    have hhigh := hexValue?_hexDigit (c.toNat / 16) (by omega)
    have hlow := hexValue?_hexDigit (c.toNat % 16) (by omega)
    have hzero : hexValue? '0' = some 0 := rfl
    have hsum : ((0 * 16 + 0) * 16 + c.toNat / 16) * 16 + c.toNat % 16 = c.toNat := by omega
    simp only [hexQuad, List.take_succ_cons, List.take_zero, hzero, hhigh, hlow, hsum]
  have htrailing : isTrailing c.toNat = false := by
    simp only [isTrailing, Bool.and_eq_false_iff, decide_eq_false_iff_not]
    omega
  have hleading : isLeading c.toNat = false := by
    simp only [isLeading, Bool.and_eq_false_iff, decide_eq_false_iff_not]
    omega
  rw [readEscape, hquad, ok_bind, htrailing, hleading, Char.ofNat_toNat]
  rfl

/-- A character is written behind a backslash as a letter or a sign, or by its code, or it stands
    for itself. -/
theorem escapeChar_cases (c : Char) :
    (∃ d, escapeChar c = ['\\', d] ∧ ∀ r n, readEscape (d :: r) n = .ok (c, 1)) ∨
    (c.toNat < 0x20 ∧ escapeChar c =
      ['\\', 'u', '0', '0', hexDigit (c.toNat / 16), hexDigit (c.toNat % 16)]) ∨
    (c ≠ '"' ∧ c ≠ '\\' ∧ ¬ c.toNat < 0x20 ∧ escapeChar c = [c]) := by
  by_cases h : c ∈ ['"', '\\', '\n', '\r', '\t', '\x08', '\x0c']
  · left
    simp only [List.mem_cons, List.not_mem_nil, or_false] at h
    rcases h with rfl | rfl | rfl | rfl | rfl | rfl | rfl <;> exact ⟨_, rfl, fun _ _ => rfl⟩
  · simp only [List.mem_cons, List.not_mem_nil, or_false, not_or] at h
    obtain ⟨hquote, hback, hline, hreturn, htab, hbs, hff⟩ := h
    right
    rw [escapeChar, if_neg hquote, if_neg hback, if_neg hline, if_neg hreturn, if_neg htab,
      if_neg hbs, if_neg hff]
    by_cases hc : c.toNat < 0x20
    · exact .inl ⟨hc, if_pos hc⟩
    · exact .inr ⟨hquote, hback, hc, if_neg hc⟩

/-! ## 2. Strings -/

/-- An escape is read as one character, and reading goes on behind it. -/
theorem readStringFrom_escape {c : Char} (ds : List Char) {r xs rest : List Char}
    (hread : ∀ n, readEscape (ds ++ r) n = .ok (c, ds.length))
    (hr : ∀ n, ∃ m, readStringFrom 0 r n = .ok (xs, ⟨rest, m⟩)) (n : Nat) :
    ∃ m, readStringFrom 0 ('\\' :: (ds ++ r)) n = .ok (c :: xs, ⟨rest, m⟩) := by
  obtain ⟨k, hk⟩ := readStringFrom_skip ds r (n + 1)
  obtain ⟨m, hm⟩ := hr k
  have hne : ('\\' : Char) ≠ '"' := by decide
  refine ⟨m, ?_⟩
  simp only [readStringFrom, if_neg hne, if_true, hread, ok_bind, hk, hm]
  rfl

/-- A character is read from its spelling, and reading goes on behind it. -/
theorem readStringFrom_escapeChar (c : Char) {r xs rest : List Char}
    (hr : ∀ n, ∃ m, readStringFrom 0 r n = .ok (xs, ⟨rest, m⟩)) (n : Nat) :
    ∃ m, readStringFrom 0 (escapeChar c ++ r) n = .ok (c :: xs, ⟨rest, m⟩) := by
  rcases escapeChar_cases c with ⟨d, hd, hread⟩ | ⟨hc, hd⟩ | ⟨hquote, hback, hc, hd⟩ <;> rw [hd]
  · exact readStringFrom_escape [d] (hread r) hr n
  · exact readStringFrom_escape ['u', '0', '0', _, _] (readEscape_hex hc r) hr n
  · obtain ⟨m, hm⟩ := hr (n + c.utf8Size)
    refine ⟨m, ?_⟩
    simp only [List.singleton_append, readStringFrom, if_neg hquote, if_neg hback, if_neg hc, hm,
      ok_bind]
    rfl

/-- **A string is read from its text**, whatever follows its closing quote. -/
theorem readString_escaped (s : String) (rest : List Char) (n : Nat) :
    ∃ m, readString ⟨s.toList.flatMap escapeChar ++ '"' :: rest, n⟩ = .ok (s, ⟨rest, m⟩) := by
  have hchars (cs : List Char) : ∀ n, ∃ m,
      readStringFrom 0 (cs.flatMap escapeChar ++ '"' :: rest) n = .ok (cs, ⟨rest, m⟩) := by
    induction cs with
    | nil => exact fun n => ⟨n + 1, rfl⟩
    | cons c cs ih =>
      intro n
      rw [List.flatMap_cons, List.append_assoc]
      exact readStringFrom_escapeChar c ih n
  obtain ⟨m, hm⟩ := hchars s.toList n
  refine ⟨m, ?_⟩
  simp only [readString, hm, ok_bind, String.ofList_toList]
  rfl

end ReceiptPrinting.Json
