import ReceiptPrinting.Proofs.Address

/-!
# Addresses are read as they are written

An address is written `host:port` or `[host]:port`, with the port or without it, and blanks may
stand around the whole, around the host and around the port. The host is what is written for it,
trimmed; the port is the number that is written, if it is one of 16 bits, and the standard port
otherwise. A text of no such form is divided all the same, and it is an address exactly if what is
taken for its host is not blank.

* `Divided`: how any text is divided into host and port; `divided_iff`: there is one way;
* `PortOf`: the port that is read;
* `Form`: the written forms;
* **`read_as_written`**: every form is read so, and so is every text by its division.
-/

namespace ReceiptPrinting.Address

open Text (Blank Spaced isBlank trim trimStart trimEnd)

/-! ## 1. Division into host and port -/

/-- A bracket opens the text, and another closes in it. -/
def InBrackets (cs : List Char) : Prop := cs.head? = some '[' ∧ ']' ∈ cs

/-- How a text without blank ends is divided. A host in brackets ends at the first closing bracket,
    and a port stands directly behind it, with a colon before it. Without brackets the last colon
    divides host and port. -/
inductive Divided : List Char → List Char → Option (List Char) → Prop where
  | bracketed {host port : List Char} (closed : ']' ∉ host) :
    Divided ('[' :: (host ++ ']' :: ':' :: port)) host (some port)
  | bracketedAlone {host rest : List Char} (closed : ']' ∉ host) (bare : rest.head? ≠ some ':') :
    Divided ('[' :: (host ++ ']' :: rest)) host none
  | plain {host port : List Char} (unbracketed : ¬ InBrackets (host ++ ':' :: port))
    (last : ':' ∉ port) : Divided (host ++ ':' :: port) host (some port)
  | alone {host : List Char} (unbracketed : ¬ InBrackets host) (bare : ':' ∉ host) :
    Divided host host none

section

variable {cs host : List Char} {port : Option (List Char)}

theorem bracketed_eq_none (h : ¬ InBrackets cs) : bracketed cs = none := by
  unfold bracketed
  split
  · rename_i r
    have hr : ']' ∉ r := fun hmem => h ⟨rfl, List.mem_cons_of_mem _ hmem⟩
    rw [splitFirst_eq_none_iff.mpr hr, Option.map_none]
  · rfl

theorem splitLast_eq_none {x : Char} (h : x ∉ cs) : splitLast x cs = none := by
  have hreverse : x ∉ cs.reverse := by rwa [List.mem_reverse]
  rw [splitLast, splitFirst_eq_none_iff.mpr hreverse, Option.map_none]

theorem behindColon_eq_none (h : cs.head? ≠ some ':') : behindColon cs = none := by
  unfold behindColon
  split
  · exact absurd rfl h
  · rfl

theorem parts_of_divided (h : Divided cs host port) : parts cs = (host, port) := by
  cases h with
  | bracketed closed =>
    rw [parts, bracketed, splitFirst_append closed]
    rfl
  | @bracketedAlone host rest closed bare =>
    rw [parts, bracketed, splitFirst_append closed]
    show (host, behindColon rest) = (host, none)
    rw [behindColon_eq_none bare]
  | plain unbracketed last =>
    rw [parts, bracketed_eq_none unbracketed, splitLast_append last]
  | alone unbracketed bare =>
    rw [parts, bracketed_eq_none unbracketed, splitLast_eq_none bare]

/-- Every text is divided in some way. -/
theorem exists_divided (cs : List Char) : ∃ host port, Divided cs host port := by
  by_cases hbrackets : InBrackets cs
  · obtain ⟨hopen, hclose⟩ := hbrackets
    obtain ⟨r, rfl⟩ := List.head?_eq_some_iff.mp hopen
    have hr : ']' ∈ r := by simpa using hclose
    obtain ⟨host, rest, rfl, hhost⟩ := List.eq_append_cons_of_mem hr
    by_cases hcolon : rest.head? = some ':'
    · obtain ⟨port, rfl⟩ := List.head?_eq_some_iff.mp hcolon
      exact ⟨host, some port, .bracketed hhost⟩
    · exact ⟨host, none, .bracketedAlone hhost hcolon⟩
  · by_cases hcolon : ':' ∈ cs
    · -- the last colon is the first one from the end
      have hreverse : ':' ∈ cs.reverse := List.mem_reverse.mpr hcolon
      obtain ⟨behind, before, hsplit, hbehind⟩ := List.eq_append_cons_of_mem hreverse
      have hcs : cs = before.reverse ++ ':' :: behind.reverse := by
        rw [← List.reverse_reverse cs, hsplit]
        simp
      subst hcs
      exact ⟨_, _, .plain hbrackets (by rwa [List.mem_reverse])⟩
    · exact ⟨cs, none, .alone hbrackets hcolon⟩

/-- **A text is divided in one way**, and that is how it is read. -/
theorem divided_iff : Divided cs host port ↔ parts cs = (host, port) := by
  refine ⟨parts_of_divided, fun h => ?_⟩
  obtain ⟨host', port', hdivided⟩ := exists_divided cs
  obtain ⟨rfl, rfl⟩ := Prod.mk.inj (h.symm.trans (parts_of_divided hdivided))
  exact hdivided

end

/-! ## 2. Ports -/

/-- The port that is read. What stands for it is, trimmed, a number of 16 bits; if nothing stands
    there, or anything else, it is the standard port. -/
inductive PortOf : Option String → UInt16 → Prop where
  | missing : PortOf none 9100
  | given {p : String} {n : Nat} (small : n ≤ 65535) (number : Natural.Written (trim p).toList n) :
    PortOf (some p) (UInt16.ofNat n)
  | unread {p : String} (fails : ∀ n ≤ 65535, ¬ Natural.Written (trim p).toList n) :
    PortOf (some p) 9100

/-- The port depends on what is left of its text. -/
theorem portOf_iff {port : Option String} {n : UInt16} :
    PortOf port n ↔
      n = ((port.map trim).bind fun p => Natural.read16? p.toList).getD standardPort := by
  constructor
  · intro h
    cases h with
    | missing => rfl
    | @given p m small number =>
      have hm : (UInt16.ofNat m).toNat = m :=
        UInt16.toNat_ofNat_of_lt' (Nat.lt_succ_of_le small)
      have hread : Natural.read16? (trim p).toList = some (UInt16.ofNat m) :=
        Natural.read16?_eq_some_iff.mpr (by rwa [hm])
      rw [Option.map_some, Option.bind_some, hread, Option.getD_some]
    | @unread p fails =>
      have hread : Natural.read16? (trim p).toList = none := by
        rw [Option.eq_none_iff_forall_not_mem]
        intro w hw
        exact fails w.toNat (Nat.le_of_lt_succ w.toNat_lt) (Natural.read16?_eq_some_iff.mp hw)
      rw [Option.map_some, Option.bind_some, hread]
      rfl
  · intro h
    rw [h]
    cases port with
    | none => exact .missing
    | some p =>
      rw [Option.map_some, Option.bind_some]
      cases hread : Natural.read16? (trim p).toList with
      | none =>
        refine .unread fun m small number => ?_
        have hm : (UInt16.ofNat m).toNat = m :=
          UInt16.toNat_ofNat_of_lt' (Nat.lt_succ_of_le small)
        rw [← hm] at number
        rw [Natural.read16?_eq_some_iff.mpr number] at hread
        cases hread
      | some w =>
        have hgiven := PortOf.given (Nat.le_of_lt_succ w.toNat_lt)
          (Natural.read16?_eq_some_iff.mp hread)
        rwa [UInt16.ofNat_toNat] at hgiven

/-! ## 3. Reading -/

/-- **How a text is read** whose host and port are written so. It is no address exactly if the host
    is blank, whatever the port is. Otherwise the address has the host, trimmed, and the one port
    that is read. -/
structure Read (s host : String) (port : Option String) : Prop where
  fails : (∃ b, ofText s = .error b) ↔ Blank host
  found : ¬ Blank host →
    ∃ n, ofText s = .ok ⟨trim host, n⟩ ∧ ∀ m, PortOf port m ↔ m = n

theorem make_eq_error_iff {host : String} {n : UInt16} :
    (∃ b, make host n = .error b) ↔ Blank host := by
  rw [make, ← Text.trim_isEmpty, Text.printable]
  cases (trim host).isEmpty with
  | true => exact iff_of_true ⟨_, rfl⟩ rfl
  | false =>
    refine iff_of_false (fun h => ?_) Bool.false_ne_true
    obtain ⟨_, h⟩ := h
    cases h

/-- Blanks around host and port make no difference. -/
theorem read_of_divided {s host : String} {port : Option String} {cs : List Char}
    {ds : Option (List Char)} (h : Divided (trim s).toList cs ds)
    (hhost : trim (String.ofList cs) = trim host)
    (hport : ds.map (fun d => trim (String.ofList d)) = port.map trim) : Read s host port := by
  have hblank : Blank (String.ofList cs) ↔ Blank host := by
    rw [← Text.toList_trim_eq_nil, hhost, Text.toList_trim_eq_nil]
  have hport? : ds.bind port? = (port.map trim).bind fun p => Natural.read16? p.toList := by
    rw [← hport]
    cases ds with
    | none => rfl
    | some d =>
      rw [Option.map_some, Option.bind_some, Option.bind_some, port?, trim, String.toList_ofList,
        String.toList_ofList]
  have hread : ofText s = make (String.ofList cs)
      (((port.map trim).bind fun p => Natural.read16? p.toList).getD standardPort) := by
    rw [ofText_eq, parts_of_divided h, hport?]
  constructor
  case fails => rw [hread, make_eq_error_iff, hblank]
  case found =>
    intro hne
    refine ⟨_, ?_, fun m => portOf_iff⟩
    rw [hread]
    exact make_eq_ok_iff.mpr ⟨mt hblank.mp hne, hhost.symm, rfl⟩

/-! ## 4. The written forms -/

/-- The forms of an address, and the host and the port that are written. Blanks may stand around
    each of the two and around the whole. -/
inductive Form : String → String → Option String → Prop where
  | plain {s h h' p p' : String} (host : Spaced h h') (port : Spaced p p')
    (whole : Spaced (h' ++ ":" ++ p') s) (unbracketed : (trim h).toList.head? ≠ some '[')
    (portBare : ':' ∉ p.toList) : Form s h (some p)
  | alone {s h : String} (host : Spaced h s) (hostBare : ':' ∉ h.toList)
    (unbracketed : (trim h).toList.head? ≠ some '[') : Form s h none
  | bracketed {s h h' p p' : String} (host : Spaced h h') (port : Spaced p p')
    (whole : Spaced ("[" ++ h' ++ "]:" ++ p') s) (closed : ']' ∉ h.toList) : Form s h (some p)
  | bracketedAlone {s h h' : String} (host : Spaced h h') (whole : Spaced ("[" ++ h' ++ "]") s)
    (closed : ']' ∉ h.toList) : Form s h none

theorem trim_trimStart (s : String) : trim (String.ofList (trimStart s.toList)) = trim s :=
  (Text.spaced_trimStart s).trim_eq.symm

theorem trim_trimEnd (s : String) : trim (String.ofList (trimEnd s.toList)) = trim s :=
  (Text.spaced_trimEnd s).trim_eq.symm

section

variable {s h h' p p' : String}

/-- Trimming takes the blanks before the host and behind the port. -/
theorem divided_plain (host : Spaced h h') (port : Spaced p p')
    (whole : Spaced (h' ++ ":" ++ p') s) (unbracketed : (trim h).toList.head? ≠ some '[')
    (portBare : ':' ∉ p.toList) :
    Divided (trim s).toList (trimStart h'.toList) (some (trimEnd p'.toList)) := by
  have hwhole : (trim s).toList = trimStart h'.toList ++ ':' :: trimEnd p'.toList := by
    rw [whole.trim_eq, trim, String.toList_ofList, String.toList_append, String.toList_append,
      List.append_assoc]
    exact Text.trimEnd_trimStart_append_cons rfl _ _
  have hlast : ':' ∉ trimEnd p'.toList := fun hmem =>
    port.notMem rfl portBare ((Text.trimEnd_isPrefix _).subset hmem)
  rw [hwhole]
  refine .plain (fun hin => ?_) hlast
  have hopen := hin.1
  rw [← host.trim_eq, Text.head?_trim] at unbracketed
  cases hstart : trimStart h'.toList with
  | nil =>
    rw [hstart] at hopen
    cases hopen
  | cons c r =>
    rw [hstart] at hopen unbracketed
    exact unbracketed hopen

theorem divided_alone (host : Spaced h s) (hostBare : ':' ∉ h.toList)
    (unbracketed : (trim h).toList.head? ≠ some '[') :
    Divided (trim s).toList (trim s).toList none := by
  rw [← host.trim_eq] at unbracketed
  refine .alone (fun hin => unbracketed hin.1) fun hmem => ?_
  exact host.notMem rfl hostBare (Text.mem_of_mem_trim hmem)

theorem divided_bracketed (host : Spaced h h') (whole : Spaced ("[" ++ h' ++ "]:" ++ p') s)
    (closed : ']' ∉ h.toList) :
    Divided (trim s).toList h'.toList (some (trimEnd p'.toList)) := by
  have htext : ("[" ++ h' ++ "]:" ++ p').toList =
      ('[' :: h'.toList ++ [']']) ++ ':' :: p'.toList := by simp
  have hstart : trimStart ('[' :: h'.toList ++ [']']) = '[' :: h'.toList ++ [']'] := rfl
  have hwhole : (trim s).toList = '[' :: (h'.toList ++ ']' :: ':' :: trimEnd p'.toList) := by
    rw [whole.trim_eq, trim, String.toList_ofList, htext,
      Text.trimEnd_trimStart_append_cons rfl, hstart]
    simp
  rw [hwhole]
  exact .bracketed (host.notMem rfl closed)

theorem divided_bracketedAlone (host : Spaced h h') (whole : Spaced ("[" ++ h' ++ "]") s)
    (closed : ']' ∉ h.toList) : Divided (trim s).toList h'.toList none := by
  have htext : ("[" ++ h' ++ "]").toList = ('[' :: h'.toList) ++ ']' :: [] := by simp
  have hstart : trimStart ('[' :: h'.toList) = '[' :: h'.toList := rfl
  have hwhole : (trim s).toList = '[' :: (h'.toList ++ ']' :: []) := by
    rw [whole.trim_eq, trim, String.toList_ofList, htext,
      Text.trimEnd_trimStart_append_cons rfl, hstart]
    rfl
  rw [hwhole]
  exact .bracketedAlone (host.notMem rfl closed) (by simp)

end

/-- **Every form is read as the host and the port that are written.** -/
theorem Form.read {s host : String} {port : Option String} (h : Form s host port) :
    Read s host port := by
  cases h with
  | @plain h' p p' hspaced pspaced whole unbracketed portBare =>
    refine read_of_divided (divided_plain hspaced pspaced whole unbracketed portBare) ?_ ?_
    · rw [trim_trimStart, hspaced.trim_eq]
    · rw [Option.map_some, Option.map_some, trim_trimEnd, pspaced.trim_eq]
  | alone hspaced hostBare unbracketed =>
    refine read_of_divided (divided_alone hspaced hostBare unbracketed) ?_ rfl
    rw [Text.trim_ofList (Text.trimmed_trim s), String.ofList_toList, hspaced.trim_eq]
  | @bracketed h' p p' hspaced pspaced whole closed =>
    refine read_of_divided (divided_bracketed hspaced whole closed) ?_ ?_
    · rw [String.ofList_toList, hspaced.trim_eq]
    · rw [Option.map_some, Option.map_some, trim_trimEnd, pspaced.trim_eq]
  | @bracketedAlone h' hspaced whole closed =>
    refine read_of_divided (divided_bracketedAlone hspaced whole closed) ?_ rfl
    rw [String.ofList_toList, hspaced.trim_eq]

/-- **Addresses are read as they are written.** A text of one of the forms has the host and the port
    that are written in it. Every text whatsoever is divided in one way, and it is no address
    exactly if what is taken for the host is blank; the port never makes it fail. -/
theorem read_as_written :
    (∀ s host port, Form s host port → Read s host port) ∧
    ∀ s : String, ∃ cs ds, (∀ cs' ds', Divided (trim s).toList cs' ds' ↔ cs' = cs ∧ ds' = ds) ∧
      Read s (String.ofList cs) (ds.map String.ofList) := by
  refine ⟨fun _ _ _ => Form.read, fun s => ?_⟩
  obtain ⟨cs, ds, hdivided⟩ := exists_divided (trim s).toList
  refine ⟨cs, ds, fun cs' ds' => ?_, read_of_divided hdivided rfl ?_⟩
  · rw [divided_iff, parts_of_divided hdivided, Prod.mk.injEq, eq_comm, @eq_comm _ ds]
  · rw [Option.map_map]
    rfl

/-- A host in brackets with blanks wherever they may stand, and a port with a plus sign. -/
theorem read_as_written_spacedBrackets :
    Form " [ fe80::1 ]: +09101 " "fe80::1" (some "+09101") ∧
    Read " [ fe80::1 ]: +09101 " "fe80::1" (some "+09101") ∧
    ofText " [ fe80::1 ]: +09101 " = .ok ⟨"fe80::1", 9101⟩ := by
  have hblank : Blank " " := by decide
  have hhost : Spaced "fe80::1" " fe80::1 " := ⟨" ", " ", hblank, hblank, by decide⟩
  have hport : Spaced "+09101" " +09101" := ⟨" ", "", hblank, by decide, by decide⟩
  have hwhole : Spaced ("[" ++ " fe80::1 " ++ "]:" ++ " +09101") " [ fe80::1 ]: +09101 " :=
    ⟨" ", " ", hblank, hblank, by decide⟩
  have hform : Form " [ fe80::1 ]: +09101 " "fe80::1" (some "+09101") :=
    .bracketed hhost hport hwhole (by decide)
  exact ⟨hform, read_as_written.1 _ _ _ hform, by decide +kernel⟩

end ReceiptPrinting.Address
