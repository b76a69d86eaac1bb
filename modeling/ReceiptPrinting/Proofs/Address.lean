import ReceiptPrinting.Proofs.Delivery
import ReceiptPrinting.Proofs.Number.Digits
import ReceiptPrinting.Proofs.Text.Trim

/-!
# A printer found by name is found again by its text

The text of a printer is what the client is told, and a client may send it back as the name of a
printer. A queue is found again by its name. An address is found again by its text, host and port,
unless its host has a colon and a closing bracket in it: the colon puts the host in brackets, and
the bracket within ends it too early.

* `splitFirst_append`, `splitLast_append`: where a text is divided;
* `Host`, `host_of_ofText`: the hosts that addresses are read with;
* `parts_text`, `parts_text_cut`: how the text of an address is divided again;
* `ofText_text_iff`: the addresses that are read back from their text;
* **`resolve_text_iff`**: the printers that are found again.
-/

namespace ReceiptPrinting

namespace Address

/-! ## 1. Division at a character -/

section

variable {x : Char} {cs before behind : List Char}

theorem bne_of_notMem (h : x ∉ cs) : ∀ c ∈ cs, (c != x) = true := by
  intro c hc
  rw [bne_iff_ne]
  rintro rfl
  exact h hc

theorem splitFirst_append (h : x ∉ before) :
    splitFirst x (before ++ x :: behind) = some (before, behind) := by
  have hall := bne_of_notMem h
  have hdrop : (x :: behind).dropWhile (· != x) = x :: behind :=
    List.dropWhile_cons_of_neg (by simp)
  have htake : (x :: behind).takeWhile (· != x) = [] := List.takeWhile_cons_of_neg (by simp)
  rw [splitFirst, List.dropWhile_append_of_pos hall, List.takeWhile_append_of_pos hall, hdrop,
    htake, List.append_nil]

/-- A text is divided at the first `x`, if there is one. -/
theorem splitFirst_eq_some_iff :
    splitFirst x cs = some (before, behind) ↔ x ∉ before ∧ cs = before ++ x :: behind := by
  constructor
  · intro h
    by_cases hx : x ∈ cs
    · obtain ⟨a, b, rfl, ha⟩ := List.eq_append_cons_of_mem hx
      rw [splitFirst_append ha] at h
      cases h
      exact ⟨ha, rfl⟩
    · rw [splitFirst, List.dropWhile_eq_nil_iff.mpr (bne_of_notMem hx)] at h
      cases h
  · rintro ⟨hx, rfl⟩
    exact splitFirst_append hx

theorem splitFirst_eq_none_iff : splitFirst x cs = none ↔ x ∉ cs := by
  constructor
  · intro h hx
    obtain ⟨a, b, rfl, ha⟩ := List.eq_append_cons_of_mem hx
    rw [splitFirst_append ha] at h
    cases h
  · intro hx
    cases hs : splitFirst x cs with
    | none => rfl
    | some p =>
      obtain ⟨-, rfl⟩ := splitFirst_eq_some_iff.mp hs
      simp at hx

theorem splitLast_append (h : x ∉ behind) :
    splitLast x (before ++ x :: behind) = some (before, behind) := by
  have hreverse : (before ++ x :: behind).reverse = behind.reverse ++ x :: before.reverse := by
    simp
  rw [splitLast, hreverse, splitFirst_append (by simpa using h)]
  simp

/-- What stands before the last `x` is how the text starts. -/
theorem prefix_of_splitLast (h : splitLast x cs = some (before, behind)) : before <+: cs := by
  obtain ⟨⟨b, a⟩, hsplit, hparts⟩ := Option.map_eq_some_iff.mp h
  obtain ⟨-, hcs⟩ := splitFirst_eq_some_iff.mp hsplit
  cases hparts
  refine ⟨x :: b.reverse, ?_⟩
  rw [← List.reverse_reverse cs, hcs]
  simp

end

/-! ## 2. Hosts -/

/-- A host of an address that has been read: not blank, without blank ends, and if a bracket opens
    it, none closes in it. -/
structure Host (cs : List Char) : Prop where
  trimmed : Text.Trimmed cs
  ne_nil : cs ≠ []
  unclosed : cs.head? = some '[' → ']' ∉ cs

theorem make_eq_ok_iff {host : String} {port : UInt16} {a : Address} :
    make host port = .ok a ↔
      ¬ Text.Blank host ∧ a.host = Text.trim host ∧ a.port = port := by
  rw [make]
  obtain ⟨h, p⟩ := a
  cases hprint : Text.printable host with
  | none =>
    have hblank : ¬ (Text.printable host).isSome = true := by simp [hprint]
    rw [Text.printable_isSome_iff] at hblank
    simp [hblank]
  | some t =>
    obtain ⟨hblank, rfl⟩ := Text.printable_eq_some_iff.mp hprint
    simp [hblank, eq_comm]

theorem ofText_eq (s : String) :
    ofText s = make (String.ofList (parts (Text.trim s).toList).1)
      (((parts (Text.trim s).toList).2.bind port?).getD standardPort) := by
  unfold ofText
  generalize parts (Text.trim s).toList = p
  rfl

/-- Without a host in brackets, either no bracket opens the text or none closes in it. -/
theorem not_mem_of_bracketed {cs : List Char} (h : bracketed cs = none)
    (hopen : cs.head? = some '[') : ']' ∉ cs := by
  obtain ⟨r, rfl⟩ := List.head?_eq_some_iff.mp hopen
  have hr : ']' ∉ r := splitFirst_eq_none_iff.mp (Option.map_eq_none_iff.mp h)
  simpa using hr

/-- The host either comes out of brackets or is how the text starts. -/
theorem parts_host (cs : List Char) :
    ']' ∉ (parts cs).1 ∨ bracketed cs = none ∧ (parts cs).1 <+: cs := by
  unfold parts
  split
  case h_1 p hp =>
    left
    unfold bracketed at hp
    split at hp
    · obtain ⟨⟨host, rest⟩, hsplit, rfl⟩ := Option.map_eq_some_iff.mp hp
      exact (splitFirst_eq_some_iff.mp hsplit).1
    · cases hp
  case h_2 hnone =>
    right
    refine ⟨hnone, ?_⟩
    split
    case h_1 hlast => exact prefix_of_splitLast hlast
    case h_2 => exact List.prefix_rfl

/-- How a text starts, trimmed, is how the trimmed text starts. -/
theorem trim_isPrefix {cs host : List Char} (hcs : Text.Trimmed cs) (h : host <+: cs) :
    (Text.trim (String.ofList host)).toList <+: cs := by
  cases host with
  | nil => exact List.nil_prefix
  | cons c r =>
    obtain ⟨rest, rfl⟩ := h
    have hc : Text.isBlank c = false := hcs.first c rfl
    have hstart : Text.trimStart (c :: r) = c :: r :=
      List.dropWhile_cons_of_neg (by rw [hc]; exact Bool.false_ne_true)
    rw [Text.trim, String.toList_ofList, String.toList_ofList, hstart]
    exact (Text.trimEnd_isPrefix _).trans (List.prefix_append _ _)

/-- **An address is read with a host.** -/
theorem host_of_ofText {s : String} {a : Address} (h : ofText s = .ok a) : Host a.host.toList := by
  rw [ofText_eq] at h
  obtain ⟨hblank, hhost, -⟩ := make_eq_ok_iff.mp h
  rw [hhost]
  have hcs := Text.trimmed_trim s
  refine ⟨Text.trimmed_trim _, ?_, ?_⟩
  · exact fun hnil => hblank ((Text.toList_trim_eq_nil _).mp hnil)
  · intro hopen hclose
    rcases parts_host (Text.trim s).toList with hno | ⟨hnone, hstart⟩
    · have hmem := Text.mem_of_mem_trim hclose
      rw [String.toList_ofList] at hmem
      exact hno hmem
    · obtain ⟨rest, hrest⟩ := trim_isPrefix hcs hstart
      have hhead : (Text.trim s).toList.head? = some '[' := by
        rw [← hrest, List.head?_append, hopen, Option.some_or]
      refine not_mem_of_bracketed hnone hhead ?_
      rw [← hrest]
      exact List.mem_append_left _ hclose

/-! ## 3. Texts of addresses -/

section

variable {a : Address}

/-- The digits of the port. -/
def portDigits (a : Address) : List Char := Nat.toDigits 10 a.port.toNat

theorem isDigit_portDigits : ∀ c ∈ a.portDigits, c.isDigit = true := Natural.isDigit_toDigits _

theorem portDigits_ne_nil : a.portDigits ≠ [] := by simp [portDigits]

theorem not_mem_portDigits {x : Char} (hx : x.isDigit = false) : x ∉ a.portDigits := by
  intro h
  rw [isDigit_portDigits x h] at hx
  cases hx

theorem text_of_colon (h : ':' ∈ a.host.toList) :
    a.text.toList = '[' :: (a.host.toList ++ ']' :: ':' :: a.portDigits) := by
  have hport : (toString a.port.toNat).toList = a.portDigits := Nat.toList_repr
  rw [text, if_pos h, String.toList_append, String.toList_append, String.toList_append, hport]
  simp

theorem text_of_no_colon (h : ':' ∉ a.host.toList) :
    a.text.toList = a.host.toList ++ ':' :: a.portDigits := by
  have hport : (toString a.port.toNat).toList = a.portDigits := Nat.toList_repr
  rw [text, if_neg h, String.toList_append, String.toList_append, hport]
  simp

theorem colon_mem_text (a : Address) : ':' ∈ a.text.toList := by
  by_cases h : ':' ∈ a.host.toList
  · simp [text_of_colon h]
  · simp [text_of_no_colon h]

theorem trimmed_text (h : Host a.host.toList) : Text.Trimmed a.text.toList := by
  obtain ⟨c, r, hc⟩ := List.exists_cons_of_ne_nil h.ne_nil
  have hlast (cs : List Char) : ∀ c ∈ (cs ++ a.portDigits).getLast?, Text.isBlank c = false := by
    intro c hc
    rw [List.getLast?_append_of_ne_nil _ portDigits_ne_nil] at hc
    exact Natural.isBlank_of_isDigit (isDigit_portDigits c (List.mem_of_getLast? hc))
  by_cases hcolon : ':' ∈ a.host.toList
  · rw [text_of_colon hcolon]
    constructor
    · rintro c ⟨⟩
      rfl
    · have hsplit : '[' :: (a.host.toList ++ ']' :: ':' :: a.portDigits) =
          ('[' :: a.host.toList ++ [']', ':']) ++ a.portDigits := by simp
      rw [hsplit]
      exact hlast _
  · rw [text_of_no_colon hcolon]
    constructor
    · have hfirst := h.trimmed.first
      rw [hc] at hfirst ⊢
      exact hfirst
    · have hsplit : a.host.toList ++ ':' :: a.portDigits =
          (a.host.toList ++ [':']) ++ a.portDigits := by simp
      rw [hsplit]
      exact hlast _

/-- **The text of an address is divided into its host and its port**, unless the host has a colon
    and a closing bracket. -/
theorem parts_text (h : Host a.host.toList)
    (hclear : ¬ (':' ∈ a.host.toList ∧ ']' ∈ a.host.toList)) :
    parts a.text.toList = (a.host.toList, some a.portDigits) := by
  by_cases hcolon : ':' ∈ a.host.toList
  · have hclose : ']' ∉ a.host.toList := fun hc => hclear ⟨hcolon, hc⟩
    rw [text_of_colon hcolon, parts, bracketed, splitFirst_append hclose]
    rfl
  · have hport : ':' ∉ a.portDigits := not_mem_portDigits rfl
    have hnone : bracketed (a.host.toList ++ ':' :: a.portDigits) = none := by
      unfold bracketed
      split
      case h_1 r hr =>
        -- a bracket opens the host, so none closes in it, and none in the port
        obtain ⟨c, host, hhost⟩ := List.exists_cons_of_ne_nil h.ne_nil
        rw [hhost, List.cons_append, List.cons.injEq] at hr
        obtain ⟨rfl, rfl⟩ := hr
        have hclose : ']' ∉ '[' :: host := hhost ▸ h.unclosed (by rw [hhost]; rfl)
        have hdigits : ']' ∉ a.portDigits := not_mem_portDigits rfl
        rw [Option.map_eq_none_iff, splitFirst_eq_none_iff]
        simp only [List.mem_append, List.mem_cons, not_or] at hclose ⊢
        exact ⟨hclose.2, by decide, hdigits⟩
      case h_2 => rfl
    rw [text_of_no_colon hcolon, parts, hnone, splitLast_append hport]

/-- With a colon and a closing bracket in it the host is cut at that bracket. -/
theorem parts_text_cut (hcolon : ':' ∈ a.host.toList) (hclose : ']' ∈ a.host.toList) :
    ']' ∉ (parts a.text.toList).1 := by
  obtain ⟨before, behind, hhost, hbefore⟩ := List.eq_append_cons_of_mem hclose
  have htext : a.text.toList =
      '[' :: (before ++ ']' :: (behind ++ ']' :: ':' :: a.portDigits)) := by
    rw [text_of_colon hcolon, hhost]
    simp
  rw [htext, parts, bracketed, splitFirst_append hbefore]
  exact hbefore

theorem port?_portDigits : port? a.portDigits = some a.port := by
  have htrimmed : Text.Trimmed a.portDigits :=
    ⟨fun c hc => Natural.isBlank_of_isDigit (isDigit_portDigits c (List.mem_of_mem_head? hc)),
      fun c hc => Natural.isBlank_of_isDigit (isDigit_portDigits c (List.mem_of_getLast? hc))⟩
  rw [port?, htrimmed.trimStart, htrimmed.trimEnd]
  exact Natural.read16?_toDigits a.port

/-- **The addresses that are read back from their text.** -/
theorem Host.ofText_text_iff (h : Host a.host.toList) :
    ofText a.text = .ok a ↔ ¬ (':' ∈ a.host.toList ∧ ']' ∈ a.host.toList) := by
  have htrim : Text.trim a.text = a.text := by
    have htext := Text.trim_ofList (trimmed_text h)
    rwa [String.ofList_toList] at htext
  rw [ofText_eq, htrim, make_eq_ok_iff]
  constructor
  · rintro ⟨-, hhost, -⟩ ⟨hcolon, hclose⟩
    -- the host ends before its bracket, and trimming does not bring the bracket back
    have hcut := hclose
    rw [hhost] at hcut
    have hmem := Text.mem_of_mem_trim hcut
    rw [String.toList_ofList] at hmem
    exact parts_text_cut hcolon hclose hmem
  · intro hclear
    have hhost : Text.trim a.host = a.host := by
      have hofList := Text.trim_ofList h.trimmed
      rwa [String.ofList_toList] at hofList
    have hblank : ¬ Text.Blank a.host := by
      rw [← Text.toList_trim_eq_nil, hhost]
      exact h.ne_nil
    rw [parts_text h hclear, String.ofList_toList, Option.bind_some, port?_portDigits,
      Option.getD_some, hhost]
    exact ⟨hblank, rfl, rfl⟩

end

end Address

/-! ## 4. Printers -/

/-- The host of an address has a colon and a closing bracket in it. -/
def Target.Misread (t : Target) : Prop :=
  ∃ a, t = .network a ∧ ':' ∈ a.host.toList ∧ ']' ∈ a.host.toList

namespace Target

theorem ofName_queue {name : String} (h : ':' ∉ name.toList) : ofName name = .ok (.queue name) :=
  if_neg h

theorem ofName_eq_network_iff {name : String} {a : Address} :
    ofName name = .ok (.network a) ↔ ':' ∈ name.toList ∧ Address.ofText name = .ok a := by
  rw [ofName]
  by_cases h : ':' ∈ name.toList
  · cases Address.ofText name <;> simp [h]
  · simp [h]

theorem ofName_eq_queue_iff {name queue : String} :
    ofName name = .ok (.queue queue) ↔ ':' ∉ name.toList ∧ name = queue := by
  rw [ofName]
  by_cases h : ':' ∈ name.toList
  · cases Address.ofText name <;> simp [h]
  · simp [h]

end Target

/-- A name is all it takes; neither spooler nor network is asked. -/
theorem Outlets.resolve_some (o : Outlets) (name : String) :
    o.resolve (some name) = Target.ofName name := rfl

/-- **A printer found by name is found again by its text**: the same queue, or the same host and
    port, whichever spooler and network are asked. The only printers that are not are those on the
    network whose host has both a colon and a closing bracket. With or without a port, the same
    holds of every text that is read as an address. -/
theorem resolve_text_iff :
    (∀ (o o' : Outlets) (name : String) (t : Target), o.resolve (some name) = .ok t →
      (o'.resolve (some t.text) = .ok t ↔ ¬ t.Misread)) ∧
    ∀ (s : String) (a : Address), Address.ofText s = .ok a →
      (Address.ofText a.text = .ok a ↔ ¬ (':' ∈ a.host.toList ∧ ']' ∈ a.host.toList)) := by
  refine ⟨fun o o' name t hfound => ?_, fun s a h => (Address.host_of_ofText h).ofText_text_iff⟩
  rw [Outlets.resolve_some] at hfound ⊢
  cases t with
  | queue queue =>
    obtain ⟨hcolon, rfl⟩ := Target.ofName_eq_queue_iff.mp hfound
    have hagain : Target.ofName (Target.queue name).text = .ok (.queue name) :=
      Target.ofName_queue hcolon
    have hclear : ¬ (Target.queue name).Misread := by
      rintro ⟨a, ha, -⟩
      cases ha
    exact iff_of_true hagain hclear
  | network a =>
    obtain ⟨-, hread⟩ := Target.ofName_eq_network_iff.mp hfound
    have hagain : Target.ofName (Target.network a).text = .ok (.network a) ↔
        Address.ofText a.text = .ok a :=
      Target.ofName_eq_network_iff.trans (and_iff_right a.colon_mem_text)
    have hmisread : (Target.network a).Misread ↔ ':' ∈ a.host.toList ∧ ']' ∈ a.host.toList := by
      simp [Target.Misread]
    rw [hagain, hmisread]
    exact (Address.host_of_ofText hread).ofText_text_iff

/-- A host in brackets is found again; one with a colon and a closing bracket is not. -/
theorem resolve_text_iff_brackets :
    Outlets.resolve (.oneQueue "Bar") (some " [fe80::1] ") = .ok (.network ⟨"fe80::1", 9100⟩) ∧
    Outlets.resolve (.oneQueue "Bar") (some "[fe80::1]:9100") = .ok (.network ⟨"fe80::1", 9100⟩) ∧
    Outlets.resolve (.oneQueue "Bar") (some "a]b:c: 7") = .ok (.network ⟨"a]b:c", 7⟩) ∧
    Outlets.resolve (.oneQueue "Bar") (some "[a]b:c]:7") ≠ .ok (.network ⟨"a]b:c", 7⟩) := by
  have hplain : Outlets.resolve (.oneQueue "Bar") (some " [fe80::1] ") =
      .ok (.network ⟨"fe80::1", 9100⟩) := by decide +kernel
  have hodd : Outlets.resolve (.oneQueue "Bar") (some "a]b:c: 7") =
      .ok (.network ⟨"a]b:c", 7⟩) := by decide +kernel
  have hplainText : (Target.network ⟨"fe80::1", 9100⟩).text = "[fe80::1]:9100" := by decide +kernel
  have hoddText : (Target.network ⟨"a]b:c", 7⟩).text = "[a]b:c]:7" := by decide +kernel
  have hagain := resolve_text_iff.1 _ (.oneQueue "Bar") _ _ hplain
  have hlost := resolve_text_iff.1 _ (.oneQueue "Bar") _ _ hodd
  rw [hplainText] at hagain
  rw [hoddText] at hlost
  refine ⟨hplain, hagain.mpr ?_, hodd, fun h => hlost.mp h ⟨_, rfl, by decide, by decide⟩⟩
  rintro ⟨a, ha, -, hclose⟩
  cases ha
  exact absurd hclose (by decide)

end ReceiptPrinting
