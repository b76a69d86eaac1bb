import ReceiptPrinting.Proofs.Number.Digits
import ReceiptPrinting.Proofs.Text.Trim
import ReceiptPrinting.Settings

/-!
# Each setting comes from its own variable

There is a variable for each field of the settings. A field has the value that its variable spells;
it has its standard value if the variable is absent, if its bytes are no text, or if the text spells
no value, and no other variable has a say in it. So settings that are written into an environment
are read back from it.

* `Variable`, `Settings.get`: the variables, and the field that each is for;
* `Kind.Spells`: the texts that spell a value, which are those that are read
  (`Kind.read?_eq_some_iff_spells`);
* `Variable.Gives`: what becomes of a variable; `Kind.Writes`: how a value is written;
* **`settings_from_variables`**: every environment is read so, field by field, and settings that are
  written are read back.
-/

namespace ReceiptPrinting

open Text (Spaced trim)

/-! ## 1. Names of code pages -/

namespace CodePage

/-- The names in use for a page. -/
def names : CodePage → List String
  | western => ["wpc1252", "cp1252", "windows-1252"]
  | dosCyrillic => ["pc866", "cp866", "ibm866"]
  | central => ["wpc1250", "cp1250", "windows-1250"]
  | cyrillic => ["wpc1251", "cp1251", "windows-1251"]

/-- A page is known by its names alone. -/
theorem ofKeyword?_eq_some_iff_names {s : String} {p : CodePage} :
    ofKeyword? s = some p ↔ s ∈ p.names := by
  constructor
  · intro h
    unfold ofKeyword? at h
    split at h <;> cases h <;> decide
  · intro h
    cases p
    all_goals
      simp only [names, List.mem_cons, List.not_mem_nil, or_false] at h
      rcases h with rfl | rfl | rfl <;> rfl

theorem ofName?_eq_some_iff_names {s : String} {p : CodePage} :
    ofName? s = some p ↔ Text.lower (trim s) ∈ p.names := ofKeyword?_eq_some_iff_names

/-- The page's name is one of them, and trimming and small letters leave it as it is. -/
theorem lower_name_mem_names (p : CodePage) :
    Text.Trimmed p.name.toList ∧ Text.lower p.name ∈ p.names := by
  cases p
  all_goals
    refine ⟨⟨?first, ?last⟩, by decide⟩
    case first | last =>
      intro c hc
      cases hc
      rfl

end CodePage

/-! ## 2. Variables and fields -/

/-- What a variable is for. -/
inductive Kind where
  | text
  | word16
  | word64
  | page
  | optionalText

/-- The values of a kind. -/
def Kind.Value : Kind → Type
  | text => String
  | word16 => UInt16
  | word64 => UInt64
  | page => CodePage
  | optionalText => Option String

/-- The variables that settings come from. -/
inductive Variable where
  | bindHost
  | port
  | paperWidth
  | page
  | apiBaseUrl
  | brand
  | subtitle
  | footer
  | currency
  | networkTimeout
  | shutdownTimeout
  | logLevel
  | logDir

namespace Variable

/-- The name of a variable. -/
def name : Variable → String
  | bindHost => "PRINT_AGENT_BIND"
  | port => "PRINT_AGENT_PORT"
  | paperWidth => "PAPER_WIDTH"
  | page => "CODE_PAGE"
  | apiBaseUrl => "API_BASE_URL"
  | brand => "RECEIPT_BRAND"
  | subtitle => "RECEIPT_SUBTITLE"
  | footer => "RECEIPT_FOOTER"
  | currency => "CURRENCY"
  | networkTimeout => "NETWORK_TIMEOUT_MS"
  | shutdownTimeout => "SHUTDOWN_TIMEOUT_MS"
  | logLevel => "LOG_LEVEL"
  | logDir => "LOG_DIR"

/-- The kind of a variable. -/
def kind : Variable → Kind
  | bindHost | apiBaseUrl | brand | subtitle | footer | currency | logLevel => .text
  | port | paperWidth => .word16
  | networkTimeout | shutdownTimeout => .word64
  | page => .page
  | logDir => .optionalText

/-- No two variables have one name. -/
theorem name_injective {v w : Variable} (h : v.name = w.name) : v = w := by
  cases v <;> cases w <;> first | rfl | exact absurd h (by decide)

end Variable

namespace Settings

/-- The field that a variable is for. -/
def get (s : Settings) : (v : Variable) → v.kind.Value
  | .bindHost => s.bindHost
  | .port => s.port
  | .paperWidth => s.paperWidth
  | .page => s.page
  | .apiBaseUrl => s.apiBaseUrl
  | .brand => s.texts.brand
  | .subtitle => s.texts.subtitle
  | .footer => s.texts.footer
  | .currency => s.texts.currency
  | .networkTimeout => s.networkTimeout
  | .shutdownTimeout => s.shutdownTimeout
  | .logLevel => s.logLevel
  | .logDir => s.logDir

/-- Settings are their fields. -/
theorem ext_get {s t : Settings} (h : ∀ v, s.get v = t.get v) : s = t := by
  obtain ⟨bindHost, port, paperWidth, page, apiBaseUrl, ⟨brand, subtitle, footer, currency⟩,
    networkTimeout, shutdownTimeout, logLevel, logDir⟩ := s
  obtain rfl : bindHost = t.bindHost := h .bindHost
  obtain rfl : port = t.port := h .port
  obtain rfl : paperWidth = t.paperWidth := h .paperWidth
  obtain rfl : page = t.page := h .page
  obtain rfl : apiBaseUrl = t.apiBaseUrl := h .apiBaseUrl
  obtain rfl : brand = t.texts.brand := h .brand
  obtain rfl : subtitle = t.texts.subtitle := h .subtitle
  obtain rfl : footer = t.texts.footer := h .footer
  obtain rfl : currency = t.texts.currency := h .currency
  obtain rfl : networkTimeout = t.networkTimeout := h .networkTimeout
  obtain rfl : shutdownTimeout = t.shutdownTimeout := h .shutdownTimeout
  obtain rfl : logLevel = t.logLevel := h .logLevel
  obtain rfl : logDir = t.logDir := h .logDir
  rfl

end Settings

/-! ## 3. Texts and values -/

namespace Kind

/-- **What a text spells**: texts are taken as they are, except that an empty one is no optional
    text; numbers are within their words, and they and names of code pages may have blanks around
    them. -/
def Spells : (k : Kind) → String → k.Value → Prop
  | text, t, (x : String) => x = t
  | word16, t, (n : UInt16) => Natural.Written (trim t).toList n.toNat
  | word64, t, (n : UInt64) => Natural.Written (trim t).toList n.toNat
  | page, t, (p : CodePage) => Text.lower (trim t) ∈ p.names
  | optionalText, t, (x : Option String) => x = if t = "" then none else some t

/-- The value that is read from a text. -/
def read? : (k : Kind) → String → Option k.Value
  | text, t => some t
  | word16, t => Natural.read16? (trim t).toList
  | word64, t => Natural.read64? (trim t).toList
  | page, t => CodePage.ofName? t
  | optionalText, t => some (if t = "" then none else some t)

/-- **Exactly what a text spells is read from it.** -/
theorem read?_eq_some_iff_spells {k : Kind} {t : String} {x : k.Value} :
    k.read? t = some x ↔ k.Spells t x := by
  cases k with
  | text | optionalText => exact Option.some_inj.trans eq_comm
  | word16 => exact Natural.read16?_eq_some_iff
  | word64 => exact Natural.read64?_eq_some_iff
  | page => exact CodePage.ofName?_eq_some_iff_names

/-- How a value is written in a variable. Numbers and names of code pages may have blanks around
    them. -/
def Writes : (k : Kind) → k.Value → Option ByteArray → Prop
  | text, (x : String), bs => bs = some x.toUTF8
  | word16, (n : UInt16), bs => ∃ t, Spaced (toString n.toNat) t ∧ bs = some t.toUTF8
  | word64, (n : UInt64), bs => ∃ t, Spaced (toString n.toNat) t ∧ bs = some t.toUTF8
  | page, (p : CodePage), bs => ∃ t, Spaced p.name t ∧ bs = some t.toUTF8
  | optionalText, (x : Option String), bs => bs = x.map String.toUTF8

end Kind

/-! ## 4. Reading an environment -/

/-- Bytes are the text that has them, if there is one. -/
theorem fromUTF8?_eq_some_iff {bs : ByteArray} {t : String} :
    String.fromUTF8? bs = some t ↔ bs = t.toUTF8 := by
  unfold String.fromUTF8?
  constructor
  · intro h
    split at h
    · cases h
      rfl
    · cases h
  · intro h
    have hvalid : t.toUTF8.IsValidUTF8 := t.isValidUTF8
    rw [h, dif_pos hvalid]
    rfl

/-- **What becomes of a variable**, given its bytes: it gives the value that its text spells, or the
    standard value if it is absent, if its bytes are no text, or if its text spells no value. -/
inductive Variable.Gives (v : Variable) : Option ByteArray → v.kind.Value → Prop where
  | spelled {t : String} {x : v.kind.Value} (spells : v.kind.Spells t x) :
    Gives v (some t.toUTF8) x
  | absent : Gives v none (Settings.standard.get v)
  | noText {bs : ByteArray} (fails : ∀ t : String, bs ≠ t.toUTF8) :
    Gives v (some bs) (Settings.standard.get v)
  | unspelled {t : String} (fails : ∀ x, ¬ v.kind.Spells t x) :
    Gives v (some t.toUTF8) (Settings.standard.get v)

namespace Settings

variable (v : Variable)

/-- **A field is read from its own variable.** -/
theorem get_ofEnvironment (env : Environment) :
    (ofEnvironment env).get v = ((env v.name).bind v.kind.read?).getD (standard.get v) := by
  cases v
  case bindHost | apiBaseUrl | brand | subtitle | footer | currency | logLevel =>
    exact congrArg (Option.getD · _) (Option.bind_fun_some _).symm
  case port | paperWidth | networkTimeout | shutdownTimeout | page => rfl
  case logDir =>
    show (env "LOG_DIR").filter (fun d => !d.isEmpty) =
      ((env "LOG_DIR").bind fun d => some (if d = "" then none else some d)).getD none
    cases env "LOG_DIR" with
    | none => rfl
    | some d => by_cases h : d = "" <;> simp [h]

variable (vars : String → Option ByteArray)

/-- What becomes of the variable is what its field is. -/
theorem get_ofBytes_eq_iff (x : v.kind.Value) :
    (ofEnvironment (.ofBytes vars)).get v = x ↔ v.Gives (vars v.name) x := by
  rw [get_ofEnvironment, Environment.ofBytes]
  constructor
  · rintro rfl
    cases hbytes : vars v.name with
    | none => exact .absent
    | some bs =>
      rw [Option.bind_some]
      cases htext : String.fromUTF8? bs with
      | none =>
        refine .noText fun t ht => ?_
        rw [fromUTF8?_eq_some_iff.mpr ht] at htext
        cases htext
      | some t =>
        rw [fromUTF8?_eq_some_iff.mp htext, Option.bind_some]
        cases hread : v.kind.read? t with
        | none =>
          refine .unspelled fun x hx => ?_
          rw [Kind.read?_eq_some_iff_spells.mpr hx] at hread
          cases hread
        | some x => exact .spelled (Kind.read?_eq_some_iff_spells.mp hread)
  · intro h
    generalize vars v.name = bytes at h
    have htext (t : String) : String.fromUTF8? t.toUTF8 = some t := fromUTF8?_eq_some_iff.mpr rfl
    cases h with
    | absent => rfl
    | spelled spells =>
      rw [Option.bind_some, htext, Option.bind_some, Kind.read?_eq_some_iff_spells.mpr spells]
      rfl
    | @noText bs fails =>
      have hnone : String.fromUTF8? bs = none :=
        Option.eq_none_iff_forall_not_mem.mpr fun t ht => fails t (fromUTF8?_eq_some_iff.mp ht)
      rw [Option.bind_some, hnone]
      rfl
    | @unspelled t fails =>
      have hnone : v.kind.read? t = none :=
        Option.eq_none_iff_forall_not_mem.mpr fun x hx =>
          fails x (Kind.read?_eq_some_iff_spells.mp hx)
      rw [Option.bind_some, htext, Option.bind_some, hnone]
      rfl

/-! ## 5. Settings that are written -/

/-- A number is what its text spells, whatever blanks stand around it. -/
theorem written_of_spaced {n : Nat} {t : String} (h : Spaced (toString n) t) :
    Natural.Written (trim t).toList n := by
  have hdigits : toString n = String.ofList (Nat.toDigits 10 n) := rfl
  have hdigit (c : Char) (hc : c ∈ Nat.toDigits 10 n) : Text.isBlank c = false :=
    Natural.isBlank_of_isDigit (Natural.isDigit_toDigits n c hc)
  have htrimmed : Text.Trimmed (Nat.toDigits 10 n) :=
    ⟨fun c hc => hdigit c (List.mem_of_mem_head? hc),
      fun c hc => hdigit c (List.mem_of_getLast? hc)⟩
  rw [h.trim_eq, hdigits, Text.trim_ofList htrimmed, String.toList_ofList]
  exact Natural.written_toDigits n

/-- So it is with the name of a code page. -/
theorem lower_mem_names_of_spaced {p : CodePage} {t : String} (h : Spaced p.name t) :
    Text.lower (trim t) ∈ p.names := by
  obtain ⟨htrimmed, hname⟩ := p.lower_name_mem_names
  have htrim := Text.trim_ofList htrimmed
  rw [String.ofList_toList] at htrim
  rwa [h.trim_eq, htrim]

/-- Each field is written in its variable. -/
def WrittenIn (s : Settings) (vars : String → Option ByteArray) : Prop :=
  ∀ v : Variable, v.kind.Writes (s.get v) (vars v.name)

variable {v} in
/-- What is written is what is spelled. The empty text is no log directory, so it cannot be written
    as one. -/
theorem gives_of_writes {s : Settings} {bytes : Option ByteArray} (hdir : s.logDir ≠ some "")
    (h : v.kind.Writes (s.get v) bytes) : v.Gives bytes (s.get v) := by
  cases v
  case bindHost | apiBaseUrl | brand | subtitle | footer | currency | logLevel =>
    obtain rfl : bytes = some _ := h
    exact .spelled rfl
  case port | paperWidth | networkTimeout | shutdownTimeout =>
    obtain ⟨t, hspaced, rfl⟩ := h
    exact .spelled (written_of_spaced hspaced)
  case page =>
    obtain ⟨t, hspaced, rfl⟩ := h
    exact .spelled (lower_mem_names_of_spaced hspaced)
  case logDir =>
    obtain rfl : bytes = s.logDir.map String.toUTF8 := h
    show Variable.Gives .logDir (s.logDir.map String.toUTF8) s.logDir
    cases hd : s.logDir with
    | none => exact .absent
    | some d =>
      have hne : d ≠ "" := fun hempty => hdir (by rw [hd, hempty])
      exact .spelled (if_neg hne).symm

/-- **Settings that are written are read back.** -/
theorem ofEnvironment_of_writtenIn {s : Settings} (hdir : s.logDir ≠ some "")
    (h : s.WrittenIn vars) : ofEnvironment (.ofBytes vars) = s :=
  ext_get fun v => (get_ofBytes_eq_iff v vars _).mpr (gives_of_writes hdir (h v))

/-- **Each setting comes from its own variable**, in every environment. A field is what its variable
    gives, so it is the same in all environments that agree on that variable, and whatever happens
    to one variable disturbs no field but its own. Settings that are written are read back, whatever
    blanks are put around numbers and the code page, unless the log directory is the empty text. -/
theorem settings_from_variables :
    (∀ (vars : String → Option ByteArray) (v : Variable) (x : v.kind.Value),
      (ofEnvironment (.ofBytes vars)).get v = x ↔ v.Gives (vars v.name) x) ∧
    (∀ (vars vars' : String → Option ByteArray) (v : Variable), vars v.name = vars' v.name →
      (ofEnvironment (.ofBytes vars)).get v = (ofEnvironment (.ofBytes vars')).get v) ∧
    (∀ (vars vars' : String → Option ByteArray) (v : Variable),
      (∀ name ≠ v.name, vars name = vars' name) → ∀ w ≠ v,
      (ofEnvironment (.ofBytes vars)).get w = (ofEnvironment (.ofBytes vars')).get w) ∧
    ∀ (s : Settings) (vars : String → Option ByteArray), s.logDir ≠ some "" → s.WrittenIn vars →
      ofEnvironment (.ofBytes vars) = s := by
  have hown (vars vars' : String → Option ByteArray) (v : Variable)
      (h : vars v.name = vars' v.name) :
      (ofEnvironment (.ofBytes vars)).get v = (ofEnvironment (.ofBytes vars')).get v := by
    rw [get_ofBytes_eq_iff, h, ← get_ofBytes_eq_iff]
  refine ⟨fun vars v x => get_ofBytes_eq_iff v vars x, hown, ?_,
    fun s vars hdir h => ofEnvironment_of_writtenIn vars hdir h⟩
  intro vars vars' v hothers w hne
  have hname : w.name ≠ v.name := fun heq => hne (Variable.name_injective heq)
  exact hown vars vars' w (hothers w.name hname)

/-- The largest words are read back from between blanks, and so is a code page. The blank before the
    brand is the brand's own, and without its variable there is no log directory. If the port is
    then made too large by one, the standard port comes in its place, and nothing else changes. -/
theorem settings_from_variables_surrounded :
    let s : Settings :=
      { Settings.standard with
        port := 65535, page := .dosCyrillic, networkTimeout := 18446744073709551615
        texts := { ReceiptTexts.standard with brand := " Café" } }
    let texts : List (String × String) :=
      [("PRINT_AGENT_BIND", "127.0.0.1"), ("PRINT_AGENT_PORT", "\t65535 "), ("PAPER_WIDTH", "80"),
        ("CODE_PAGE", " pc866\n"), ("API_BASE_URL", "http://localhost:5000"),
        ("RECEIPT_BRAND", " Café"), ("RECEIPT_SUBTITLE", s.texts.subtitle),
        ("RECEIPT_FOOTER", s.texts.footer), ("CURRENCY", s.texts.currency),
        ("NETWORK_TIMEOUT_MS", "18446744073709551615\u3000"), ("SHUTDOWN_TIMEOUT_MS", " 10000"),
        ("LOG_LEVEL", "info")]
    let vars (name : String) : Option ByteArray := (texts.lookup name).map String.toUTF8
    let vars' : String → Option ByteArray :=
      Function.update vars "PRINT_AGENT_PORT" (some "65536".toUTF8)
    s.logDir ≠ some "" ∧ s.WrittenIn vars ∧ ofEnvironment (.ofBytes vars) = s ∧
      (ofEnvironment (.ofBytes vars')).get .port = (9100 : UInt16) ∧
      ∀ w ≠ Variable.port, (ofEnvironment (.ofBytes vars')).get w = s.get w := by
  intro s texts vars vars'
  have hdir : s.logDir ≠ some "" := by decide
  have hwritten : s.WrittenIn vars := by
    intro v
    cases v
    case port => exact ⟨"\t65535 ", ⟨"\t", " ", by decide, by decide, by decide⟩, rfl⟩
    case paperWidth => exact ⟨"80", ⟨"", "", by decide, by decide, by decide⟩, rfl⟩
    case page => exact ⟨" pc866\n", ⟨" ", "\n", by decide, by decide, by decide⟩, rfl⟩
    case networkTimeout =>
      exact ⟨"18446744073709551615\u3000", ⟨"", "\u3000", by decide, by decide, by decide⟩, rfl⟩
    case shutdownTimeout => exact ⟨" 10000", ⟨" ", "", by decide, by decide, by decide⟩, rfl⟩
    all_goals rfl
  obtain ⟨hgives, -, hothers, hread⟩ := settings_from_variables
  refine ⟨hdir, hwritten, hread s vars hdir hwritten, (hgives vars' .port _).mpr ?_, ?_⟩
  · have hnone : (Variable.kind .port).read? "65536" = none := rfl
    refine .unspelled (t := "65536") fun x hx => ?_
    rw [Kind.read?_eq_some_iff_spells.mpr hx] at hnone
    cases hnone
  · intro w hne
    rw [← hread s vars hdir hwritten]
    exact hothers vars' vars .port (fun name hname => Function.update_of_ne hname _ _) w hne

end Settings

end ReceiptPrinting
