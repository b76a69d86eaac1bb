import ReceiptPrinting.Layout.Receipt

/-!
# Settings and the environment they come from

Every setting has a variable of its own in the environment. A variable that is absent leaves the
standard setting; so does one for a number or a code page whose text, trimmed, is none, or is out of
range. Texts are taken as they are, blanks included.

* `Environment.ofBytes` is the environment of a process, whose variables hold bytes;
* `Settings.ofEnvironment` reads the settings, each from its variable alone.
-/

namespace ReceiptPrinting

/-- How the agent is set up. -/
structure Settings where
  /-- The host to listen on. -/
  bindHost : String
  port : UInt16
  /-- The width of the paper in millimetres, for jobs that do not name one. -/
  paperWidth : UInt16
  page : CodePage
  /-- Where the till's own server is. The agent does not use it. -/
  apiBaseUrl : String
  texts : ReceiptTexts
  /-- How long to wait for a printer on the network, in milliseconds. -/
  networkTimeout : UInt64
  /-- How long to wait for open sessions at the end, in milliseconds. -/
  shutdownTimeout : UInt64
  logLevel : String
  logDir : Option String
deriving DecidableEq, Repr

/-- Variables with their texts. A variable whose bytes are no text counts as absent. -/
abbrev Environment := String → Option String

/-- The environment of a process, given the bytes of its variables. A text is written in UTF-8. -/
def Environment.ofBytes (vars : String → Option ByteArray) : Environment :=
  fun name => (vars name).bind String.fromUTF8?

namespace Settings

/-- The settings of an empty environment. -/
def standard : Settings :=
  { bindHost := "127.0.0.1"
    port := 9100
    paperWidth := 80
    page := CodePage.standard
    apiBaseUrl := "http://localhost:5000"
    texts := ReceiptTexts.standard
    networkTimeout := 5000
    shutdownTimeout := 10000
    logLevel := "info"
    logDir := none }

instance : Inhabited Settings := ⟨standard⟩

/-- The settings that an environment gives. -/
def ofEnvironment (env : Environment) : Settings :=
  let text (name standard : String) : String := (env name).getD standard
  let word16 (name : String) (standard : UInt16) : UInt16 :=
    ((env name).bind fun s => Natural.read16? (Text.trim s).toList).getD standard
  let word64 (name : String) (standard : UInt64) : UInt64 :=
    ((env name).bind fun s => Natural.read64? (Text.trim s).toList).getD standard
  { bindHost := text "PRINT_AGENT_BIND" standard.bindHost
    port := word16 "PRINT_AGENT_PORT" standard.port
    paperWidth := word16 "PAPER_WIDTH" standard.paperWidth
    page := ((env "CODE_PAGE").bind CodePage.ofName?).getD standard.page
    apiBaseUrl := text "API_BASE_URL" standard.apiBaseUrl
    texts :=
      { brand := text "RECEIPT_BRAND" standard.texts.brand
        subtitle := text "RECEIPT_SUBTITLE" standard.texts.subtitle
        footer := text "RECEIPT_FOOTER" standard.texts.footer
        currency := text "CURRENCY" standard.texts.currency }
    networkTimeout := word64 "NETWORK_TIMEOUT_MS" standard.networkTimeout
    shutdownTimeout := word64 "SHUTDOWN_TIMEOUT_MS" standard.shutdownTimeout
    logLevel := text "LOG_LEVEL" standard.logLevel
    logDir := (env "LOG_DIR").filter fun d => !d.isEmpty }

/-- Where the agent listens. -/
def listenAddress (s : Settings) : String := s.bindHost ++ ":" ++ toString s.port.toNat

end Settings

end ReceiptPrinting
