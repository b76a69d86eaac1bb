import ReceiptPrinting.Delivery
import ReceiptPrinting.Request

/-!
# What the agent answers over HTTP

The agent has three pages: a session is opened at `/` or `/ws`, `/health` tells how it is, and
`/printers` which printers the spooler knows. Browsers of any origin may ask.

* `pathOf` is the path in the target of a request, `Page.ofPath?` its page: neither the host that is
  named nor the query matters, case and a closing slash do;
* `Handshake.refusal` is what a request lacks to open a session, the first thing in a fixed order;
* `answer` is what comes back: a session, or a response.
-/

namespace ReceiptPrinting.Http

open Json (Value)

/-! ## 1. Requests and responses -/

/-- A request, as far as it matters. -/
structure Query where
  method : String
  /-- A path with its query, or a whole address with scheme and host before them. -/
  target : String
  /-- Names and values; a name is found whatever the case of its letters. -/
  headers : List (String × String)
deriving DecidableEq, Repr

/-- The value of a header. Of two with one name it is the first. -/
def Query.header? (q : Query) (name : String) : Option String :=
  (q.headers.find? fun h => Text.lower h.1 == name).map (·.2)

/-- A response, as far as it matters. -/
structure Response where
  status : Nat
  headers : List (String × String)
  body : String
deriving DecidableEq, Repr

/-- What a request leads to. -/
inductive Reaction where
  /-- The connection becomes a session. -/
  | session
  | response (r : Response)
deriving DecidableEq, Repr

/-! ## 2. Pages -/

/-- What there is to ask for. -/
inductive Page where
  | session
  | health
  | printers
deriving DecidableEq, Repr

/-- Does `c` end a path? A query or a fragment follows. -/
def endsPath (c : Char) : Bool := c == '?' || c == '#'

/-- What follows the scheme and the host in a target that names them. -/
def behindHost (target : List Char) : Option (List Char) :=
  match target, target.dropWhile (· != ':') with
  | '/' :: _, _ => none
  | _, ':' :: '/' :: '/' :: r => some (r.dropWhile fun c => c != '/' && !endsPath c)
  | _, _ => none

/-- The path in a target. An address without a path asks for `/`. -/
def pathOf (target : String) : String :=
  match behindHost target.toList with
  | none => String.ofList (target.toList.takeWhile (!endsPath ·))
  | some r => match r.takeWhile (!endsPath ·) with
    | [] => "/"
    | path => String.ofList path

/-- The page of a path. -/
def Page.ofPath? (path : String) : Option Page :=
  match path with
  | "/" | "/ws" => some session
  | "/health" => some health
  | "/printers" => some printers
  | _ => none

/-- A response in JSON. -/
def json (status : Nat) (v : Value) : Response :=
  ⟨status, [("content-type", "application/json")], v.text⟩

/-- A response in plain text. -/
def plain (status : Nat) (s : String) : Response :=
  ⟨status, [("content-type", "text/plain; charset=utf-8")], s⟩

/-- How the agent is. -/
def healthPage (clients : UInt64) : Response := json 200 (Health.healthy clients).toValue

/-- The printers that the spooler knows, or why it does not tell. -/
def printersPage (o : Outlets) : Response :=
  match o.list with
  | .ok names => json 200 (.array (names.map .string))
  | .error e => json 503 (.object [("error", .string "printers_unavailable"),
      ("message", .string ("Printer query failed: " ++ e.message))])

/-! ## 3. Opening a session -/

/-- What a request lacks to open a session. -/
inductive Handshake.Refusal where
  | method
  | connection
  | upgrade
  | key
  | version
deriving DecidableEq, Repr

/-- Does `part` stand in `cs`? -/
def hasPart (part : List Char) : List Char → Bool
  | [] => part.isEmpty
  | c :: r => part.isPrefixOf (c :: r) || hasPart part r

/-- The first thing that a request lacks to open a session. -/
def Handshake.refusal (q : Query) : Option Refusal :=
  let is (name value : String) : Bool := (q.header? name).any fun v => Text.lower v == value
  if q.method ≠ "GET" then some .method
  else if !(q.header? "connection").any fun v => hasPart "upgrade".toList (Text.lower v).toList then
    some .connection
  else if !is "upgrade" "websocket" then some .upgrade
  else if (q.header? "sec-websocket-key").isNone then some .key
  else if !is "sec-websocket-version" "13" then some .version
  else none

/-- The refusal as a response. -/
def Handshake.Refusal.response : Refusal → Response
  | method => plain 405 "Request method must be `GET`"
  | connection => plain 400 "Connection header did not include 'upgrade'"
  | upgrade => plain 400 "`Upgrade` header did not include 'websocket'"
  | key => plain 400 "`Sec-WebSocket-Key` header missing"
  | version => plain 400 "`Sec-WebSocket-Version` header did not include '13'"

/-! ## 4. Answers -/

/-- The methods that every page takes. -/
def methods : String := "GET,HEAD"

/-- What a page answers to one of its methods. -/
def Page.answer (o : Outlets) (clients : UInt64) (q : Query) : Page → Reaction
  | session =>
    match Handshake.refusal q with
    | some r => .response r.response
    | none => .session
  | health => .response (healthPage clients)
  | printers => .response (printersPage o)

/-- A response with headers added. -/
def Response.adding (r : Response) (headers : List (String × String)) : Response :=
  { r with headers := r.headers ++ headers }

/-- What every origin is told of what it may do. -/
def preflight : Response :=
  ⟨200, [("access-control-allow-origin", "*"), ("access-control-allow-methods", "*"),
    ("access-control-allow-headers", "*")], ""⟩

/-- What every origin is told beside an answer. -/
def shared : List (String × String) :=
  [("access-control-allow-origin", "*"), ("access-control-expose-headers", "*")]

/-- The methods of a page, for an answer to a method that it does not take. -/
def allowed (p : Option Page) : List (String × String) :=
  if p.isSome then [("allow", methods)] else []

/-- What a request leads to. The answer to `HEAD` has no body. -/
def answer (o : Outlets) (clients : UInt64) (q : Query) : Reaction :=
  let page := Page.ofPath? (pathOf q.target)
  if q.method = "OPTIONS" then .response (preflight.adding (allowed page))
  else
    match page with
    | none => .response (Response.adding ⟨404, [], ""⟩ shared)
    | some p =>
      if q.method ≠ "GET" ∧ q.method ≠ "HEAD" then
        .response (Response.adding ⟨405, [], ""⟩ (shared ++ allowed page))
      else
        match p.answer o clients q with
        | .session => .session
        | .response r =>
          let r := r.adding shared
          .response (if q.method = "HEAD" then { r with body := "" } else r)

end ReceiptPrinting.Http
