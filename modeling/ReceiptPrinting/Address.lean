import ReceiptPrinting.Number.Natural
import ReceiptPrinting.Text.Blank

/-!
# Addresses of network printers

An address is a host and a port. It is written `host:port`, or `[host]:port` where the host itself
has colons in it; the port may be left out, and one that cannot be read counts as left out.

* `Address.parts` finds host and port in a text, before anything is trimmed;
* `Address.ofText` reads an address; it fails exactly if the host is blank;
* `Address.text` writes one.
-/

namespace ReceiptPrinting

/-- A printer on the network. -/
structure Address where
  host : String
  port : UInt16
deriving DecidableEq, Repr

/-- Why a host cannot be printed to: it is blank. The port is the one that stood beside it. -/
structure BlankHost where
  port : UInt16
deriving DecidableEq, Repr

/-- The blank host in words. -/
def BlankHost.message (b : BlankHost) : String := "Invalid address: :" ++ toString b.port.toNat

namespace Address

/-- The port that printers listen on unless told otherwise. -/
def standardPort : UInt16 := 9100

/-- The address of a host and a port. Blanks around the host do not matter. -/
def make (host : String) (port : UInt16) : Except BlankHost Address :=
  match Text.printable host with
  | some h => .ok ⟨h, port⟩
  | none => .error ⟨port⟩

/-- The text before and behind the first `x`. -/
def splitFirst (x : Char) (cs : List Char) : Option (List Char × List Char) :=
  match cs.dropWhile (· != x) with
  | [] => none
  | _ :: r => some (cs.takeWhile (· != x), r)

/-- The text before and behind the last `x`. -/
def splitLast (x : Char) (cs : List Char) : Option (List Char × List Char) :=
  (splitFirst x cs.reverse).map fun (behind, before) => (before.reverse, behind.reverse)

/-- What stands behind a colon. -/
def behindColon : List Char → Option (List Char)
  | ':' :: r => some r
  | _ => none

/-- Host and port of a host in brackets: the host ends at the first closing bracket. -/
def bracketed : List Char → Option (List Char × Option (List Char))
  | '[' :: r => (splitFirst ']' r).map fun (host, rest) => (host, behindColon rest)
  | _ => none

/-- Host and port, as far as a port is written. Without brackets the last colon divides them. -/
def parts (cs : List Char) : List Char × Option (List Char) :=
  match bracketed cs with
  | some p => p
  | none =>
    match splitLast ':' cs with
    | some (host, port) => (host, some port)
    | none => (cs, none)

/-- The number of a port: a whole number of 16 bits, with or without blanks around it. -/
def port? (cs : List Char) : Option UInt16 := Natural.read16? (Text.trimEnd (Text.trimStart cs))

/-- The address that a text is. -/
def ofText (s : String) : Except BlankHost Address :=
  let (host, port) := parts (Text.trim s).toList
  make (String.ofList host) ((port.bind port?).getD standardPort)

/-- An address as text. -/
def text (a : Address) : String :=
  if ':' ∈ a.host.toList then "[" ++ a.host ++ "]:" ++ toString a.port.toNat
  else a.host ++ ":" ++ toString a.port.toNat

end Address

end ReceiptPrinting
