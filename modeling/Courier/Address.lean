import Courier.Schema.Basic
import Courier.Text.Quoted

/-!
# Courier — addresses of peers

An address is a host and a port. The network over which a peer is reached follows from its host:
hidden services end in `.onion` or `.i2p`, all other hosts are on the clear net.

* `Address.text` — the written form, `host:port`, with brackets around a host that holds a colon;
* `Address.parse` — reads a written form, and says what is missing in any other text.
-/

namespace Courier

/-- The network over which a peer is reached. -/
inductive Transport where
  | clearNet
  | tor
  | i2p
deriving DecidableEq, Repr, Inhabited

namespace Transport

def text : Transport → String
  | clearNet => "clear"
  | tor => "tor"
  | i2p => "i2p"

/-- The network that a host belongs to (`for_host`). -/
def ofHost (host : String) : Transport :=
  if ".onion".toList.isSuffixOf host.toList then tor
  else if ".i2p".toList.isSuffixOf host.toList then i2p
  else clearNet

end Transport

/-- Where a peer is reached. -/
structure Address where
  host : String
  port : UInt16
deriving DecidableEq, Repr, Inhabited

namespace Address

def localhost (port : UInt16) : Address := ⟨"127.0.0.1", port⟩

def transport (a : Address) : Transport := Transport.ofHost a.host

def isClearNet (a : Address) : Bool := a.transport = .clearNet

/-- A port in decimal digits. -/
def portDigits (port : UInt16) : List Char := Nat.toDigits 10 port.toNat

/-- The characters of the written form. -/
def chars (a : Address) : List Char :=
  let host := a.host.toList
  if ':' ∈ host then '[' :: host ++ ']' :: ':' :: portDigits a.port
  else host ++ ':' :: portDigits a.port

/-- The written form, for sockets and messages alike. -/
def text (a : Address) : String := String.ofList a.chars

/-- A view for diagnostics. -/
def debugText (a : Address) : String :=
  "Address \x7b host: " ++ Text.quoted a.host ++ ", port: " ++ String.ofList (portDigits a.port)
    ++ " \x7d"

/-! ## Reading -/

/-- Why a text is no address. -/
inductive Fault where
  /-- The text has no colon. -/
  | missingPort (text : String)
  | missingHost (text : String)
  | invalidPort (port : String)
deriving DecidableEq, Repr

def Fault.message : Fault → String
  | missingPort text => s!"missing port: {text}"
  | missingHost text => s!"missing host: {text}"
  | invalidPort port => s!"invalid port: {port}"

/-- The parts before and behind the last colon. -/
def splitLastColon? (cs : List Char) : Option (List Char × List Char) :=
  match cs.reverse.dropWhile (· ≠ ':') with
  | [] => none
  | _ :: front => some (front.reverse, (cs.reverse.takeWhile (· ≠ ':')).reverse)

/-- A host without the pair of brackets around it, if it has both. -/
def stripBrackets (host : List Char) : List Char :=
  match host with
  | '[' :: inner => if inner.getLast? = some ']' then inner.dropLast else host
  | _ => host

def isDigit (c : Char) : Bool := '0' ≤ c ∧ c ≤ '9'

/-- The number that decimal digits denote. -/
def digitsValue (ds : List Char) : Nat := ds.foldl (fun n d => 10 * n + (d.toNat - 48)) 0

/-- The port that a text denotes: digits, with or without a plus sign before them. -/
def port? (cs : List Char) : Option UInt16 :=
  let ds := match cs with
    | '+' :: ds => ds
    | _ => cs
  if ds ≠ [] ∧ ds.all isDigit ∧ digitsValue ds < UInt16.size then some (UInt16.ofNat (digitsValue ds))
  else none

/-- The address that a text denotes (`from_str`). -/
def parse (s : String) : Except Fault Address :=
  match splitLastColon? s.toList with
  | none => .error (.missingPort s)
  | some (before, behind) =>
    let host := stripBrackets before
    if host = [] then .error (.missingHost s)
    else
      match port? behind with
      | some port => .ok ⟨String.ofList host, port⟩
      | none => .error (.invalidPort (String.ofList behind))

end Address

/-! ## Schemas -/

def Transport.schema : Schema Transport :=
  .label ["clear_net", "tor", "i2_p"]
    { forth := fun | .clearNet => 0 | .tor => 1 | .i2p => 2
      back := fun | 0 => .clearNet | 1 => .tor | 2 => .i2p
      back_forth := by intro a; cases a <;> rfl
      forth_back := by decide }

def Address.schema : Schema Address :=
  .record "Address" false (.required "host" .text (.required "port" .word16 .nil))
    { forth := fun a => (a.host, a.port, ())
      back := fun b => ⟨b.1, b.2.1⟩
      back_forth := fun _ => rfl
      forth_back := fun _ => rfl }

end Courier
