import Courier.Schema.Basic

/-!
# Courier — how connections begin and end

A connection was dialed or accepted, and ends for one reason.
-/

namespace Courier

/-- Who opened a connection. -/
inductive Direction where
  /-- The node dialed. -/
  | outbound
  /-- The node accepted. -/
  | inbound
deriving DecidableEq, Repr, Inhabited

/-- Why a connection ended. -/
inductive CloseReason where
  | shutdown
  | closedByPeer
  | readError
  | writeError
  | handshakeRejected
  | banned
  | explicit
deriving DecidableEq, Repr, Inhabited

def CloseReason.text : CloseReason → String
  | shutdown => "shutdown"
  | closedByPeer => "closed by peer"
  | readError => "read error"
  | writeError => "write error"
  | handshakeRejected => "handshake rejected"
  | banned => "banned"
  | explicit => "explicit"

/-! ## Schemas -/

def Direction.names : List String := ["Outbound", "Inbound"]

def Direction.view : Bijection Direction (Fin 2) where
  forth
    | .outbound => 0
    | .inbound => 1
  back
    | 0 => .outbound
    | 1 => .inbound
  back_forth := by intro d; cases d <;> rfl
  forth_back := by decide

/-- The name of a direction in its written forms. -/
def Direction.name (d : Direction) : String := Direction.names.get (Direction.view.forth d)

def Direction.schema : Schema Direction := .label Direction.names Direction.view

def CloseReason.names : List String :=
  ["Shutdown", "ClosedByPeer", "ReadError", "WriteError", "HandshakeRejected", "Banned",
    "Explicit"]

def CloseReason.view : Bijection CloseReason (Fin 7) where
  forth
    | .shutdown => 0
    | .closedByPeer => 1
    | .readError => 2
    | .writeError => 3
    | .handshakeRejected => 4
    | .banned => 5
    | .explicit => 6
  back
    | 0 => .shutdown
    | 1 => .closedByPeer
    | 2 => .readError
    | 3 => .writeError
    | 4 => .handshakeRejected
    | 5 => .banned
    | 6 => .explicit
  back_forth := by intro r; cases r <;> rfl
  forth_back := by decide

/-- The name of a reason in its written forms. -/
def CloseReason.name (r : CloseReason) : String := CloseReason.names.get (CloseReason.view.forth r)

def CloseReason.schema : Schema CloseReason := .label CloseReason.names CloseReason.view

end Courier
