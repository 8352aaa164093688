import Courier.Link.Metrics
import Courier.Link.Reason
import Courier.Link.Socket
import Courier.Text.Quoted

/-!
# Courier — connections

A connection is a socket behind a handshake. It counts its traffic and measures round trips: a probe
is outstanding from its sending until its answer or the end of the connection.

* `Connection.send`, `receive` — one payload each, which is counted when it is complete;
* `Connection.ping`, `onPong` — a probe and its answer;
* `Connection.markClosed` — the first close decides the reason.
-/

namespace Courier

structure Connection where
  id : String
  /-- The id of the node that the connection belongs to. -/
  nodeId : String
  peerAddress : Address
  /-- The id that the peer gave in its handshake. -/
  peerNode : Option String
  direction : Direction
  socket : Socket
  metrics : Metrics
  closeReason : Option CloseReason
  /-- The nonces of the probes that are outstanding. -/
  outstanding : List UInt64
deriving DecidableEq, Repr, Inhabited

/-- When something happened, in milliseconds since the connection began, and how long it took, in
microseconds. -/
structure Timing where
  atMs : Int
  spentUs : Nat
deriving DecidableEq, Repr, Inhabited

namespace Connection

/-- A connection without any traffic. -/
def fresh (id nodeId : String) (peerAddress : Address) (peerNode : Option String)
    (direction : Direction) (socket : Socket) : Connection :=
  ⟨id, nodeId, peerAddress, peerNode, direction, socket, .empty, none, []⟩

def isClosed (c : Connection) : Bool := c.closeReason.isSome

def isOutbound (c : Connection) : Bool := c.direction = .outbound

def countSent (size : Nat) (t : Timing) (c : Connection) : Connection :=
  { c with metrics := c.metrics.recordSent size t.spentUs t.atMs }

def countReceived (size : Nat) (t : Timing) (c : Connection) : Connection :=
  { c with metrics := c.metrics.recordReceived size t.spentUs t.atMs }

/-- Sends a payload (`send`). What is not sent is not counted. -/
def send (t : Timing) (p : Payload) (c : Connection) : Except NetworkError Unit × Connection :=
  if c.isClosed then (.error .connectionClosed, c)
  else
    match c.socket.send (.ofPayload p) with
    | (.error e, socket) => (.error e, { c with socket })
    | (.ok size, socket) => (.ok (), { c with socket }.countSent size t)

/-- Receives the next envelope, or nothing at the end of the stream (`receive_next`). -/
def receive (t : Timing) (c : Connection) : Except NetworkError (Option Received) × Connection :=
  match c.socket.receive with
  | (.ok (some r), socket) => (.ok (some r), { c with socket }.countReceived r.size t)
  | (outcome, socket) => (outcome, { c with socket })

/-- Sends a probe (`ping`). A probe that was not sent is not outstanding. -/
def ping (t : Timing) (nonce : UInt64) (c : Connection) :
    Except NetworkError UInt64 × Connection :=
  let c := { c with outstanding := nonce :: c.outstanding.filter (· ≠ nonce) }
  match c.send t (.ping ⟨nonce⟩) with
  | (.ok _, c) => (.ok nonce, c)
  | (.error e, c) => (.error e, { c with outstanding := c.outstanding.filter (· ≠ nonce) })

/-- Takes the answer to a probe as a sample (`on_pong`). Answers to no outstanding probe are
ignored. -/
def onPong (t : Timing) (p : Pong) (c : Connection) : Connection :=
  if c.outstanding.contains p.requestNonce then
    { c with
      outstanding := c.outstanding.filter (· ≠ p.requestNonce)
      metrics := c.metrics.addRoundTrip t.spentUs }
  else c

/-- Closes the connection for a reason; tells whether it was open (`mark_closed`). -/
def markClosed (reason : CloseReason) (c : Connection) : Bool × Connection :=
  if c.isClosed then (false, c)
  else
    (true, { c with closeReason := some reason, outstanding := [], socket := c.socket.close })

/-- A view for diagnostics. -/
def debugText (c : Connection) : String :=
  let reason := match c.closeReason with
    | none => "None"
    | some r => "Some(" ++ r.name ++ ")"
  "Connection \x7b id: " ++ Text.quoted c.id ++ ", node_id: " ++ Text.quoted c.nodeId
    ++ ", peer_address: " ++ c.peerAddress.debugText ++ ", direction: " ++ c.direction.name
    ++ ", close_reason: " ++ reason ++ " \x7d"

end Connection

end Courier
