import Courier.Link.Socket

/-!
# Courier — two sockets, joined

A reliable stream joins two sockets: what one end writes arrives at the other in order and without
loss.

* `SocketPair.send`, `receive`, `close` — the operations of either end;
* `SocketPair.writeRaw`, `finishRaw` — bytes that do not come from a socket.
-/

namespace Courier

/-- The ends of a joined stream. -/
inductive Side where
  | client
  | server
deriving DecidableEq, Repr, Inhabited

def Side.other : Side → Side
  | client => server
  | server => client

structure SocketPair where
  client : Socket
  server : Socket
deriving DecidableEq, Repr, Inhabited

namespace SocketPair

/-- Two open sockets with nothing on the way between them. -/
def joined (clientMax serverMax : Nat) : SocketPair :=
  let idle : Source := ⟨[], [], .stalled⟩
  ⟨.ofSource idle clientMax, .ofSource idle serverMax⟩

def socket (side : Side) (p : SocketPair) : Socket :=
  match side with
  | .client => p.client
  | .server => p.server

def setSocket (side : Side) (s : Socket) (p : SocketPair) : SocketPair :=
  match side with
  | .client => { p with client := s }
  | .server => { p with server := s }

/-- Carries what one end has written to the other. -/
def carry (side : Side) (p : SocketPair) : SocketPair :=
  let (written, s) := (p.socket side).takeWritten
  (p.setSocket side s).setSocket side.other ((p.socket side.other).arrive written)

def send (side : Side) (e : Envelope) (p : SocketPair) : Except NetworkError Nat × SocketPair :=
  let (outcome, s) := (p.socket side).send e
  (outcome, (p.setSocket side s).carry side)

def receive (side : Side) (p : SocketPair) :
    Except NetworkError (Option Received) × SocketPair :=
  let (outcome, s) := (p.socket side).receive
  (outcome, p.setSocket side s)

/-- Closes one end; the other reads what is on the way, and then the end of the stream. -/
def close (side : Side) (p : SocketPair) : SocketPair :=
  (p.setSocket side (p.socket side).close).setSocket side.other (p.socket side.other).finish

/-- Writes bytes as they are. -/
def writeRaw (side : Side) (bytes : Bytes) (p : SocketPair) : SocketPair :=
  p.setSocket side.other ((p.socket side.other).arrive bytes)

/-- Ends the writing of one end without closing its socket. -/
def finishRaw (side : Side) (p : SocketPair) : SocketPair :=
  p.setSocket side.other (p.socket side.other).finish

/-- The address of the other end is known as long as the stream is open in one direction. -/
def hasPeer (p : SocketPair) : Bool := !(p.client.isFinished && p.server.isFinished)

end SocketPair

end Courier
