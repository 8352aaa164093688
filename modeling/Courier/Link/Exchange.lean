import Courier.Link.SocketPair

/-!
# Courier — an exchange over a joined stream

Either end of a pair sends, receives and closes, in any order, with bytes on the way. What a socket
has written is on the way until it arrives, in pieces of any size, and the end of what it writes
arrives behind all of it. A receiver waits for as long as nothing has arrived that it could return.

* `SocketPair.step` — one act and its answer;
* `SocketPair.run` — one act after the other.
-/

namespace Courier

namespace Socket

/-- What has been written and is still on the way. -/
def underWay (s : Socket) : Bytes := s.stream.sink.written

/-- There is something to return: the socket is closed, or the stream has ended, or a whole frame has
arrived or the length of one that is too large. -/
def hasArrived (s : Socket) : Bool :=
  let source := s.stream.source
  let size := Bytes.ofBigEndian (source.data.take Frame.headerSize)
  s.closed || source.dry = .ended
    || (Frame.headerSize ≤ source.data.length
      && (s.maxFrameSize < size || Frame.headerSize + size ≤ source.data.length))

end Socket

namespace SocketPair

/-- What may happen to a pair. -/
inductive Act where
  | send (side : Side) (e : Envelope)
  | receive (side : Side)
  | close (side : Side)
  /-- So many bytes that this end has written arrive. -/
  | arrive (side : Side) (n : Nat)
  /-- The end of what this end has written arrives. -/
  | finish (side : Side)

/-- The answer to an act. -/
inductive Answer where
  | sent (side : Side) (e : Envelope) (outcome : Except NetworkError Nat)
  | received (side : Side) (outcome : Except NetworkError (Option Received))
  /-- There is nothing to return yet. -/
  | waits (side : Side)
  | done

/-- Carries some of what one end has written to the other. -/
def pass (side : Side) (n : Nat) (p : SocketPair) : SocketPair :=
  let s := p.socket side
  (p.setSocket side (s.withSink { s.stream.sink with written := s.underWay.drop n })).setSocket
    side.other ((p.socket side.other).arrive (s.underWay.take n))

/-- One act and its answer. -/
def step (p : SocketPair) : Act → Answer × SocketPair
  | .send side e =>
    let (outcome, s) := (p.socket side).send e
    (.sent side e outcome, p.setSocket side s)
  | .receive side =>
    if (p.socket side).hasArrived then
      let (outcome, p) := p.receive side
      (.received side outcome, p)
    else (.waits side, p)
  | .close side => (.done, p.setSocket side (p.socket side).close)
  | .arrive side n => (.done, p.pass side n)
  | .finish side =>
    if (p.socket side).closed && (p.socket side).underWay = [] then (.done, p.finishRaw side)
    else (.done, p)

/-- One act after the other. -/
def run (p : SocketPair) : List Act → List Answer × SocketPair
  | [] => ([], p)
  | a :: acts =>
    let (answer, q) := p.step a
    let (answers, q) := q.run acts
    (answer :: answers, q)

end SocketPair

end Courier
