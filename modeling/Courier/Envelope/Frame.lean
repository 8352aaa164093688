import Courier.Envelope.Basic
import Courier.Envelope.Stream
import Courier.NetworkError

/-!
# Courier — frames

A frame is the binary form of an envelope behind its length, which stands in four bytes, high byte
first. Both sides refuse a body above the largest size they are set to.

* `Frame.encode` — the frame of an envelope;
* `Frame.write` — writes a frame and flushes;
* `Frame.read` — reads the next frame, or the end of the stream between two frames;
* `Frame.readTimes` — reads frame after frame.
-/

namespace Courier

/-- An envelope that was read, with the size of its body. -/
structure Received where
  envelope : Envelope
  size : Nat
deriving DecidableEq, Inhabited

namespace Frame

/-- The number of bytes of the length. -/
def headerSize : Nat := 4

/-- The frame of an envelope (`encode_frame`). -/
def encode (e : Envelope) (max : Nat) : Except NetworkError Bytes :=
  let body := e.toBytes
  if max < body.length then .error (.messageTooLarge body.length max)
  else .ok (Bytes.bigEndian headerSize body.length ++ body)

/-- Writes the frame of an envelope and flushes; the size of the body (`write_frame`). -/
def write (e : Envelope) (max : Nat) (s : Sink) : Except NetworkError Nat × Sink :=
  match encode e max with
  | .error err => (.error err, s)
  | .ok frame =>
    match s.writeAll frame with
    | (.error f, s) => (.error (.ofIo f), s)
    | (.ok _, s) =>
      match s.flush with
      | (.error f, s) => (.error (.ofIo f), s)
      | (.ok _, s) => (.ok (frame.length - headerSize), s)

/-- The envelope in a complete body. -/
def ofBody (body : Bytes) : Except NetworkError (Option Received) :=
  match Envelope.ofBytes body with
  | .ok e => .ok (some ⟨e, body.length⟩)
  | .error fault => .error (.invalidMessage fault.message)

/-- Reads the next frame; nothing when the stream ends between two frames (`read_frame`). A stream
that ends inside a frame is an error, and so is a body that is too large, which is left unread. -/
def read (max : Nat) (s : Source) : Except NetworkError (Option Received) × Source :=
  match s.fill headerSize with
  | (header, some .ended, s) =>
    (if header = [] then .ok none else .error .connectionClosed, s)
  | (_, some (.failed f), s) => (.error (.ofIo f), s)
  | (header, none, s) =>
    let size := Bytes.ofBigEndian header
    if max < size then (.error (.messageTooLarge size max), s)
    else
      match s.fill size with
      | (_, some .ended, s) => (.error (.ofIo .endOfFile), s)
      | (_, some (.failed f), s) => (.error (.ofIo f), s)
      | (body, none, s) => (ofBody body, s)

/-- Reads so many times, going on after errors. -/
def readTimes (max : Nat) : Nat → Source → List (Except NetworkError (Option Received)) × Source
  | 0, s => ([], s)
  | k + 1, s =>
    let (outcome, s) := read max s
    let (outcomes, s) := readTimes max k s
    (outcome :: outcomes, s)

end Frame

end Courier
