import Courier.Envelope.Frame

/-!
# Courier — sockets

A socket sends and receives envelopes over one end of a stream. Once it is closed it sends nothing
and has nothing to receive.

* `Socket.send`, `Socket.receive` — one envelope each;
* `Socket.isReady` — whether receiving would not have to wait for more data.
-/

namespace Courier

/-- One end of a stream. -/
structure StreamEnd where
  /-- The number by which whoever opened the stream knows this end. -/
  number : Nat
  source : Source
  sink : Sink
deriving DecidableEq, Repr, Inhabited

structure Socket where
  stream : StreamEnd
  /-- The largest body of a frame, in either direction. -/
  maxFrameSize : Nat
  closed : Bool
deriving DecidableEq, Repr, Inhabited

namespace Socket

/-- An open socket on the end of a stream. -/
def onStream (stream : StreamEnd) (maxFrameSize : Nat) : Socket := ⟨stream, maxFrameSize, false⟩

/-- A socket on a stream that holds data to read and takes everything that is written. -/
def ofSource (source : Source) (maxFrameSize : Nat) : Socket :=
  onStream ⟨0, source, .unlimited⟩ maxFrameSize

def withSource (source : Source) (s : Socket) : Socket :=
  { s with stream := { s.stream with source } }

def withSink (sink : Sink) (s : Socket) : Socket := { s with stream := { s.stream with sink } }

/-- Sends an envelope; the size of its body. -/
def send (e : Envelope) (s : Socket) : Except NetworkError Nat × Socket :=
  if s.closed then (.error .connectionClosed, s)
  else
    let (outcome, sink) := Frame.write e s.maxFrameSize s.stream.sink
    (outcome, s.withSink sink)

/-- Receives the next envelope, or nothing at the end of the stream (`receive_next`). -/
def receive (s : Socket) : Except NetworkError (Option Received) × Socket :=
  if s.closed then (.ok none, s)
  else
    let (outcome, source) := Frame.read s.maxFrameSize s.stream.source
    (outcome, s.withSource source)

/-- Closing again changes nothing. -/
def close (s : Socket) : Socket := { s with closed := true }

/-- Limits the time that receiving may take (`set_read_timeout`). No time at all is refused. -/
def checkTimeout (ms : Option Nat) : Except NetworkError Unit :=
  if ms = some 0 then .error (.ofIo .noTime) else .ok ()

/-- Receiving would not have to wait: a read is planned to fail or to be short, the stream has
ended, or a whole frame or the length of a frame that is too large has arrived. -/
def isReady (s : Socket) : Bool :=
  let source := s.stream.source
  let size := Bytes.ofBigEndian (source.data.take Frame.headerSize)
  s.closed || !source.plan.isEmpty || source.dry = .ended
    || (Frame.headerSize ≤ source.data.length
      && (s.maxFrameSize < size || Frame.headerSize + size ≤ source.data.length))

/-! ## The stream behind a socket -/

/-- What was written since it was last asked for. -/
def takeWritten (s : Socket) : Bytes × Socket :=
  (s.stream.sink.written, s.withSink { s.stream.sink with written := [] })

/-- Data arrives at the end of what there is to read. -/
def arrive (data : Bytes) (s : Socket) : Socket :=
  s.withSource { s.stream.source with data := s.stream.source.data ++ data }

/-- Nothing more will arrive. -/
def finish (s : Socket) : Socket := s.withSource { s.stream.source with dry := .ended }

/-- Nothing more will arrive, as far as is known. -/
def isFinished (s : Socket) : Bool := s.stream.source.dry = .ended

end Socket

end Courier
