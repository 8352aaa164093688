import Courier.Envelope.Payload
import Courier.Schema.Binary

/-!
# Courier — envelopes

An envelope is a payload with the protocol version of its sender. Its binary form is the body of a
frame.

* `Envelope.toBytes` / `Envelope.ofBytes` — the binary form; reading refuses other versions and
  leaves what follows the envelope unread.
-/

namespace Courier

structure Envelope where
  version : UInt8
  payload : Payload
deriving DecidableEq, Inhabited

namespace Envelope

/-- The envelope in which this library sends a payload. -/
def ofPayload (p : Payload) : Envelope := ⟨protocolVersion, p⟩

def schema : Schema Envelope :=
  .record "NetworkEnvelope" false
    (.required "version" .word8 (.required "payload" Payload.schema .nil))
    { forth := fun e => (e.version, e.payload, ())
      back := fun b => ⟨b.1, b.2.1⟩
      back_forth := fun _ => rfl
      forth_back := fun _ => rfl }

def toBytes (e : Envelope) : Bytes := schema.encode e

/-- The number of bytes of the binary form (`serialized_size`). -/
def size (e : Envelope) : Nat := e.toBytes.length

/-- Why data is no envelope of this protocol. -/
inductive Fault where
  | malformed (fault : Binary.Fault)
  | version (v : UInt8)
deriving DecidableEq, Repr

def Fault.message : Fault → String
  | malformed fault => fault.message
  | version v => s!"Unsupported protocol version: {v} (expected {protocolVersion})"

/-- The envelope at the front of the data (`from_bytes`). -/
def ofBytes (bs : Bytes) : Except Fault Envelope :=
  match schema.decode bs with
  | .error fault => .error (.malformed fault)
  | .ok (e, _) => if e.version = protocolVersion then .ok e else .error (.version e.version)

end Envelope

end Courier
