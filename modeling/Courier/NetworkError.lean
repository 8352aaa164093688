import Courier.Address
import Courier.IoFailure

/-!
# Courier — what goes wrong on the network

The failures of connections, nodes and registries, and their wording.
-/

namespace Courier

inductive NetworkError where
  | connectionFailed (reason : String)
  | connectionClosed
  | timeout
  | invalidMessage (reason : String)
  /-- A frame body of `size` bytes, where `max` are allowed. -/
  | messageTooLarge (size max : Nat)
  | serialization (reason : String)
  | notInitialized (node : String)
  | banned (address : String)
  | handshakeFailed (reason : String)
  | invalidAddress (reason : String)
  | registryShutDown
  | failedIo (reason : String)
deriving DecidableEq, Repr, Inhabited

namespace NetworkError

/-- The name of the kind of failure. -/
def name : NetworkError → String
  | connectionFailed _ => "ConnectionFailed"
  | connectionClosed => "ConnectionClosed"
  | timeout => "Timeout"
  | invalidMessage _ => "InvalidMessage"
  | messageTooLarge _ _ => "MessageTooLarge"
  | serialization _ => "Serialization"
  | notInitialized _ => "NotInitialized"
  | banned _ => "Banned"
  | handshakeFailed _ => "HandshakeFailed"
  | invalidAddress _ => "InvalidAddress"
  | registryShutDown => "RegistryShutDown"
  | failedIo _ => "Io"

def message : NetworkError → String
  | connectionFailed reason => s!"Connection failed: {reason}"
  | connectionClosed => "Connection closed"
  | timeout => "Connection timeout"
  | invalidMessage reason => s!"Invalid message format: {reason}"
  | messageTooLarge size max => s!"Message too large: {size} bytes (max {max})"
  | serialization reason => s!"Serialization error: {reason}"
  | notInitialized node => s!"Node not initialized: {node}"
  | banned address => s!"Peer is banned: {address}"
  | handshakeFailed reason => s!"Handshake failed: {reason}"
  | invalidAddress reason => s!"Invalid address: {reason}"
  | registryShutDown => "Registry has been shut down"
  | failedIo reason => s!"I/O error: {reason}"

/-- What a failed read or write means: a wait that was too long, a connection that is gone, or
anything else, which is passed on. -/
def ofIo (f : IoFailure) : NetworkError :=
  match f.kind with
  | .timedOut | .wouldBlock => timeout
  | .unexpectedEof | .connectionReset | .connectionAborted | .brokenPipe => connectionClosed
  | _ => failedIo f.text

def ofAddressFault (f : Address.Fault) : NetworkError := invalidAddress f.message

end NetworkError

end Courier
