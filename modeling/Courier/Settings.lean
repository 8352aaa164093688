import Courier.NetworkError
import Courier.Schema.Read

/-!
# Courier — settings

Every setting has a value of its own when it is not given. Times are in milliseconds.

* `RegistrySettings.ofJson` — the settings that a configuration text gives, over the defaults.
-/

namespace Courier

/-- The settings of a node. -/
structure NodeSettings where
  /-- How long dialing may take. -/
  connectTimeoutMs : UInt64
  /-- How long a read on an open connection may take; zero for any time. -/
  idleTimeoutMs : UInt64
  /-- How long the handshake of a peer may take. -/
  handshakeTimeoutMs : UInt64
  /-- The largest body of a frame. -/
  maxFrameSize : UInt64
deriving DecidableEq, Repr

/-- The settings of a registry and of the nodes in it. -/
structure RegistrySettings where
  /-- How long the shutdown of all nodes may take. -/
  shutdownTimeoutMs : UInt64
  node : NodeSettings
deriving DecidableEq, Repr

/-- The settings of a service for sealed messages. -/
structure ServiceSettings where
  decryptThreads : UInt64
deriving DecidableEq, Repr

/-- Ten mebibytes. -/
def defaultMaxFrameSize : UInt64 := 10485760

namespace NodeSettings

def default : NodeSettings := ⟨10000, 0, 15000, defaultMaxFrameSize⟩

instance : Inhabited NodeSettings := ⟨default⟩

/-- The time that a read on an open connection may take, if it is limited. -/
def idleTimeout? (s : NodeSettings) : Option UInt64 :=
  if 0 < s.idleTimeoutMs then some s.idleTimeoutMs else none

def schema : Schema NodeSettings :=
  .record "NodeConfig" true
    (.withDefault "connect_timeout_ms" (.word64 "u64") default.connectTimeoutMs
      (.withDefault "io_timeout_ms" (.word64 "u64") default.idleTimeoutMs
        (.withDefault "handshake_timeout_ms" (.word64 "u64") default.handshakeTimeoutMs
          (.withDefault "max_frame_size" (.word64 "usize") default.maxFrameSize .nil))))
    { forth := fun s =>
        (s.connectTimeoutMs, s.idleTimeoutMs, s.handshakeTimeoutMs, s.maxFrameSize, ())
      back := fun b => ⟨b.1, b.2.1, b.2.2.1, b.2.2.2.1⟩
      back_forth := fun _ => rfl
      forth_back := fun _ => rfl }

end NodeSettings

namespace RegistrySettings

def default : RegistrySettings := ⟨10000, NodeSettings.default⟩

instance : Inhabited RegistrySettings := ⟨default⟩

def schema : Schema RegistrySettings :=
  .record "RegistryConfig" true
    (.withDefault "shutdown_timeout_ms" (.word64 "u64") default.shutdownTimeoutMs
      (.withDefault "node" NodeSettings.schema default.node .nil))
    { forth := fun s => (s.shutdownTimeoutMs, s.node, ())
      back := fun b => ⟨b.1, b.2.1⟩
      back_forth := fun _ => rfl
      forth_back := fun _ => rfl }

/-- The settings of a configuration text; what it does not give has its default (`from_json`). -/
def ofJson (text : String) : Except NetworkError RegistrySettings :=
  match schema.ofJson text with
  | .ok settings => .ok settings
  | .error fault => .error (.serialization fault.message)

end RegistrySettings

namespace ServiceSettings

/-- The settings on a machine that runs `parallelism` threads at a time. -/
def schema (parallelism : UInt64) : Schema ServiceSettings :=
  .record "ConfidentialConfig" true
    (.withDefault "decrypt_threads" (.word64 "usize") parallelism .nil)
    { forth := fun s => (s.decryptThreads, ())
      back := fun b => ⟨b.1⟩
      back_forth := fun _ => rfl
      forth_back := fun _ => rfl }

/-- The number of threads that open messages, at least one (`build_decrypt_runtime`). -/
def workers (s : ServiceSettings) : Nat := max s.decryptThreads.toNat 1

/-- The name of the threads that open messages. -/
def workerName : String := "confidential-decrypt"

end ServiceSettings

end Courier
