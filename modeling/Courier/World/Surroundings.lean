import Courier.World.Basic

/-!
# Courier — what nodes are surrounded by

Nodes bind servers and open streams over a network that they do not know, and call listeners that
may do anything that a program can do with nodes. `Act` is what can be done, `Answer` what comes of
it, and `Surroundings` are the network and the listeners.
-/

namespace Courier

/-- Where a payload is sent. -/
inductive Target where
  /-- To this address, over an open connection or a new one. -/
  | address (a : Address)
  | connection (c : ConnectionRef)
deriving DecidableEq, Repr, Inhabited

/-- What can be done with the registries, nodes and connections of a world, whose listeners are
called `L`. -/
inductive Act (L : Type) where
  -- by a registry, on the node of an id
  | node (r : RegistryRef) (id : String)
  | start (r : RegistryRef) (id : String) (port : UInt16)
  | connect (r : RegistryRef) (id : String) (a : Address)
  | send (r : RegistryRef) (id : String) (payload : Payload) (target : Target)
  | shutDown (r : RegistryRef)
  -- on a node
  | startNode (n : NodeRef) (port : UInt16)
  | connectNode (n : NodeRef) (a : Address)
  | sendFrom (n : NodeRef) (payload : Payload) (target : Target)
  | close (n : NodeRef) (c : ConnectionRef) (reason : CloseReason)
  | shutDownNode (n : NodeRef)
  -- on a connection
  | ping (c : ConnectionRef) (nonce : UInt64)
  -- what a node does on its own: it lets in a peer, and reads from a connection
  | accept (n : NodeRef) (stream : StreamEnd) (origin : Option Address)
  | read (n : NodeRef) (c : ConnectionRef)
  -- on listeners
  | listen (n : NodeRef) (listener : L)
  | unlisten (n : NodeRef) (id : ListenerId)
  | listenToRegistry (r : RegistryRef) (listener : L)
  | unlistenToRegistry (r : RegistryRef) (id : ListenerId)
  | listenToNodes (r : RegistryRef) (listener : L)
  | unlistenToNodes (r : RegistryRef) (id : ListenerId)

/-- What comes of an act. -/
inductive Answer where
  | done
  | node (outcome : Except NetworkError NodeRef)
  | started (outcome : Except NetworkError Unit)
  /-- A connection was found, opened or written to. -/
  | connection (outcome : Except NetworkError ConnectionRef)
  | pinged (outcome : Except NetworkError UInt64)
  /-- All was shut down; nothing, if that never ends. -/
  | shutDown (outcome : Option Bool)
  | listening (id : ListenerId)
  | removed (wasThere : Bool)

/-- What a world is surrounded by. -/
structure Surroundings (L S : Type) where
  /-- What a listener does when it is told of an event. -/
  react : L → Event → World L S → List (Act L)
  /-- Binds the server of a node, on a port of its own for port zero, and starts the thread that
  waits for peers; a thread that cannot be started is a failure of the same kind. -/
  bind : RegistryRef → String → UInt16 → S → Except NetworkError Address × S
  /-- Opens a stream to an address, for which there are so many milliseconds. A handle of the stream
  that cannot be duplicated is a failure of the same kind. -/
  dial : RegistryRef → Address → UInt64 → S → Except NetworkError StreamEnd × S
  /-- Stops the server at an address. Whether it comes to an end is up to the network. -/
  stopServer : Address → S → Bool × S
  /-- A stream is given up before it has become a connection. -/
  hangUp : Socket → S → S
  /-- Starts the thread that reads from a connection that was dialed, or tells why there is none. -/
  startReader : ConnectionRef → S → Except String Unit × S
  /-- The ids of connections, by the order in which they begin. -/
  connectionId : Nat → String
  /-- When a frame was sent or received, and how long that took. -/
  timing : Timing

end Courier
