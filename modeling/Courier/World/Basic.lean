import Courier.BanList
import Courier.Link.Connection
import Courier.Link.Table
import Courier.Listeners.Basic
import Courier.Settings

/-!
# Courier — worlds of nodes

A world holds registries, the nodes in them and their connections. Nodes and connections are never
taken out of a world, so that a reference to one stays good after it has been shut down or closed.
What lies beyond the nodes, the network in the first place, is a state of its own, which only the
functions of `Surroundings` look at and change.

* `World` — the state;
* `Event`, `Call` — what listeners hear of, and the record of it;
* `Deed` — what nodes and registries have done about their connections and listeners;
* `World.node`, `setNode` and the like — looking at and changing one part.
-/

namespace Courier

/-- The name of a node in a world, by the order of creation. -/
structure NodeRef where
  number : Nat
deriving DecidableEq, Repr, Inhabited

/-- The name of a registry in a world. -/
structure RegistryRef where
  number : Nat
deriving DecidableEq, Repr, Inhabited

/-- The life of a node, which only goes forward. -/
inductive NodeState where
  | new
  | starting
  | running
  | stopping
  | terminated
deriving DecidableEq, Repr, Inhabited

def NodeState.name : NodeState → String
  | new => "New"
  | starting => "Starting"
  | running => "Running"
  | stopping => "Stopping"
  | terminated => "Terminated"

/-- What listeners hear of. -/
inductive Event where
  /-- A node joined its registry. -/
  | nodeAdded (n : NodeRef)
  /-- A node left its registry. -/
  | nodeRemoved (n : NodeRef)
  | message (payload : Payload) (c : ConnectionRef) (nodeId : String)
  | connected (c : ConnectionRef)
  | disconnected (c : ConnectionRef) (reason : CloseReason)
  | shutDown (n : NodeRef)
deriving DecidableEq, Inhabited

/-- Who listens to a node: the registry that it is in, or a listener of its own. -/
inductive NodeListener (L : Type) where
  | registry
  | own (listener : L)
deriving DecidableEq, Repr

structure Node (L : Type) where
  id : String
  registry : RegistryRef
  settings : NodeSettings
  state : NodeState
  /-- The address at which the node can be reached, once it has been bound. -/
  address : Option Address
  /-- The address of the server, as long as it runs. -/
  server : Option Address
  table : ConnectionTable
  /-- The addresses to which a connection is being opened. -/
  dials : List Address
  listeners : Listeners (NodeListener L)

structure Registry (L : Type) where
  settings : RegistrySettings
  /-- The kind of network that its nodes use. -/
  transport : Transport
  bans : BanList
  /-- The nodes by their ids, in the order of creation. -/
  nodes : List (String × NodeRef)
  /-- The listeners for nodes that join and leave. -/
  listeners : Listeners L
  /-- The listeners for the events of all nodes. -/
  nodeListeners : Listeners L
  isShutDown : Bool
  /-- What the first shutdown achieved, once it is over. -/
  outcome : Option Bool

/-- A listener was told of an event. -/
structure Call (L : Type) where
  listener : L
  event : Event
deriving DecidableEq

/-- What a node or a registry has done, for the record. -/
inductive Deed (L : Type) where
  /-- A node of a registry had something to tell, when these listened to it. -/
  | nodeTold (n : NodeRef) (r : RegistryRef) (event : Event) (listeners : List (NodeListener L))
  /-- A registry had something to tell, when these listened: to the registry, if a node has joined or
  left, and else to its nodes. -/
  | registryTold (r : RegistryRef) (event : Event) (listeners : List L)
  /-- A node closed a connection, for the first time or once more. -/
  | closed (n : NodeRef) (c : ConnectionRef) (reason : CloseReason)
deriving DecidableEq

/-- Nodes whose listeners are called `L`, in surroundings with states `S`. -/
structure World (L S : Type) where
  nodes : List (Node L)
  connections : List Connection
  registries : List (Registry L)
  /-- The number of the next listener handle. -/
  nextListener : Nat
  /-- The calls of listeners so far, in order. -/
  calls : List (Call L)
  /-- What nodes and registries have done so far, in order. -/
  history : List (Deed L)
  outside : S

variable {L S : Type}

namespace Node

/-- A node that was never started. -/
def fresh (id : String) (registry : RegistryRef) (settings : NodeSettings) : Node L :=
  ⟨id, registry, settings, .new, none, none, .empty, [], .empty⟩

instance : Inhabited (Node L) := ⟨fresh "" ⟨0⟩ .default⟩

def isRunning (n : Node L) : Bool := n.state = .running

/-- The handshake by which the node makes itself known. -/
def handshake (n : Node L) : Handshake := ⟨n.id, n.address, protocolVersion⟩

/-- A view for diagnostics. -/
def debugText (n : Node L) : String :=
  let address := match n.address with
    | none => "None"
    | some a => "Some(" ++ a.debugText ++ ")"
  "Node \x7b node_id: " ++ Text.quoted n.id ++ ", state: " ++ n.state.name ++ ", my_address: "
    ++ address ++ " \x7d"

end Node

namespace Registry

def fresh (settings : RegistrySettings) (transport : Transport) : Registry L :=
  ⟨settings, transport, .empty, [], .empty, .empty, false, none⟩

instance : Inhabited (Registry L) := ⟨fresh .default .clearNet⟩

def find (id : String) (r : Registry L) : Option NodeRef := r.nodes.lookup id

/-- A view for diagnostics. -/
def debugText (r : Registry L) : String :=
  let ids := ", ".intercalate (r.nodes.map fun e => Text.quoted e.1)
  "NodesById \x7b nodes: [" ++ ids ++ "], shut_down: " ++ (if r.isShutDown then "true" else "false")
    ++ " \x7d"

end Registry

namespace World

/-- A world without registries. -/
def start (outside : S) : World L S := ⟨[], [], [], 1, [], [], outside⟩

def node (n : NodeRef) (w : World L S) : Node L := w.nodes.getD n.number default

def connection (c : ConnectionRef) (w : World L S) : Connection :=
  w.connections.getD c.number default

def registry (r : RegistryRef) (w : World L S) : Registry L := w.registries.getD r.number default

def setNode (n : NodeRef) (f : Node L → Node L) (w : World L S) : World L S :=
  { w with nodes := w.nodes.modify n.number f }

def setConnection (c : ConnectionRef) (f : Connection → Connection) (w : World L S) :
    World L S :=
  { w with connections := w.connections.modify c.number f }

def setRegistry (r : RegistryRef) (f : Registry L → Registry L) (w : World L S) : World L S :=
  { w with registries := w.registries.modify r.number f }

def addNode (n : Node L) (w : World L S) : NodeRef × World L S :=
  (⟨w.nodes.length⟩, { w with nodes := w.nodes ++ [n] })

def addConnection (c : Connection) (w : World L S) : ConnectionRef × World L S :=
  (⟨w.connections.length⟩, { w with connections := w.connections ++ [c] })

def addRegistry (r : Registry L) (w : World L S) : RegistryRef × World L S :=
  (⟨w.registries.length⟩, { w with registries := w.registries ++ [r] })

/-- A handle for a listener that no listener had before (`next`). -/
def freshListener (w : World L S) : ListenerId × World L S :=
  (⟨w.nextListener⟩, { w with nextListener := w.nextListener + 1 })

/-- Notes that a listener was told of an event. -/
def log (l : L) (e : Event) (w : World L S) : World L S :=
  { w with calls := w.calls ++ [⟨l, e⟩] }

/-- Puts a deed on record. -/
def record (d : Deed L) (w : World L S) : World L S := { w with history := w.history ++ [d] }

def isOpen (w : World L S) (c : ConnectionRef) : Bool := !(w.connection c).isClosed

/-- The open connection of a node to an address (`find_connection`). -/
def findConnection (n : NodeRef) (a : Address) (w : World L S) : Option ConnectionRef :=
  (w.node n).table.find w.isOpen a

/-- The open connections of a node, in the order of their registration (`connections`). -/
def openConnections (n : NodeRef) (w : World L S) : List ConnectionRef :=
  (w.node n).table.toList.filter w.isOpen

/-- The traffic of a node in the last hour (`network_load`). -/
def load (n : NodeRef) (w : World L S) : Load :=
  .ofMetrics ((w.openConnections n).map fun c => (w.connection c).metrics)

/-- The connection is there and belongs to a node of this id (`owns`). -/
def owns (n : NodeRef) (c : ConnectionRef) (w : World L S) : Bool :=
  c.number < w.connections.length && (w.connection c).nodeId = (w.node n).id

end World

end Courier
