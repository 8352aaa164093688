import Courier.World.Nodes

/-!
# Courier — registries

A registry keeps the nodes of a program by their ids. A node is created when it is first asked for,
and leaves the registry when it has shut down. After its own shutdown a registry stays empty.

* `World.nodeOf` — the node of an id;
* `World.startIn`, `World.connectIn`, `World.sendIn` — what a registry does on the node of an id;
* `World.shutDownRegistry` — shuts down all nodes.
-/

namespace Courier.World

variable {L S : Type} (env : Surroundings L S) (call : L → Event → World L S → World L S)

/-- A new node of an id, to which its registry listens first. -/
def createNode (r : RegistryRef) (id : String) (w : World L S) : NodeRef × World L S :=
  let node := Node.fresh id r (w.registry r).settings.node
  let (listenerId, w) := w.freshListener
  let (n, w) := w.addNode { node with listeners := node.listeners.add listenerId .registry }
  (n, w.setRegistry r fun reg => { reg with nodes := reg.nodes ++ [(id, n)] })

/-- The node of an id, which is created if there is none (`get_or_create`). -/
def nodeOf (r : RegistryRef) (id : String) (w : World L S) :
    Except NetworkError NodeRef × World L S :=
  let registry := w.registry r
  if registry.isShutDown then (.error .registryShutDown, w)
  else
    match registry.find id with
    | some n => (.ok n, w)
    | none =>
      let (n, w) := w.createNode r id
      (.ok n, announce call r (.nodeAdded n) w)

/-- Starts the node of an id (`initialize`). -/
def startIn (r : RegistryRef) (id : String) (port : UInt16) (w : World L S) :
    Except NetworkError NodeRef × World L S :=
  match nodeOf call r id w with
  | (.error e, w) => (.error e, w)
  | (.ok n, w) =>
    match startNode env n port w with
    | (.error e, w) => (.error e, w)
    | (.ok _, w) => (.ok n, w)

/-- The connection of the node of an id to an address (`get_connection`). -/
def connectIn (r : RegistryRef) (id : String) (a : Address) (w : World L S) :
    Except NetworkError ConnectionRef × World L S :=
  match nodeOf call r id w with
  | (.error e, w) => (.error e, w)
  | (.ok n, w) => connectNode env call n a w

/-- Sends a payload from the node of an id (`send`). -/
def sendIn (r : RegistryRef) (id : String) (payload : Payload) (target : Target)
    (w : World L S) : Except NetworkError ConnectionRef × World L S :=
  match nodeOf call r id w with
  | (.error e, w) => (.error e, w)
  | (.ok n, w) => sendFrom env call n payload target w

/-- Shuts down nodes, each by `shut`; whether all of them came to an end in time. -/
def shutDownAll (shut : NodeRef → World L S → Option Bool × World L S) (nodes : List NodeRef)
    (w : World L S) : Bool × World L S :=
  nodes.foldl
    (fun (completed, w) n =>
      let (outcome, w) := shut n w
      (completed && outcome.getD false, w)) (true, w)

/-- The first shutdown of a registry is beginning. -/
def closeRegistry (r : RegistryRef) (w : World L S) : World L S :=
  w.setRegistry r fun reg => { reg with isShutDown := true }

/-- The first shutdown of a registry is over. -/
def emptyRegistry (r : RegistryRef) (completed : Bool) (w : World L S) : World L S :=
  w.setRegistry r fun reg =>
    { reg with
      nodes := []
      listeners := .empty
      nodeListeners := .empty
      outcome := some completed }

/-- Shuts a registry down, and its nodes by `shut`. Later calls answer as the first one did, or
negatively while it goes on. -/
def shutDownRegistryBy (shut : NodeRef → World L S → Option Bool × World L S) (r : RegistryRef)
    (w : World L S) : Bool × World L S :=
  let registry := w.registry r
  if registry.isShutDown then (registry.outcome.getD false, w)
  else
    let nodes := registry.nodes.map (·.2)
    let (completed, w) := shutDownAll shut nodes (w.closeRegistry r)
    (completed, w.emptyRegistry r completed)

/-- Shuts a registry down (`shutdown`). -/
def shutDownRegistry (r : RegistryRef) (w : World L S) : Bool × World L S :=
  shutDownRegistryBy (shutDownNode env call) r w

/-! ## Looking up nodes -/

def findNode (r : RegistryRef) (id : String) (w : World L S) : Option NodeRef :=
  (w.registry r).find id

def isNodeRunning (r : RegistryRef) (id : String) (w : World L S) : Bool :=
  match w.findNode r id with
  | some n => (w.node n).isRunning
  | none => false

def assertRunning (r : RegistryRef) (id : String) (w : World L S) : Except NetworkError Unit :=
  if w.isNodeRunning r id then .ok () else .error (.notInitialized id)

/-- The address of the node of an id, if it has one (`find_my_address`). -/
def addressOf (r : RegistryRef) (id : String) (w : World L S) : Option Address :=
  (w.findNode r id).bind fun n => (w.node n).address

/-- The addresses of all nodes that have one, with their ids (`addresses_by_node_id`). -/
def addressesById (r : RegistryRef) (w : World L S) : List (String × Address) :=
  (w.registry r).nodes.filterMap fun (id, n) => (w.node n).address.map fun a => (id, a)

/-! ## Listeners of a registry -/

def listenToRegistry (r : RegistryRef) (listener : L) (w : World L S) :
    ListenerId × World L S :=
  let (id, w) := w.freshListener
  (id, w.setRegistry r fun reg => { reg with listeners := reg.listeners.add id listener })

def unlistenToRegistry (r : RegistryRef) (id : ListenerId) (w : World L S) : Bool × World L S :=
  let (wasThere, listeners) := (w.registry r).listeners.remove id
  (wasThere, w.setRegistry r fun reg => { reg with listeners })

def listenToNodes (r : RegistryRef) (listener : L) (w : World L S) : ListenerId × World L S :=
  let (id, w) := w.freshListener
  (id, w.setRegistry r fun reg => { reg with nodeListeners := reg.nodeListeners.add id listener })

def unlistenToNodes (r : RegistryRef) (id : ListenerId) (w : World L S) : Bool × World L S :=
  let (wasThere, nodeListeners) := (w.registry r).nodeListeners.remove id
  (wasThere, w.setRegistry r fun reg => { reg with nodeListeners })

end Courier.World
