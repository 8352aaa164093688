import Courier.Play.Notes

/-!
# Courier — the steps of a play

What a play does with registries, nodes, connections and scripted peers. Every step leaves the stage
quiet.

* `Stage.openRegistry`, `Stage.node`, `Stage.startNode` — registries and their nodes;
* `Stage.connect`, `Stage.send`, `Stage.close` — connections;
* `Stage.shutDownNode`, `Stage.shutDownRegistry`, `Stage.release` — the end of nodes;
* `Stage.connectPeer` and the like — scripted peers.
-/

namespace Courier.Play.Stage

def setWorld (s : Stage) (world : World Watcher Wires) : Stage := { s with world }

/-! ## Registries -/

/-- Sets up a registry with its recorders. -/
def openRegistry (name : String) (settings : RegistrySettings) (site : Site) (lenient : Bool)
    (s : Stage) : Stage :=
  let transport := match site with
    | .host template => Transport.ofHost template
    | .machine _ => .clearNet
  let (r, w) := s.world.addRegistry (.fresh settings transport)
  let w := { w with outside := { w.outside with sites := (r, site) :: w.outside.sites } }
  let (registryHandle, w) := w.listenToRegistry r (.registry r)
  let (nodeHandle, w) := w.listenToNodes r (.nodes r)
  { s with
    world := w
    registries := put name r s.registries
    bans := put r .empty s.bans
    lenient := if lenient then r :: s.lenient else s.lenient
    registryRecorders := put r registryHandle s.registryRecorders
    nodeRecorders := put r nodeHandle s.nodeRecorders }

def bansOf (r : RegistryRef) (s : Stage) : BanList := (s.bans.lookup r).getD .empty

/-- Changes the ban list of a registry. -/
def setBans (r : RegistryRef) (bans : BanList) (s : Stage) : Stage :=
  let s := { s with bans := put r bans s.bans }
  if s.lenient.contains r then s
  else s.setWorld (s.world.setRegistry r fun reg => { reg with bans })

/-- Detaches the recorder of node events; whether it was attached. -/
def mute (r : RegistryRef) (s : Stage) : Bool × Stage :=
  match s.nodeRecorders.lookup r with
  | none => (false, s)
  | some handle =>
    let (wasThere, w) := s.world.unlistenToNodes r handle
    (wasThere, { s.setWorld w with nodeRecorders := s.nodeRecorders.filter fun e => e.1 ≠ r })

/-- Attaches a recorder of node events. -/
def listen (r : RegistryRef) (s : Stage) : Stage :=
  let (handle, w) := s.world.listenToNodes r (.nodes r)
  { s.setWorld w with nodeRecorders := put r handle s.nodeRecorders }

/-- Detaches the recorder of nodes that join and leave; whether it was attached. -/
def muteRegistry (r : RegistryRef) (s : Stage) : Bool × Stage :=
  match s.registryRecorders.lookup r with
  | none => (false, s)
  | some handle =>
    let (wasThere, w) := s.world.unlistenToRegistry r handle
    (wasThere,
      { s.setWorld w with registryRecorders := s.registryRecorders.filter fun e => e.1 ≠ r })

/-! ## Nodes -/

/-- The node of this id that was seen last. -/
def known? (r : RegistryRef) (id : String) (s : Stage) : Option NodeRef :=
  s.known.lookup (r, id) <|> s.world.findNode r id

/-- A node is seen: whether it is the one that was seen under its id before, if there was one. -/
def see (r : RegistryRef) (id : String) (n : NodeRef) (s : Stage) : Option Bool × Stage :=
  ((s.known.lookup (r, id)).map (· = n), { s with known := put (r, id) n s.known })

/-- The node of an id, which is created if there is none. -/
def node (r : RegistryRef) (id : String) (s : Stage) : Except NetworkError NodeRef × Stage :=
  let (outcome, w) := s.world.nodeOf note r id
  (outcome, (s.setWorld w).flow)

/-- Starts the node of an id. -/
def startNode (r : RegistryRef) (id : String) (port : UInt16) (s : Stage) :
    Except NetworkError NodeRef × Stage :=
  let (outcome, w) := s.world.startIn surroundings note r id port
  (outcome, (s.setWorld w).flow)

/-- Starts a node. -/
def startKnown (n : NodeRef) (port : UInt16) (s : Stage) : Except NetworkError Unit × Stage :=
  let (outcome, w) := s.world.startNode surroundings n port
  (outcome, (s.setWorld w).flow)

/-! ## Connections -/

/-- Opens a connection, or finds it, and lets the peer answer. -/
def connectKnown (n : NodeRef) (a : Address) (s : Stage) :
    Except NetworkError ConnectionRef × Stage :=
  match s.world.beginDial surroundings n a with
  | (.found c, w) => (.ok c, s.setWorld w)
  | (.failed e, w) => (.error e, (s.setWorld w).flow)
  | (.waits, w) => (.error .timeout, s.setWorld w)
  | (.opened dial, w) =>
    let s := flow { s.setWorld w with dials := s.dials ++ [⟨none, n, dial⟩] }
    match s.dialed.lookup none with
    | some outcome => (outcome, { s with dialed := s.dialed.filter (·.1.isSome) })
    | none =>
      -- The peer has not answered, and never will.
      let dial := ((s.dials.find? (·.name.isNone)).map (·.dial)).getD dial
      let s := { s with dials := s.dials.filter (·.name.isSome) }
      let (outcome, w) := s.world.finishDial surroundings note n dial
      (outcome, (s.setWorld w).flow)

/-- The connection of the node of an id to an address. -/
def connect (r : RegistryRef) (id : String) (a : Address) (s : Stage) :
    Except NetworkError ConnectionRef × Stage :=
  match s.node r id with
  | (.error e, s) => (.error e, s)
  | (.ok n, s) => s.connectKnown n a

/-- Begins a dial in the background. -/
def beginConnect (name : String) (n : NodeRef) (a : Address) (s : Stage) : Stage :=
  match s.world.beginDial surroundings n a with
  | (.found c, w) => { s.setWorld w with dialed := s.dialed ++ [(some name, .ok c)] }
  | (.failed e, w) => flow { s.setWorld w with dialed := s.dialed ++ [(some name, .error e)] }
  | (.waits, w) => { s.setWorld w with dialed := s.dialed ++ [(some name, .error .timeout)] }
  | (.opened dial, w) => flow { s.setWorld w with dials := s.dials ++ [⟨some name, n, dial⟩] }

/-- The outcome of a dial in the background; one that is not over takes too long. -/
def joinConnect (name : String) (s : Stage) :
    Option (Except NetworkError ConnectionRef) × Stage :=
  match s.dialed.lookup (some name) with
  | some outcome =>
    (some outcome, { s with dialed := s.dialed.filter fun e => e.1 ≠ some name })
  | none =>
    match s.dials.find? (·.name = some name) with
    | none => (none, s)
    | some d =>
      let s := { s with dials := s.dials.filter (·.name ≠ some name) }
      let (outcome, w) := s.world.finishDial surroundings note d.node d.dial
      (some outcome, (s.setWorld w).flow)

/-- Sends a payload from a node. -/
def sendKnown (n : NodeRef) (payload : Payload) (target : Target) (s : Stage) :
    Except NetworkError ConnectionRef × Stage :=
  let sendOn (c : ConnectionRef) (s : Stage) :=
    let (outcome, w) := s.world.sendOn surroundings note n payload c
    (outcome, (s.setWorld w).flow)
  match target with
  | .connection c => sendOn c s
  | .address a =>
    match s.connectKnown n a with
    | (.error e, s) => (.error e, s)
    | (.ok c, s) => sendOn c s

/-- Sends a payload from the node of an id. -/
def send (r : RegistryRef) (id : String) (payload : Payload) (target : Target) (s : Stage) :
    Except NetworkError ConnectionRef × Stage :=
  match s.node r id with
  | (.error e, s) => (.error e, s)
  | (.ok n, s) => s.sendKnown n payload target

def close (n : NodeRef) (c : ConnectionRef) (reason : CloseReason) (s : Stage) : Stage :=
  (s.setWorld (s.world.closeConnection note n c reason)).flow

/-- Sends a probe with a nonce that was not used before. -/
def ping (c : ConnectionRef) (s : Stage) : Except NetworkError UInt64 × Stage :=
  let nonce := UInt64.ofNat (s.world.connection c).metrics.sent.totals.messages
  let (outcome, w) := s.world.ping surroundings c nonce
  (outcome, (s.setWorld w).flow)

def label (name : String) (c : ConnectionRef) (s : Stage) : Stage :=
  { s with labels := put name c s.labels }

/-! ## The end of nodes -/

/-- Shuts a node down. A listener that does not return keeps the shutdown from ending. -/
def shutDownNodeIn (n : NodeRef) (w : World Watcher Wires) : Option Bool × World Watcher Wires :=
  match w.tearDown surroundings note n with
  | (.already, w) => (some true, w)
  | (.stuck, w) => (none, w)
  | (.closed listeners, w) =>
    let told := listeners.takeWhile (· ≠ .own .hanging)
    let rest := listeners.dropWhile (· ≠ .own .hanging)
    if rest.isEmpty || w.outside.released then (some true, w.announceShutdown note n listeners)
    else
      let w := w.hear note n told (.shutDown n)
      (none,
        { w with outside := { w.outside with waiting := w.outside.waiting ++ [(n, rest)] } })

def shutDownNode (n : NodeRef) (s : Stage) : Option Bool × Stage :=
  let (outcome, w) := shutDownNodeIn n s.world
  (outcome, (s.setWorld w).flow)

def shutDownRegistry (r : RegistryRef) (s : Stage) : Bool × Stage :=
  let (outcome, w) := s.world.shutDownRegistryBy shutDownNodeIn r
  (outcome, (s.setWorld w).flow)

/-- Adds a listener to a node that does not return when the node shuts down. -/
def hang (n : NodeRef) (s : Stage) : Stage := s.setWorld (s.world.listen n .hanging).2

/-- Adds such a listener to a node and removes it twice; whether it was there. -/
def hangRemoved (n : NodeRef) (s : Stage) : List Bool × Stage :=
  let (handle, w) := s.world.listen n .hanging
  let (first, w) := w.unlisten n handle
  let (second, w) := w.unlisten n handle
  ([first, second], s.setWorld w)

/-- Listeners that did not return go on. -/
def release (s : Stage) : Stage :=
  let wires := s.world.outside
  let w := { s.world with outside := { wires with waiting := [], released := true } }
  let w := wires.waiting.foldl (fun w (n, listeners) => w.announceShutdown note n listeners) w
  (s.setWorld w).flow

/-! ## Scripted peers -/

/-- The address at which a peer itself is seen. -/
def peerAddress? (name : String) (s : Stage) : Option Address :=
  (s.peers.lookup name).map fun p => Wires.localAddress p.socket.stream.number

/-- A peer opens a stream to whoever serves an address. -/
def connectPeer (name : String) (a : Address) (s : Stage) : Option String × Stage :=
  let wires := s.world.outside
  match wires.served.lookup a <|> wires.machineServed.lookup a with
  | none => (some s!"no route to {a.text}", s)
  | some server =>
    if !wires.reachable then (some Wires.unreachable, s)
    else
      let (stream, outside) := wires.openTo server
      let peer : Peer := ⟨.onStream stream defaultMaxFrameSize.toNat, false, [], []⟩
      let s := s.setWorld { s.world with outside }
      (none, flow { s with peers := put name peer s.peers })

/-- A peer waits for one stream at an address and then follows a script. -/
def listenPeer (name : String) (a : Address) (script : List Cue) (s : Stage) :
    Except NetworkError Unit × Stage :=
  let (outcome, outside) := s.world.outside.serve a (.peer name)
  let s := s.setWorld { s.world with outside }
  match outcome with
  | .error e => (.error e, s)
  | .ok _ => (.ok (), { s with scripts := put name script s.scripts })

/-- A peer waits for a stream on which nobody has come. -/
def awaits (name : String) (s : Stage) : Bool :=
  (s.scripts.lookup name).isSome && (s.peers.lookup name).isNone

/-- Why there is no record of a peer that waits for a stream. -/
def nobodyCame : String := "timed out waiting on channel"

def setPeer (name : String) (f : Peer → Peer) (s : Stage) : Stage :=
  { s with peers := s.peers.map fun e => if e.1 = name then (name, f e.2) else e }

def peerWrites (name : String) (bytes : Bytes) (s : Stage) : Stage :=
  (s.setPeer name fun p => p.write bytes).flow

def peerSends (name : String) (e : Envelope) (s : Stage) : Stage :=
  (s.setPeer name fun p => p.writeEnvelope e).flow

def peerFinishes (name : String) (s : Stage) : Stage :=
  (s.setPeer name fun p => { p with finished := true }).flow

/-- A peer takes the next frame. -/
def peerReceives (name : String) (s : Stage) :
    Option (Except NetworkError (Option Received)) × Stage :=
  match s.peers.lookup name with
  | none => (none, s)
  | some p =>
    let (outcome, socket) := p.socket.receive
    (some outcome, s.setPeer name fun p => { p with socket })

end Courier.Play.Stage
