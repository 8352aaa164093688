import Courier.Play.Store
import Courier.Play.Wires

/-!
# Courier — the stage of a play

A play is performed step by step. Whatever a step brings about on the network happens before the
next step: bytes are carried from one end of a stream to the other, peers are let in, frames are
read and scripted peers act, until nothing is left to be done.

* `Stage` — all that a play knows;
* `Stage.flow` — lets everything happen that a step has brought about.
-/

namespace Courier.Play

/-- What a scripted peer does. -/
inductive Cue where
  /-- It takes a frame. -/
  | take
  | bytes (bytes : Bytes)
  | envelope (e : Envelope)
  /-- It writes nothing more. -/
  | finish
deriving DecidableEq

/-- A peer that is not a node. -/
structure Peer where
  socket : Socket
  /-- It writes nothing more. -/
  finished : Bool
  /-- What it still does on its own. -/
  script : List Cue
  /-- The frames that it took on its own. -/
  taken : List (Except NetworkError (Option Received))

namespace Peer

/-- Writes bytes as they are. -/
def write (bytes : Bytes) (p : Peer) : Peer :=
  let sink := p.socket.stream.sink
  { p with socket := p.socket.withSink { sink with written := sink.written ++ bytes } }

/-- Writes the frame of an envelope. -/
def writeEnvelope (e : Envelope) (p : Peer) : Peer :=
  { p with socket := (p.socket.send e).2 }

/-- A peer can go on with its script. -/
def isCued (p : Peer) : Bool :=
  match p.script with
  | [] => false
  | .take :: _ => p.socket.isReady
  | _ => true

/-- A peer goes on with its script. -/
def act (p : Peer) : Peer :=
  match p.script with
  | [] => p
  | .take :: rest =>
    if p.socket.isReady then
      let (outcome, socket) := p.socket.receive
      { p with socket, script := rest, taken := p.taken ++ [outcome] }
    else p
  | .bytes bytes :: rest => { p.write bytes with script := rest }
  | .envelope e :: rest => { p.writeEnvelope e with script := rest }
  | .finish :: rest => { p with finished := true, script := rest }

end Peer

/-- A dial whose peer has not answered yet. -/
structure PendingDial where
  /-- The name under which it is asked for later, if it is in the background. -/
  name : Option String
  node : NodeRef
  dial : World.Dial

/-- A delivery to a listener of a service. -/
structure Delivery where
  listener : String
  payload : Payload
  sender : Option VerifyingKey

/-- A service on the stage. -/
structure Office where
  service : MailService String
  store : Option String
  /-- It was dropped, and hears of nothing. -/
  dropped : Bool
  /-- The handle of the listener that was last added under each name, and whether it is
  confidential. -/
  handles : List (String × Bool × ListenerId)
  /-- What its listeners got and has not been asked for. -/
  deliveries : List Delivery
  /-- The statuses that it reported and has not been asked for. -/
  reports : List (String × DeliveryStatus)

/-- All that a play knows. -/
structure Stage where
  world : World Watcher Wires
  registries : List (String × RegistryRef)
  /-- The ban lists by registries. -/
  bans : List (RegistryRef × BanList)
  /-- The registries that do not look at their ban lists. -/
  lenient : List RegistryRef
  /-- The nodes that were seen last, by their ids. -/
  known : List ((RegistryRef × String) × NodeRef)
  /-- The handles of the recorders that are attached. -/
  nodeRecorders : List (RegistryRef × ListenerId)
  registryRecorders : List (RegistryRef × ListenerId)
  /-- The number of calls that were reported, by registries. -/
  reported : List (RegistryRef × Nat)
  labels : List (String × ConnectionRef)
  peers : List (String × Peer)
  scripts : List (String × List Cue)
  /-- Streams to nodes on which no handshake has arrived yet. -/
  arriving : List (NodeRef × Socket × Address)
  dials : List PendingDial
  dialed : List (Option String × Except NetworkError ConnectionRef)
  stores : List (String × Store)
  offices : List (String × Office)
  /-- The number of calls that services have heard of. -/
  heard : Nat
  /-- The number of messages that were sealed. -/
  sealedCount : Nat

namespace Stage

def start (reachable : Bool) : Stage where
  world := .start (.start reachable)
  registries := []
  bans := []
  lenient := []
  known := []
  nodeRecorders := []
  registryRecorders := []
  reported := []
  labels := []
  peers := []
  scripts := []
  arriving := []
  dials := []
  dialed := []
  stores := []
  offices := []
  heard := 0
  sealedCount := 0

/-- Puts a value under a key, in place of the one that it has. -/
def put {κ α : Type} [BEq κ] (key : κ) (value : α) (entries : List (κ × α)) : List (κ × α) :=
  if (entries.lookup key).isSome then
    entries.map fun e => if e.1 == key then (key, value) else e
  else entries ++ [(key, value)]

/-! ## Streams -/

/-- The other end of a stream. -/
def farEnd (number : Nat) : Nat := if number % 2 = 0 then number + 1 else number - 1

def mapSockets (f : Socket → Socket) (s : Stage) : Stage :=
  { s with
    world := { s.world with
      connections := s.world.connections.map fun c => { c with socket := f c.socket }
      outside := { s.world.outside with hungUp := s.world.outside.hungUp.map f } }
    peers := s.peers.map fun (name, p) => (name, { p with socket := f p.socket })
    arriving := s.arriving.map fun (n, socket, origin) => (n, f socket, origin)
    dials := s.dials.map fun d => { d with dial := { d.dial with socket := f d.dial.socket } } }

/-- All sockets, and whether they write nothing more. -/
def sockets (s : Stage) : List (Socket × Bool) :=
  s.world.connections.map (fun c => (c.socket, c.socket.closed))
    ++ s.world.outside.hungUp.map (fun socket => (socket, true))
    ++ s.peers.map (fun (_, p) => (p.socket, p.finished || p.socket.closed))
    ++ s.arriving.map (fun (_, socket, _) => (socket, socket.closed))
    ++ s.dials.map (fun d => (d.dial.socket, d.dial.socket.closed))

/-- What has been written and not carried, by the end that it is written to, and whether nothing
more follows. -/
def underway (s : Stage) : List (Nat × Bytes × Bool) :=
  s.sockets.map fun (socket, ended) =>
    (farEnd socket.stream.number, socket.stream.sink.written, ended)

/-- Carries what was written from one end of each stream to the other. -/
def carry (s : Stage) : Stage :=
  let underway := s.underway
  s.mapSockets fun socket =>
    let socket := socket.takeWritten.2
    match underway.lookup socket.stream.number with
    | none => socket
    | some (bytes, ended) =>
      let socket := socket.arrive bytes
      if ended then socket.finish else socket

/-- A carried stream would bring something new. -/
def isUnderway (s : Stage) : Bool :=
  let ends := s.sockets
  s.underway.any fun (number, bytes, ended) =>
    ends.any fun (socket, _) =>
      socket.stream.number = number && (!bytes.isEmpty || (ended && !socket.isFinished))

/-! ## What nodes and peers do on their own -/

/-- The running node of an id in a registry. -/
def serving? (r : RegistryRef) (id : String) (s : Stage) : Option NodeRef :=
  (s.world.nodes.findIdx? fun n => n.registry = r && n.id == id && n.server.isSome).map .mk

/-- Opened streams come to those who serve them. -/
def answerOpenings (s : Stage) : Stage :=
  let wires := s.world.outside
  let s := { s with world := { s.world with outside := { wires with openings := [] } } }
  wires.openings.foldl
    (fun s o =>
      match o.server with
      | .node r id =>
        match s.serving? r id with
        | none => s
        | some n =>
          let max := (s.world.node n).settings.maxFrameSize.toNat
          { s with arriving := s.arriving ++ [(n, .onStream o.stream max, o.origin)] }
      | .peer name =>
        let peer : Peer :=
          ⟨.onStream o.stream defaultMaxFrameSize.toNat, false,
            (s.scripts.lookup name).getD [], []⟩
        { s with peers := put name peer s.peers }) s

/-- Nodes let in those whose first frame has arrived. -/
def letIn (s : Stage) : Stage :=
  let ready := s.arriving.filter fun (_, socket, _) => socket.isReady
  let s := { s with arriving := s.arriving.filter fun (_, socket, _) => !socket.isReady }
  ready.foldl
    (fun s (n, socket, origin) =>
      { s with world := s.world.accept surroundings note n socket.stream (some origin) }) s

/-- The node in whose table a connection stands. -/
def tableOwner? (c : ConnectionRef) (s : Stage) : Option NodeRef :=
  (s.world.nodes.findIdx? fun n => n.table.contains c).map .mk

/-- The connections on which something has arrived, with their nodes. -/
def readable (s : Stage) : List (NodeRef × ConnectionRef) :=
  (List.range s.world.connections.length).filterMap fun i =>
    let c : ConnectionRef := ⟨i⟩
    let conn := s.world.connection c
    if conn.isClosed || !conn.socket.isReady then none
    else (s.tableOwner? c).map fun n => (n, c)

/-- Nodes read what has arrived. -/
def readConnections (s : Stage) : Stage :=
  { s with
    world := s.readable.foldl (fun w (n, c) => w.readAll surroundings note n c) s.world }

/-- Dials in the background are finished when the peer has answered. -/
def finishDials (s : Stage) : Stage :=
  let ready := s.dials.filter fun d => d.dial.socket.isReady
  let s := { s with dials := s.dials.filter fun d => !d.dial.socket.isReady }
  ready.foldl
    (fun s d =>
      let (outcome, world) := s.world.finishDial surroundings note d.node d.dial
      { s with world, dialed := s.dialed ++ [(d.name, outcome)] }) s

def actPeers (s : Stage) : Stage :=
  { s with peers := s.peers.map fun (name, p) => (name, p.act) }

/-! ## What services do -/

def setOffice (name : String) (f : Office → Office) (s : Stage) : Stage :=
  { s with offices := s.offices.map fun e => if e.1 = name then (name, f e.2) else e }

def setStore (name : String) (f : Store → Store) (s : Stage) : Stage :=
  { s with stores := s.stores.map fun e => if e.1 = name then (name, f e.2) else e }

/-- Does what a service does to others, apart from what follows when its store gets an entry. -/
def carryOut (office : String) (s : Stage) (call : MailCall String) : Stage :=
  let store := (s.offices.lookup office).bind (·.store)
  match call with
  | .add entry _ _ => (store.map fun name => s.setStore name (Store.keep entry)).getD s
  | .remove entry owner => (store.map fun name => s.setStore name (Store.remove entry owner)).getD s
  | .report id status =>
    s.setOffice office fun o => { o with reports := o.reports ++ [(id, status)] }
  | .deliver listener payload =>
    s.setOffice office fun o => { o with deliveries := o.deliveries ++ [⟨listener, payload, none⟩] }
  | .deliverFrom listener payload sender =>
    s.setOffice office fun o =>
      { o with deliveries := o.deliveries ++ [⟨listener, payload, some sender⟩] }

/-- Announces an entry to services. -/
def announce (entry : MailboxEntry) (audience : List String) (s : Stage) : Stage :=
  audience.foldl
    (fun s name =>
      match s.offices.lookup name with
      | some o =>
        if o.dropped then s
        else (Inbox.receive o.service (.entryAdded entry)).calls.foldl (carryOut name) s
      | none => s) s

/-- Does what a service does to others. A store announces its new entries. -/
def carryOutAll (office : String) (calls : List (MailCall String)) (s : Stage) : Stage :=
  calls.foldl
    (fun s call =>
      let s := s.carryOut office call
      match call with
      | .add entry _ _ =>
        match ((s.offices.lookup office).bind (·.store)).bind (s.stores.lookup ·) with
        | some store => s.announce entry store.audience
        | none => s
      | _ => s) s

/-- Services hear of the messages that nodes received. -/
def hearMail (s : Stage) : Stage :=
  let calls := s.world.calls.drop s.heard
  let s := { s with heard := s.world.calls.length }
  calls.foldl
    (fun s call =>
      match call.listener, call.event with
      | .mail name, .message payload _ _ =>
        match s.offices.lookup name with
        | some o =>
          if o.dropped then s
          else s.carryOutAll name (Inbox.receive o.service (.nodePayload payload)).calls
        | none => s
      | _, _ => s) s

/-! ## Flow -/

/-- Nothing is left to be done. -/
def isQuiet (s : Stage) : Bool :=
  s.world.outside.openings.isEmpty && !s.isUnderway
    && s.arriving.all (fun (_, socket, _) => !socket.isReady) && s.readable.isEmpty
    && s.dials.all (fun d => !d.dial.socket.isReady) && s.peers.all (fun (_, p) => !p.isCued)
    && s.heard = s.world.calls.length

/-- Everyone does what there is to be done, once. -/
def round (s : Stage) : Stage :=
  s.answerOpenings.carry.letIn.readConnections.finishDials.actPeers.hearMail

/-- Goes on until nothing is left to be done, for at most so many rounds. -/
def flowFor : Nat → Stage → Stage
  | 0, s => s
  | k + 1, s => if s.isQuiet then s else flowFor k s.round

/-- Lets everything happen that a step has brought about. -/
def flow (s : Stage) : Stage := flowFor 10000 s

end Stage

end Courier.Play
