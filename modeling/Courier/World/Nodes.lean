import Courier.World.Surroundings

/-!
# Courier — nodes

A node is started once, opens connections and lets in peers while it runs, and is shut down once.
Either side of a connection first sends its handshake. Whatever the node does with its connections,
its listeners hear of it; `call` is what calling a listener does to the world.

* `World.startNode`, `World.shutDownNode` — the life of a node;
* `World.connectNode` — the open connection to an address, or a new one;
* `World.accept` — lets in a peer;
* `World.readNext` — takes the next frame from a connection;
* `World.sendOn`, `World.closeConnection` — writing to and closing a connection.
-/

namespace Courier.World

variable {L S : Type} (env : Surroundings L S) (call : L → Event → World L S → World L S)

/-! ## Telling listeners -/

/-- Tells listeners of an event, one after the other (`for_each`). -/
def tell (listeners : List L) (e : Event) (w : World L S) : World L S :=
  listeners.foldl (fun w l => call l e w) w

/-- A registry tells those who listen to it that a node has joined or left (`on_node_added`,
`on_node_removed`). -/
def announce (r : RegistryRef) (e : Event) (w : World L S) : World L S :=
  let listeners := (w.registry r).listeners.snapshot
  tell call listeners e (w.record (.registryTold r e listeners))

/-- A registry forgets the node of an id. -/
def dropNode (r : RegistryRef) (id : String) (w : World L S) : World L S :=
  w.setRegistry r fun reg => { reg with nodes := reg.nodes.filter fun e => e.1 ≠ id }

/-- A registry gives up a node that has shut down, unless another node has taken its id
(`on_node_shutdown`). -/
def giveUp (r : RegistryRef) (n : NodeRef) (w : World L S) : World L S :=
  let id := (w.node n).id
  if (w.registry r).find id = some n then announce call r (.nodeRemoved n) (w.dropNode r id)
  else w

/-- A registry hears of an event of one of its nodes, and passes it on. -/
def registryHears (r : RegistryRef) (e : Event) (w : World L S) : World L S :=
  let listeners := (w.registry r).nodeListeners.snapshot
  let w := tell call listeners e (w.record (.registryTold r e listeners))
  match e with
  | .shutDown n => giveUp call r n w
  | _ => w

/-- Tells these listeners of a node of an event. -/
def hear (n : NodeRef) (listeners : List (NodeListener L)) (e : Event) (w : World L S) :
    World L S :=
  let r := (w.node n).registry
  listeners.foldl
    (fun w l =>
      match l with
      | .registry => registryHears call r e w
      | .own l => call l e w) w

/-- Tells all listeners of a node of an event (`for_each`). -/
def raise (n : NodeRef) (e : Event) (w : World L S) : World L S :=
  let node := w.node n
  let listeners := node.listeners.snapshot
  hear call n listeners e (w.record (.nodeTold n node.registry e listeners))

/-! ## Closing and writing -/

/-- Marks a connection as closed and takes it out of the table; tells whether it was there
(`remove`). -/
def takeOut (n : NodeRef) (c : ConnectionRef) (reason : CloseReason) (w : World L S) :
    Bool × World L S :=
  let w := (w.setConnection c fun conn => (conn.markClosed reason).2).record (.closed n c reason)
  let (wasThere, table) := (w.node n).table.remove w.isOpen c (w.connection c).peerAddress
  (wasThere, w.setNode n fun node => { node with table })

/-- Closes a connection (`close_connection`). Nothing happens to a connection of another node, and
the listeners hear of it once, when the connection leaves the table. -/
def closeConnection (n : NodeRef) (c : ConnectionRef) (reason : CloseReason) (w : World L S) :
    World L S :=
  if !w.owns n c then w
  else
    let (wasThere, w) := w.takeOut n c reason
    if wasThere then
      raise call n (.disconnected c ((w.connection c).closeReason.getD reason)) w
    else w

/-- Writes a payload to a connection of the node (`send_on`). A connection that was not written to
is closed. -/
def sendOn (n : NodeRef) (payload : Payload) (c : ConnectionRef) (w : World L S) :
    Except NetworkError ConnectionRef × World L S :=
  let conn := w.connection c
  let node := w.node n
  if !w.owns n c then
    (.error (.connectionFailed
      s!"connection {conn.id} belongs to node {conn.nodeId}, not {node.id}"), w)
  else
    let (outcome, conn) := conn.send env.timing payload
    let w := w.setConnection c fun _ => conn
    match outcome with
    | .ok _ => (.ok c, w)
    | .error e => (.error e, closeConnection call n c .writeError w)

/-- Sends a probe on a connection (`ping`). -/
def ping (c : ConnectionRef) (nonce : UInt64) (w : World L S) :
    Except NetworkError UInt64 × World L S :=
  let (outcome, conn) := (w.connection c).ping env.timing nonce
  (outcome, w.setConnection c fun _ => conn)

/-! ## New connections -/

/-- The handshake in the first frame of a peer (`accept_handshake`). -/
def peerHandshake (r : Received) : Except NetworkError Handshake :=
  match r.envelope.payload with
  | .handshake h =>
    if h.version = protocolVersion then .ok h
    else .error (.handshakeFailed s!"unsupported protocol version {h.version}")
  | p => .error (.handshakeFailed s!"expected handshake, got {p.kind}")

/-- Puts a connection into the table (`insert`). -/
def takeIn (n : NodeRef) (c : ConnectionRef) (w : World L S) : World L S :=
  w.setNode n fun node =>
    { node with table := node.table.insert w.isOpen c (w.connection c).peerAddress }

/-- Takes up a connection, if the node still runs (`register`). -/
def register (n : NodeRef) (c : ConnectionRef) (w : World L S) :
    Except NetworkError Unit × World L S :=
  let node := w.node n
  if node.state = .starting ∨ node.state = .running then
    (.ok (), raise call n (.connected c) (w.takeIn n c))
  else
    (.error (.notInitialized node.id),
      w.setConnection c fun conn => (conn.markClosed .shutdown).2)

/-- The beginning of a connection over a socket. -/
def newConnection (n : NodeRef) (peerAddress : Address) (peer : Handshake) (direction : Direction)
    (socket : Socket) (w : World L S) : Connection :=
  .fresh (env.connectionId w.connections.length) (w.node n).id peerAddress (some peer.nodeId)
    direction socket

def isBanned (n : NodeRef) (a : Address) (w : World L S) : Bool :=
  (w.registry (w.node n).registry).bans.isBanned a

/-- A stream is given up. -/
def hangUp (socket : Socket) (w : World L S) : World L S :=
  { w with outside := env.hangUp socket w.outside }

/-- The connection with a peer that has come on a stream, or the socket that is to be given up; the
first half of `handle_inbound`. The peer has to open with a handshake, and may not be banned under
the address that it gives, or that it comes from if it gives none. -/
def greet (n : NodeRef) (stream : StreamEnd) (origin : Option Address) (w : World L S) :
    Except Socket Connection :=
  let node := w.node n
  let socket := Socket.onStream stream node.settings.maxFrameSize.toNat
  if node.settings.handshakeTimeoutMs = 0 then .error socket
  else
    match socket.receive with
    | (.ok (some r), socket) =>
      match peerHandshake r with
      | .error _ => .error socket
      | .ok peer =>
        match peer.address <|> origin with
        | none => .error socket
        | some peerAddress =>
          if w.isBanned n peerAddress then .error socket
          else
            .ok ((w.newConnection env n peerAddress peer .inbound socket).countReceived r.size
              env.timing)
    | (_, socket) => .error socket

/-- Answers the handshake of a peer that may come in, and takes up the connection; the second half of
`handle_inbound`. -/
def welcome (n : NodeRef) (conn : Connection) (w : World L S) : World L S :=
  let (c, w) := w.addConnection conn
  let (outcome, conn) := conn.send env.timing (.handshake (w.node n).handshake)
  let w := w.setConnection c fun _ => conn
  match outcome with
  | .ok _ => (register call n c w).2
  | .error _ => w.setConnection c fun conn => (conn.markClosed .writeError).2

/-- Lets in a peer, or gives up the stream on which it has come (`handle_inbound`). -/
def accept (n : NodeRef) (stream : StreamEnd) (origin : Option Address) (w : World L S) :
    World L S :=
  match w.greet env n stream origin with
  | .error socket => w.hangUp env socket
  | .ok conn => welcome env call n conn w

/-! ## Dialing -/

/-- A connection that is being opened: the own handshake was sent, and that of the peer is waited
for. -/
structure Dial where
  address : Address
  socket : Socket
  /-- The size of the handshake that was sent. -/
  sentSize : Nat
deriving DecidableEq, Repr, Inhabited

/-- How looking for a connection begins. -/
inductive DialStart where
  | found (c : ConnectionRef)
  /-- Someone else is opening a connection to the same address. -/
  | waits
  | opened (dial : Dial)
  | failed (e : NetworkError)
deriving DecidableEq, Repr

/-- Opens a stream and sends the handshake; the first half of `connect`. -/
def openStream (n : NodeRef) (a : Address) (w : World L S) :
    Except NetworkError Dial × World L S :=
  let node := w.node n
  if w.isBanned n a then (.error (.banned a.text), w)
  else
    let (stream, outside) := env.dial node.registry a node.settings.connectTimeoutMs w.outside
    let w := { w with outside }
    match stream with
    | .error e => (.error e, w)
    | .ok stream =>
      let socket := Socket.onStream stream node.settings.maxFrameSize.toNat
      match Socket.checkTimeout (some node.settings.handshakeTimeoutMs.toNat) with
      | .error e => (.error e, w.hangUp env socket)
      | .ok _ =>
        match socket.send (.ofPayload (.handshake node.handshake)) with
        | (.error e, socket) => (.error e, w.hangUp env socket)
        | (.ok sentSize, socket) => (.ok ⟨a, socket, sentSize⟩, w)

/-- A dial is over. -/
def endDial (n : NodeRef) (a : Address) (w : World L S) : World L S :=
  w.setNode n fun node => { node with dials := node.dials.filter (· ≠ a) }

/-- Finds the open connection to an address, or begins to open one (`get_connection`). -/
def beginDial (n : NodeRef) (a : Address) (w : World L S) : DialStart × World L S :=
  match w.findConnection n a with
  | some c => (.found c, w)
  | none =>
    let node := w.node n
    if !node.isRunning then (.failed (.notInitialized node.id), w)
    else if a ∈ node.dials then (.waits, w)
    else
      let w := w.setNode n fun node => { node with dials := node.dials ++ [a] }
      match openStream env n a w with
      | (.error e, w) => (.failed e, w.endDial n a)
      | (.ok dial, w) => (.opened dial, w)

/-- The connection with the peer of a dial, or why there is none and the socket that is to be given
up. The peer has to answer with its handshake, before `connect` goes on. -/
def answered (n : NodeRef) (dial : Dial) (w : World L S) :
    Except (NetworkError × Socket) Connection :=
  match dial.socket.receive with
  | (.error e, socket) => .error (e, socket)
  | (.ok none, socket) =>
    .error (.handshakeFailed s!"{dial.address.text} closed during handshake", socket)
  | (.ok (some r), socket) =>
    match peerHandshake r with
    | .error e => .error (e, socket)
    | .ok peer =>
      .ok (((w.newConnection env n dial.address peer .outbound socket).countSent
        dial.sentSize env.timing).countReceived r.size env.timing)

/-- Starts to read from a connection that was taken up (`spawn_reader`). One that nobody can read
from is closed again. -/
def startReader (n : NodeRef) (c : ConnectionRef) (w : World L S) :
    Except NetworkError ConnectionRef × World L S :=
  let (started, outside) := env.startReader c w.outside
  let w := { w with outside }
  match started with
  | .ok _ => (.ok c, w)
  | .error reason => (.error (.failedIo reason), closeConnection call n c .readError w)

/-- Takes the handshake of the peer, and with it the connection; the second half of `connect`. -/
def receiveReply (n : NodeRef) (dial : Dial) (w : World L S) :
    Except NetworkError ConnectionRef × World L S :=
  match w.answered env n dial with
  | .error (e, socket) => (.error e, w.hangUp env socket)
  | .ok conn =>
    let (c, w) := w.addConnection conn
    match register call n c w with
    | (.error e, w) => (.error e, w)
    | (.ok _, w) => startReader env call n c w

/-- Ends a dial with what the peer has answered. -/
def finishDial (n : NodeRef) (dial : Dial) (w : World L S) :
    Except NetworkError ConnectionRef × World L S :=
  let (outcome, w) := receiveReply env call n dial w
  (outcome, w.endDial n dial.address)

/-- The open connection to an address, or a new one. While another dial to the address holds its
lock, `get_connection` blocks and comes to no result. Acts follow each other here and none can wait
for another one, so that in this case alone the act ends with `.timeout`, which stands for a call
that has not returned. -/
def connectNode (n : NodeRef) (a : Address) (w : World L S) :
    Except NetworkError ConnectionRef × World L S :=
  match beginDial env n a w with
  | (.found c, w) => (.ok c, w)
  | (.waits, w) => (.error .timeout, w)
  | (.failed e, w) => (.error e, w)
  | (.opened dial, w) => finishDial env call n dial w

/-- Sends a payload from a node (`send`). -/
def sendFrom (n : NodeRef) (payload : Payload) (target : Target) (w : World L S) :
    Except NetworkError ConnectionRef × World L S :=
  match target with
  | .connection c => sendOn env call n payload c w
  | .address a =>
    match connectNode env call n a w with
    | (.error e, w) => (.error e, w)
    | (.ok c, w) => sendOn env call n payload c w

/-! ## Reading -/

/-- Takes up what a peer has sent (`on_envelope`). Probes are answered; handshakes and probes do not
reach the listeners. -/
def onPayload (n : NodeRef) (c : ConnectionRef) (payload : Payload) (w : World L S) :
    World L S :=
  match payload with
  | .handshake _ => w
  | .ping p => (sendOn env call n (.pong ⟨p.nonce⟩) c w).2
  | .pong p => w.setConnection c fun conn => conn.onPong env.timing p
  | payload => raise call n (.message payload c (w.node n).id) w

/-- Takes the next frame from an open connection (`read_loop`). Nothing happens while no whole frame
has arrived. -/
def readNext (n : NodeRef) (c : ConnectionRef) (w : World L S) : World L S :=
  let conn := w.connection c
  if conn.isClosed || !conn.socket.isReady then w
  else
    let (outcome, conn) := conn.receive env.timing
    let w := w.setConnection c fun _ => conn
    match outcome with
    | .ok (some r) => onPayload env call n c r.envelope.payload w
    | .ok none => closeConnection call n c .closedByPeer w
    | .error _ => closeConnection call n c .readError w

/-- Takes up to `k` frames from a connection. -/
def readMany (n : NodeRef) (c : ConnectionRef) : Nat → World L S → World L S
  | 0, w => w
  | k + 1, w => readMany n c k (readNext env call n c w)

/-- Takes all frames that have arrived on a connection, none of which is shorter than a byte, and
then the end of the stream, if it has come. -/
def readAll (n : NodeRef) (c : ConnectionRef) (w : World L S) : World L S :=
  let source := (w.connection c).socket.stream.source
  readMany env call n c (source.data.length + source.plan.length + 1) w

/-! ## Beginning and end -/

def setState (n : NodeRef) (state : NodeState) (w : World L S) : World L S :=
  w.setNode n fun node => { node with state }

/-- Binds the server of a node (`start_server`). On a running node this changes nothing. -/
def startNode (n : NodeRef) (port : UInt16) (w : World L S) :
    Except NetworkError Unit × World L S :=
  let node := w.node n
  match node.state with
  | .running => (.ok (), w)
  | .stopping | .terminated =>
    (.error (.notInitialized s!"{node.id} has been shut down"), w)
  | .new | .starting =>
    let w := w.setState n .starting
    let (bound, outside) := env.bind node.registry node.id port w.outside
    let w := { w with outside }
    match bound with
    | .ok a =>
      (.ok (), w.setNode n fun node =>
        { node with server := some a, address := some a, state := .running })
    | .error e => (.error e, w.setState n .new)

/-- How far the shutdown of a node has come. -/
inductive TearDown (L : Type) where
  /-- It was begun before. -/
  | already
  /-- The server does not stop. -/
  | stuck
  /-- All is closed, and these listeners are to be told. -/
  | closed (listeners : List (NodeListener L))

/-- Stops the server of a node (`stop`). -/
def stopServer (n : NodeRef) (w : World L S) : Bool × World L S :=
  match (w.node n).server with
  | none => (true, w)
  | some a =>
    let w := w.setNode n fun node => { node with server := none }
    let (stopped, outside) := env.stopServer a w.outside
    (stopped, { w with outside })

/-- The life of a node is over, and nobody waits for a connection any more. -/
def terminate (n : NodeRef) (w : World L S) : World L S :=
  w.setNode n fun node => { node with dials := [], state := .terminated }

/-- Stops the server of a node and closes all its connections. -/
def tearDown (n : NodeRef) (w : World L S) : TearDown L × World L S :=
  let state := (w.node n).state
  if state = .stopping ∨ state = .terminated then (.already, w)
  else
    match stopServer env n (w.setState n .stopping) with
    | (false, w) => (.stuck, w)
    | (true, w) =>
      let w := (w.node n).table.toList.foldl (fun w c => closeConnection call n c .shutdown w) w
      let w := w.terminate n
      (.closed (w.node n).listeners.snapshot, w)

/-- A node lets go of its listeners. -/
def dropListeners (n : NodeRef) (w : World L S) : World L S :=
  w.setNode n fun node => { node with listeners := .empty }

/-- Tells listeners that a node has shut down, and lets go of them. -/
def announceShutdown (n : NodeRef) (listeners : List (NodeListener L)) (w : World L S) :
    World L S :=
  let w := w.record (.nodeTold n (w.node n).registry (.shutDown n) listeners)
  (hear call n listeners (.shutDown n) w).dropListeners n

/-- Shuts a node down; nothing, if that never ends (`shutdown_blocking`). -/
def shutDownNode (n : NodeRef) (w : World L S) : Option Bool × World L S :=
  match tearDown env call n w with
  | (.already, w) => (some true, w)
  | (.stuck, w) => (none, w)
  | (.closed listeners, w) => (some true, announceShutdown call n listeners w)

/-! ## Listeners of a node -/

def listen (n : NodeRef) (listener : L) (w : World L S) : ListenerId × World L S :=
  let (id, w) := w.freshListener
  (id, w.setNode n fun node => { node with listeners := node.listeners.add id (.own listener) })

def unlisten (n : NodeRef) (id : ListenerId) (w : World L S) : Bool × World L S :=
  let (wasThere, listeners) := (w.node n).listeners.remove id
  (wasThere, w.setNode n fun node => { node with listeners })

end Courier.World
