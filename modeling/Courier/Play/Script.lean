import Courier.Play.View

/-!
# Courier — the script of a play

A script is a list of steps. Registries, connections, peers, stores and services go by names that
the script gives to them, and nodes by the ids that they have in their registry.

* `Step` — what can be done;
* `Stage.perform` — does it, and shows what comes of it.
-/

namespace Courier.Play

/-- Where something is reached. -/
inductive Place where
  | address (a : Address)
  /-- The server of a node. -/
  | server (registry id : String)
  /-- The address at which a scripted peer is seen. -/
  | peer (name : String)

/-- Places are written as addresses, as `@registry/node` and as `raw:peer`. -/
def Place.parse (s : String) : Except Address.Fault Place :=
  match s.toList with
  | '@' :: rest =>
    .ok (.server (.ofList (rest.takeWhile (· ≠ '/')))
      (.ofList ((rest.dropWhile (· ≠ '/')).drop 1)))
  | 'r' :: 'a' :: 'w' :: ':' :: rest => .ok (.peer (.ofList rest))
  | _ => .address <$> Address.parse s

/-- Where a payload is sent. -/
inductive Aim where
  | place (p : Place)
  | connection (name : String)

inductive PortChoice where
  | port (p : UInt16)
  /-- The port of another node. -/
  | sameAs (id : String)

/-- What a step does with the node of an id. Some steps go through the registry, and create the node
if there is none; others are done on the node that was seen last. -/
inductive NodeStep where
  | get
  | getAtOnce (times : Nat)
  | start (port : PortChoice)
  | startSeen (port : PortChoice)
  | view
  | settings
  | find
  | debug
  | load
  | shutDown
  /-- Adds a listener that does not return from the shutdown until it is released. -/
  | hang
  | hangAndUnhang
  | connect (p : Place) (as : Option String)
  | connectAtOnce (p : Place) (times : Nat)
  | connectSeen (p : Place) (as : Option String)
  | beginConnect (dial : String) (p : Place)
  | findConnection (p : Place) (as : Option String)
  | send (payload : Payload) (aim : Aim) (as : Option String)
  | sendSeen (payload : Payload) (aim : Aim) (as : Option String)
  | close (connection : String) (reason : CloseReason)
  /-- Whether so many events of a kind have been noted. -/
  | wait (kind : String) (count : Nat)

inductive RegistryStep where
  | setUp (settings : RegistrySettings) (site : Site) (lenient : Bool)
  | view
  | debug
  | shutDown
  | mute
  | listen
  | muteRegistry
  | ban (p : Place)
  | unban (p : Place)
  | isBanned (p : Place)
  | events

inductive Count where
  | received
  | sent
  | roundTrips
  | closed

inductive ConnectionStep where
  | view
  | debug
  | ping
  | wait (what : Count) (count : Nat)

inductive PeerStep where
  | connect (p : Place)
  | listen (p : Place) (script : List Cue)
  | write (bytes : Bytes)
  | send (e : Envelope)
  | receive
  | finish
  /-- What it took by its script. -/
  | log

inductive OfficeStep where
  | setUp (registry : String) (keyPairs : List (String × KeyPair)) (store : Option String)
    (hasTracker workersRun : Bool)
  | addListener (listener : String) (confidential : Bool)
  | removeListener (listener : String) (fromOther : Bool)
  | send (payload : Payload) (aim : Aim) (receiver : PublicIdentity) (sender : KeyPair)
    (nodeId : String)
  | process (message : SealedMessage)
  | received
  | tracked
  | shutDown
  | drop

inductive StoreStep where
  | setUp (fails quiet : Bool)
  | publish (entry : MailboxEntry)
  /-- Its listeners are told of an entry again. -/
  | announce (index times : Nat)
  /-- Its listeners are told of data that is no entry. -/
  | announceOther
  | view

inductive Step where
  | registry (name : String) (step : RegistryStep)
  | node (registry id : String) (step : NodeStep)
  | connection (name : String) (step : ConnectionStep)
  | peer (name : String) (step : PeerStep)
  | office (name : String) (step : OfficeStep)
  | store (name : String) (step : StoreStep)
  | joinConnect (dial : String) (as : Option String)
  | release

/-- Why a step is not done. -/
inductive Refusal where
  /-- The step names something of this kind that is not there. -/
  | unknown (kind : String)
  | network (e : NetworkError)
  | mail (e : MailError)
  /-- A scripted peer cannot do it. -/
  | peer (reason : String)

namespace Refusal

def view : Refusal → View
  | unknown kind => .failure "BadInput" kind
  | network e => .ofNetworkError e
  | mail e => .ofMailError e
  | peer reason => .failure "Raw" reason

end Refusal

/-- Steps change the stage even where they fail. -/
abbrev Performance := ExceptT Refusal (StateM Stage)

namespace Stage

/-! ## Names -/

def lookUp {α : Type} (kind : String) (find : Stage → Option α) : Performance α := do
  match find (← get) with
  | some a => return a
  | none => throw (.unknown kind)

def registryNamed (name : String) : Performance RegistryRef :=
  lookUp "registry" fun s => s.registries.lookup name

def seenNode (r : RegistryRef) (id : String) : Performance NodeRef :=
  lookUp "node" (·.known? r id)

def connectionNamed (name : String) : Performance ConnectionRef :=
  lookUp "conn" fun s => s.labels.lookup name

def peerNamed (name : String) : Performance Peer :=
  lookUp "peer" fun s => s.peers.lookup name

def officeNamed (name : String) : Performance Office :=
  lookUp "service" fun s => s.offices.lookup name

def storeNamed (name : String) : Performance Store :=
  lookUp "store" fun s => s.stores.lookup name

/-- The address of the node of an id that was seen last. -/
def serverAddress (r : RegistryRef) (id : String) : Performance Address := do
  let n ← seenNode r id
  lookUp "address" fun s => (s.world.node n).address

/-- The address of a place that a step names. -/
def addressOf (p : Place) : Performance Address := do
  match p with
  | .address a => return a
  | .server registry id => serverAddress (← registryNamed registry) id
  | .peer name => lookUp "peer" (·.peerAddress? name)

def targetOf (aim : Aim) : Performance Target :=
  match aim with
  | .place p => return .address (← addressOf p)
  | .connection name => return .connection (← connectionNamed name)

def portOf (r : RegistryRef) (p : PortChoice) : Performance UInt16 :=
  match p with
  | .port p => pure p
  | .sameAs id => return (← serverAddress r id).port

/-! ## Doing and showing -/

/-- Changes the stage, which may fail on the network. -/
def attempt {α : Type} (f : Stage → Except NetworkError α × Stage) : Performance α := do
  match ← modifyGet f with
  | .ok a => return a
  | .error e => throw (.network e)

def change (f : Stage → Stage) : Performance View := do
  modify f
  return .done

/-- The node that a step has come by. -/
def showSeen (r : RegistryRef) (id : String) (n : NodeRef) : Performance View := do
  let same ← modifyGet (·.see r id n)
  return .record (("same_as_known", .orNothing .flag same) :: (← get).nodeFields n)

/-- The connection that a step has come by, which may get a name. -/
def showConnection (as : Option String)
    (fields : ConnectionRef → Stage → List (String × View)) (c : ConnectionRef) :
    Performance View := do
  let view := View.record (fields c (← get))
  match as with
  | some name => modify (·.label name c)
  | none => pure ()
  return view

/-- Does something several times: the results, apart from the failures. -/
def repeatedly {α : Type} (times : Nat) (f : Stage → Except NetworkError α × Stage) :
    Performance (List α) :=
  (List.range times).filterMapM fun _ => return (← modifyGet f).toOption

/-- How many results there are, and how many of them are the same as the first. -/
def tally {α : Type} [BEq α] (name : String) (results : List α) : View :=
  let same := match results with
    | [] => 0
    | first :: _ => results.count first
  .record [(name, .count results.length), ("same", .count same)]

def flagView (name : String) (b : Bool) : View := .record [(name, .flag b)]

def performNode (registry id : String) (step : NodeStep) : Performance View := do
  let r ← registryNamed registry
  match step with
  | .get => showSeen r id (← attempt (·.node r id))
  | .getAtOnce times => return tally "nodes" (← repeatedly times (·.node r id))
  | .start port =>
    let port ← portOf r port
    showSeen r id (← attempt (·.startNode r id port))
  | .startSeen port =>
    let n ← seenNode r id
    let port ← portOf r port
    attempt (·.startKnown n port)
    showSeen r id n
  | .view => return .record ((← get).nodeFields (← seenNode r id))
  | .settings =>
    let n ← seenNode r id
    return .text (NodeSettings.schema.toJson ((← get).world.node n).settings)
  | .find => return (← get).findView r id
  | .debug =>
    let n ← seenNode r id
    return .record [("debug", .text ((← get).world.node n).debugText)]
  | .load =>
    let n ← seenNode r id
    return .ofLoad ((← get).world.load n)
  | .shutDown =>
    let n ← seenNode r id
    return flagView "completed" ((← modifyGet (·.shutDownNode n)).getD false)
  | .hang => change (·.hang (← seenNode r id))
  | .hangAndUnhang =>
    let n ← seenNode r id
    return .list ((← modifyGet (·.hangRemoved n)).map .flag)
  | .connect p as =>
    let a ← addressOf p
    showConnection as connectionFields (← attempt (·.connect r id a))
  | .connectAtOnce p times =>
    let a ← addressOf p
    return tally "connections" (← repeatedly times (·.connect r id a))
  | .connectSeen p as =>
    let n ← seenNode r id
    let a ← addressOf p
    showConnection as connectionFields (← attempt (·.connectKnown n a))
  | .beginConnect dial p =>
    let n ← seenNode r id
    let a ← addressOf p
    change (·.beginConnect dial n a)
  | .findConnection p as =>
    let n ← seenNode r id
    let a ← addressOf p
    match (← get).world.findConnection n a with
    | some c => showConnection as connectionFields c
    | none => return flagView "none" true
  | .send payload aim as =>
    let target ← targetOf aim
    showConnection as sentFields (← attempt (·.send r id payload target))
  | .sendSeen payload aim as =>
    let target ← targetOf aim
    let n ← seenNode r id
    showConnection as sentFields (← attempt (·.sendKnown n payload target))
  | .close connection reason =>
    let c ← connectionNamed connection
    let n ← seenNode r id
    change (·.close n c reason)
  | .wait kind count => return flagView "reached" ((← get).hasSeen r id kind count)

def performRegistry (name : String) (step : RegistryStep) : Performance View := do
  match step with
  | .setUp settings site lenient => change (·.openRegistry name settings site lenient)
  | .view => return (← get).registryView (← registryNamed name)
  | .debug =>
    let r ← registryNamed name
    return .record [("debug", .text ((← get).world.registry r).debugText)]
  | .shutDown =>
    let r ← registryNamed name
    return flagView "completed" (← modifyGet (·.shutDownRegistry r))
  | .mute =>
    let r ← registryNamed name
    return flagView "done" (← modifyGet (·.mute r))
  | .listen =>
    let r ← registryNamed name
    modify (·.listen r)
    return flagView "done" true
  | .muteRegistry =>
    let r ← registryNamed name
    return flagView "done" (← modifyGet (·.muteRegistry r))
  | .ban p =>
    let r ← registryNamed name
    let a ← addressOf p
    change fun s => s.setBans r ((s.bansOf r).ban a)
  | .unban p =>
    let r ← registryNamed name
    let a ← addressOf p
    let (wasBanned, bans) := ((← get).bansOf r).unban a
    modify (·.setBans r bans)
    return flagView "unbanned" wasBanned
  | .isBanned p =>
    let r ← registryNamed name
    let a ← addressOf p
    return flagView "banned" (((← get).bansOf r).isBanned a)
  | .events =>
    let r ← registryNamed name
    let notes ← modifyGet (·.takeNotes r)
    return (← get).eventsView notes

def performConnection (name : String) (step : ConnectionStep) : Performance View := do
  let c ← connectionNamed name
  let conn := (← get).world.connection c
  match step with
  | .view => return (← get).trafficView c
  | .debug => return .record [("debug", .text conn.debugText)]
  | .ping =>
    let _ ← attempt (·.ping c)
    return .done
  | .wait what count =>
    return flagView "reached" (match what with
      | .received => count ≤ conn.metrics.received.totals.messages
      | .sent => count ≤ conn.metrics.sent.totals.messages
      | .roundTrips => count ≤ conn.metrics.roundTrips.length
      | .closed => conn.isClosed)

def performPeer (name : String) (step : PeerStep) : Performance View := do
  match step with
  | .connect p =>
    let a ← addressOf p
    match ← modifyGet (·.connectPeer name a) with
    | none => return .done
    | some reason => throw (.peer reason)
  | .listen p script =>
    let a ← addressOf p
    attempt (·.listenPeer name a script)
    return .done
  | .write bytes =>
    let _ ← peerNamed name
    change (·.peerWrites name bytes)
  | .send e =>
    let _ ← peerNamed name
    change (·.peerSends name e)
  | .receive =>
    match ← modifyGet (·.peerReceives name) with
    | none => throw (.unknown "peer")
    | some outcome => return .ofFrame outcome
  | .finish =>
    let _ ← peerNamed name
    change (·.peerFinishes name)
  | .log =>
    let waits := (← get).awaits name
    if waits then throw (.peer Stage.nobodyCame)
    return .list ((← peerNamed name).taken.map .ofFrame)

def performOffice (name : String) (step : OfficeStep) : Performance View := do
  match step with
  | .setUp registry keyPairs store hasTracker workersRun =>
    let r ← registryNamed registry
    change (·.openOffice name r (keyPairs.lookup ·) store hasTracker workersRun)
  | .addListener listener confidential =>
    let _ ← officeNamed name
    change (·.addListener name listener confidential)
  | .removeListener listener fromOther =>
    match ← modifyGet (·.removeListener name listener fromOther) with
    | none => throw (.unknown "name")
    | some wasThere => return flagView "removed" wasThere
  | .send payload aim receiver sender nodeId =>
    let o ← officeNamed name
    let target ← targetOf aim
    match ← modifyGet (·.sendMail name o payload target receiver sender nodeId) with
    | .ok result => return .ofDelivery result
    | .error e => throw (.mail e)
  | .process message =>
    let o ← officeNamed name
    match ← modifyGet (·.process name o message) with
    | .ok forUs => return flagView "for_us" forUs
    | .error e => throw (.mail e)
  | .received =>
    let _ ← officeNamed name
    return .list ((← modifyGet (·.takeDeliveries name)).map .ofReceipt)
  | .tracked =>
    let _ ← officeNamed name
    return .list ((← modifyGet (·.takeReports name)).map fun (id, status) =>
      .list [.text id, .text status.text])
  | .shutDown =>
    let o ← officeNamed name
    modify (·.shutDownOffice name o)
    return flagView "done" true
  | .drop =>
    let _ ← officeNamed name
    change (·.dropOffice name)

def performStore (name : String) (step : StoreStep) : Performance View := do
  match step with
  | .setUp fails quiet => change (·.openStore name fails quiet)
  | .publish entry =>
    let st ← storeNamed name
    change (·.publish name st entry)
  | .announce index times =>
    let st ← storeNamed name
    let entry ← lookUp "index" fun _ => st.entries[index]?
    change (·.announceKept st entry times)
  | .announceOther =>
    let _ ← storeNamed name
    return .done
  | .view => return .ofStore (← storeNamed name)

def performStep (step : Step) : Performance View :=
  match step with
  | .registry name step => performRegistry name step
  | .node registry id step => performNode registry id step
  | .connection name step => performConnection name step
  | .peer name step => performPeer name step
  | .office name step => performOffice name step
  | .store name step => performStore name step
  | .joinConnect dial as => do
    match ← modifyGet (·.joinConnect dial) with
    | none => throw (.unknown "name")
    | some (.ok c) => showConnection as connectionFields c
    | some (.error e) => throw (.network e)
  | .release => change (·.release)

/-- Performs a step, and shows what comes of it. -/
def perform (step : Step) (s : Stage) : View × Stage :=
  let (outcome, s) := (performStep step).run.run s
  let view := match outcome with
    | .ok view => view
    | .error refusal => refusal.view
  (s.masked view, s)

end Stage

end Courier.Play
