import Courier.Play.Mail
import Courier.Schema.Print

/-!
# Courier — what a play shows

Every step of a play shows something of the stage, as a tree of named values. Ports and ids that
differ from run to run are shown by their names.

* `View` — the trees, with their JSON form;
* `Stage.nodeView`, `Stage.connectionView`, `Stage.eventsView` and the like — what is shown;
* `Stage.mask` — ports and ids give way to names.
-/

namespace Courier.Play

inductive View where
  | nothing
  | flag (b : Bool)
  | count (n : Nat)
  | text (s : String)
  | list (items : List View)
  | record (fields : List (String × View))

namespace View

def orNothing {α : Type} (f : α → View) (a : Option α) : View := (a.map f).getD .nothing

/-- A number that may be large is shown in digits. -/
def digits (n : Nat) : View := .text (toString n)

def texts (ss : List String) : View := .list (ss.map .text)

def done : View := .record [("ok", .flag true)]

mutual

/-- The view with all its texts changed. -/
def mapTexts (f : String → String) : View → View
  | .text s => .text (f s)
  | .list items => .list (mapItems f items)
  | .record fields => .record (mapFields f fields)
  | v => v

def mapItems (f : String → String) : List View → List View
  | [] => []
  | v :: rest => v.mapTexts f :: mapItems f rest

def mapFields (f : String → String) : List (String × View) → List (String × View)
  | [] => []
  | (name, v) :: rest => (name, v.mapTexts f) :: mapFields f rest

end

mutual

/-- The characters of the JSON form, fields in the order of their names. -/
def print : View → List Char
  | .nothing => "null".toList
  | .flag b => (if b then "true" else "false").toList
  | .count n => Json.digits n
  | .text s => Json.quote s
  | .list items => Json.bracketed (printItems items)
  | .record fields =>
    Json.braced (((printFields fields).mergeSort fun a b => a.1 ≤ b.1).map (·.2))

def printItems : List View → List (List Char)
  | [] => []
  | v :: rest => v.print :: printItems rest

def printFields : List (String × View) → List (String × List Char)
  | [] => []
  | (name, v) :: rest => (name, Json.member name v.print) :: printFields rest

end

/-- The JSON form. -/
def toJson (v : View) : String := String.ofList v.print

def failure (name message : String) : View :=
  .record [("error", .text name), ("message", .text message)]

def ofNetworkError (e : NetworkError) : View := failure e.name e.message

def ofStoreError (e : StoreError) : View := failure e.name e.message

/-- Nothing is said about threads that are not running. -/
def ofMailError (e : MailError) : View :=
  match e with
  | .workerFailed _ => .record [("error", .text e.name)]
  | _ => failure e.name e.message

def ofAddress (a : Address) : View := .text a.text

/-- Of a sealed message only the receiver, the sender and the length are shown. -/
def ofPayload : Payload → View
  | .confidential m =>
    .record [("receiver_key_id", .text m.receiverKeyId),
      ("sender", .text (Hex.encode m.data.senderKey.bytes.bytes)),
      ("cipher_len", .count m.data.ciphertext.length)]
  | p => .text (Payload.schema.toJson p)

/-- What a peer has taken. -/
def ofFrame : Except NetworkError (Option Received) → View
  | .error e => ofNetworkError e
  | .ok none => .record [("eof", .flag true)]
  | .ok (some r) =>
    .record [("version", .count r.envelope.version.toNat),
      ("payload", ofPayload r.envelope.payload)]

def ofCounters (c : Counters) : View := .list [digits c.messages, digits c.bytes]

def ofLoad (l : Load) : View :=
  .record [("connections", .count l.connections), ("sent", digits l.sent.messages),
    ("sent_bytes", digits l.sent.bytes), ("received", digits l.received.messages),
    ("received_bytes", digits l.received.bytes)]

/-- A result shows the outcome of its broadcast, which is taken twice. -/
def deliveryFields (r : DeliveryResult) : List (String × View) :=
  let (first, r') := r.takeBroadcast
  let (second, _) := r'.takeBroadcast
  let broadcast : Except StoreError Broadcast → View
    | .ok b => .record [("num_peers", digits b.peers.toNat)]
    | .error e => ofStoreError e
  [("status", .text r.status.text), ("error_message", orNothing .text r.error),
    ("broadcast", orNothing broadcast first), ("broadcast_again", .flag second.isSome)]

def ofDelivery (r : DeliveryResult) : View :=
  .record (("debug", .text r.debugText) :: deliveryFields r)

/-- What a listener of a service got. -/
def ofReceipt (d : Delivery) : View :=
  let sender := d.sender.map fun k => ("sender", View.text (Hex.encode k.bytes.bytes))
  .record ([("listener", .text d.listener), ("payload", ofPayload d.payload)] ++ sender.toList)

/-- Of an entry the receiver, the handling and the length of the message are shown. -/
def ofEntry (e : MailboxEntry) : View :=
  .record [("receiver_key_id", .text e.receiverKeyId),
    ("meta_data", .text (MailboxMeta.schema.toJson e.metaData)),
    ("cipher_len", .count e.message.data.ciphertext.length)]

def ofStore (s : Store) : View :=
  .record [("entries", .list (s.entries.map ofEntry)), ("removed", .count s.removed),
    ("refused", texts (s.refusals.map (·.message))), ("listeners", .count s.listeners.size)]

end View

namespace Stage

/-- The view with names in the place of ports and ids. -/
def masked (v : View) (s : Stage) : View := v.mapTexts (s.mask ·)

def nodeFields (n : NodeRef) (s : Stage) : List (String × View) :=
  let node := s.world.node n
  [("node_id", .text node.id), ("state", .text node.state.name),
    ("initialized", .flag node.isRunning),
    ("transport", .text (s.world.registry node.registry).transport.text),
    ("my_address", .orNothing .ofAddress node.address),
    ("connections", .count (s.world.openConnections n).length),
    ("dials", .count node.dials.length)]

def endpointFields (c : ConnectionRef) (s : Stage) : List (String × View) :=
  let conn := s.world.connection c
  [("peer", .ofAddress conn.peerAddress), ("peer_node", .orNothing .text conn.peerNode),
    ("direction", .text conn.direction.name)]

/-- A connection as it is shown after sending on it. -/
def sentFields (c : ConnectionRef) (s : Stage) : List (String × View) :=
  let conn := s.world.connection c
  s.endpointFields c ++ [("node", .text conn.nodeId), ("outbound", .flag conn.isOutbound),
    ("same_as", .texts (s.labelsOf c))]

def connectionFields (c : ConnectionRef) (s : Stage) : List (String × View) :=
  let conn := s.world.connection c
  s.sentFields c ++ [("closed", .flag conn.isClosed),
    ("close_reason", .orNothing (fun r => .text r.name) conn.closeReason)]

/-- A connection with its traffic. -/
def trafficView (c : ConnectionRef) (s : Stage) : View :=
  let m := (s.world.connection c).metrics
  .record (s.connectionFields c ++ [("sent", .ofCounters m.sent.totals),
    ("received", .ofCounters m.received.totals), ("rtt_samples", .count m.roundTrips.length)])

/-- What a registry knows of the node of an id. -/
def findView (r : RegistryRef) (id : String) (s : Stage) : View :=
  let w := s.world
  let running := match w.assertRunning r id with
    | .ok _ => .done
    | .error e => .ofNetworkError e
  .record [("found", .flag (w.findNode r id).isSome), ("initialized", .flag (w.isNodeRunning r id)),
    ("assert", running), ("my_address", .orNothing .ofAddress (w.addressOf r id))]

def registryView (r : RegistryRef) (s : Stage) : View :=
  let registry := s.world.registry r
  let ids := (registry.nodes.map (·.1)).mergeSort fun a b => a ≤ b
  .record [("ids", .texts ids),
    ("addresses", .record ((s.world.addressesById r).map fun (id, a) => (id, .ofAddress a))),
    ("shut_down", .flag registry.isShutDown),
    ("config", .text (RegistrySettings.schema.toJson registry.settings))]

def eventView (e : Event) (s : Stage) : View :=
  let fields := match e with
    | .nodeAdded _ | .nodeRemoved _ => []
    | .message payload c _ => ("payload", .ofPayload payload) :: s.endpointFields c
    | .connected c => s.endpointFields c
    | .disconnected c reason =>
      ("reason", .text reason.name) :: ("closed", .flag (s.world.connection c).isClosed)
        :: s.endpointFields c
    | .shutDown n => [("state", .text (s.world.node n).state.name)]
  s.masked (.record (("ev", .text (eventKind e)) :: fields))

/-- The events of each node in order, where the order of disconnects in a row is that of their JSON
form. -/
def eventsView (notes : List (String × Event)) (s : Stage) : View :=
  let isDisconnect (e : Event) : Bool := eventKind e == "disconnect"
  let ofNode (id : String) : List View :=
    let events := (notes.filter (·.1 == id)).map (·.2)
    let runs := events.splitBy fun a b => isDisconnect a && isDisconnect b
    (runs.map fun run =>
      (run.map (s.eventView ·)).mergeSort fun a b => a.toJson ≤ b.toJson).flatten
  .record ((notes.map (·.1)).eraseDups.map fun id => (id, .list (ofNode id)))

end Stage

end Courier.Play
