import Courier.Play.Stage

/-!
# Courier — what the recorders of a play have noted

The recorders of a registry note every event of its nodes, as long as they are attached.

* `Stage.notes` — the events of a registry, with the ids of the nodes that they are about;
* `Stage.mask` — a text in which ports and ids that differ from run to run have names.
-/

namespace Courier.Play

/-- The kind of an event. -/
def eventKind : Event → String
  | .nodeAdded _ => "added"
  | .nodeRemoved _ => "removed"
  | .message _ _ _ => "message"
  | .connected _ => "connection"
  | .disconnected _ _ => "disconnect"
  | .shutDown _ => "shutdown"

namespace Stage

/-- The id of the node that an event is about. -/
def aboutNode (e : Event) (s : Stage) : String :=
  match e with
  | .nodeAdded n | .nodeRemoved n | .shutDown n => (s.world.node n).id
  | .message _ _ nodeId => nodeId
  | .connected c | .disconnected c _ => (s.world.connection c).nodeId

/-- The events among these calls that the recorders of a registry noted. -/
def notesIn (calls : List (Call Watcher)) (r : RegistryRef) (s : Stage) :
    List (String × Event) :=
  calls.filterMap fun call =>
    if call.listener = .nodes r ∨ call.listener = .registry r then
      some (s.aboutNode call.event, call.event)
    else none

/-- All events that the recorders of a registry noted. -/
def notes (r : RegistryRef) (s : Stage) : List (String × Event) := s.notesIn s.world.calls r

/-- The events that were noted since they were last asked for. -/
def takeNotes (r : RegistryRef) (s : Stage) : List (String × Event) × Stage :=
  let seen := (s.reported.lookup r).getD 0
  (s.notesIn (s.world.calls.drop seen) r,
    { s with reported := put r s.world.calls.length s.reported })

/-- At least so many events of a kind were noted of a node. -/
def hasSeen (r : RegistryRef) (nodeId kind : String) (count : Nat) (s : Stage) : Bool :=
  count ≤ (s.notes r).countP fun (id, e) => id == nodeId && eventKind e == kind

/-- The names of a connection. -/
def labelsOf (c : ConnectionRef) (s : Stage) : List String :=
  (s.labels.filter fun e => e.2 = c).map (·.1)

/-- What stands for a port, an id or the like in the texts of a play. -/
def masks (s : Stage) : List (String × String) :=
  let ofServer : Server → String
    | .node _ id => ":<" ++ id ++ ">"
    | .peer name => ":<raw " ++ name ++ ">"
  s.world.outside.machinePorts.map (fun (port, server) =>
      (":" ++ toString port.toNat, ofServer server))
    ++ s.peers.map (fun (name, p) =>
      (":" ++ toString (Wires.localAddress p.socket.stream.number).port.toNat,
        ":<raw " ++ name ++ ">"))
    ++ s.labels.map (fun (label, c) => ((s.world.connection c).id, "<" ++ label ++ ">"))

/-- A text in which ports and ids that differ from run to run have names. -/
def mask (text : String) (s : Stage) : String :=
  s.masks.foldl (fun text (pattern, name) => text.replace pattern name) text

end Stage

end Courier.Play
