import Courier.Proofs.Worlds.Looking
import Mathlib.Logic.Relation

/-!
# Courier — the moves of which acts are made

An act changes a world, tells listeners, which act in turn, and goes on. Taken apart, all this is a
sequence of moves that nothing comes between: a move changes a world once and leaves calls that are
due, and one of the moves is to make the first of them. What every move keeps, every run keeps, and
every listener finds it kept when it is called.

* `Turn` — a world, and the calls that are due;
* `Move` — what can happen next;
* `Moves.keeps` — an invariant of moves holds ever after;
* `Runs` — moves after which the same calls are due as before.
-/

namespace Courier

/-- The event is about the beginning or the end of a connection. -/
def Event.IsLife : Event → Prop
  | .connected _ | .disconnected _ _ => True
  | _ => False

/-- The event is about who is in a registry. -/
def Event.IsRoster : Event → Prop
  | .nodeAdded _ | .nodeRemoved _ => True
  | _ => False

/-- That a node has joined concerns the roster. -/
theorem Event.isRoster_nodeAdded (n : NodeRef) : (Event.nodeAdded n).IsRoster := trivial

theorem Event.isRoster_nodeRemoved (n : NodeRef) : (Event.nodeRemoved n).IsRoster := trivial

namespace World

variable {L S : Type}

/-- A call that is due. -/
inductive Due (L : Type) where
  /-- A listener is to hear of an event. -/
  | call (l : L) (e : Event)
  /-- A registry is to pass an event on. -/
  | relay (r : RegistryRef) (e : Event)

def Due.event : Due L → Event
  | .call _ e | .relay _ e => e

/-- The call by which a listener of a node is told of an event. -/
def dueTo (r : RegistryRef) (e : Event) : NodeListener L → Due L
  | .registry => .relay r e
  | .own l => .call l e

/-- A world in the middle of an act. -/
structure Turn (L S : Type) where
  /-- The calls that are due, in order. -/
  due : List (Due L)
  world : World L S

/-- A node sets about telling its listeners. -/
def Turn.tell (n : NodeRef) (e : Event) (t : Turn L S) : Turn L S :=
  let node := t.world.node n
  let listeners := node.listeners.snapshot
  ⟨listeners.map (dueTo node.registry e) ++ t.due,
    t.world.record (.nodeTold n node.registry e listeners)⟩

/-- A registry sets about telling those who listen to its nodes. -/
def Turn.relay (r : RegistryRef) (e : Event) (t : Turn L S) : Turn L S :=
  let listeners := (t.world.registry r).nodeListeners.snapshot
  ⟨listeners.map (.call · e) ++ t.due, t.world.record (.registryTold r e listeners)⟩

/-- A registry sets about telling those who listen to it. -/
def Turn.announce (r : RegistryRef) (e : Event) (t : Turn L S) : Turn L S :=
  let listeners := (t.world.registry r).listeners.snapshot
  ⟨listeners.map (.call · e) ++ t.due, t.world.record (.registryTold r e listeners)⟩

/-- What a connection keeps for life: who it is between, and what was written to it. -/
structure Continues (conn conn' : Connection) : Prop where
  id : conn'.id = conn.id
  nodeId : conn'.nodeId = conn.nodeId
  peerAddress : conn'.peerAddress = conn.peerAddress
  peerNode : conn'.peerNode = conn.peerNode
  direction : conn'.direction = conn.direction
  maxFrameSize : conn'.socket.maxFrameSize = conn.socket.maxFrameSize
  written : conn.socket.stream.sink.written <+: conn'.socket.stream.sink.written

/-- Two states of one connection between which only traffic lies. -/
structure SameLife (conn conn' : Connection) : Prop extends Continues conn conn' where
  closeReason : conn'.closeReason = conn.closeReason
  closed : conn'.socket.closed = conn.socket.closed

/-- What a node keeps for life. -/
structure SameNode (node node' : Node L) : Prop where
  id : node'.id = node.id
  registry : node'.registry = node.registry
  settings : node'.settings = node.settings

/-- What a registry keeps for life: its rules, and that it is shut down. -/
structure SameRules (reg reg' : Registry L) : Prop where
  settings : reg'.settings = reg.settings
  transport : reg'.transport = reg.transport
  bans : reg'.bans = reg.bans
  shutDown : reg.isShutDown = true → reg'.isShutDown = true

/-- What can happen next. -/
inductive Move : Turn L S → Turn L S → Prop where
  /-- The surroundings change. -/
  | outside (due : List (Due L)) (w : World L S) (s : S) :
      Move ⟨due, w⟩ ⟨due, { w with outside := s }⟩
  | registry (due : List (Due L)) (w : World L S) (r : RegistryRef)
      {f : Registry L → Registry L} (h : ∀ reg, SameRules reg (f reg)) :
      Move ⟨due, w⟩ ⟨due, w.setRegistry r f⟩
  | handle (due : List (Due L)) (w : World L S) : Move ⟨due, w⟩ ⟨due, w.freshListener.2⟩
  /-- A node changes in something else than its connections. -/
  | node (due : List (Due L)) (w : World L S) (n : NodeRef) {f : Node L → Node L}
      (h : ∀ node, SameNode node (f node)) (htable : ∀ node, (f node).table = node.table) :
      Move ⟨due, w⟩ ⟨due, w.setNode n f⟩
  | newNode (due : List (Due L)) (w : World L S) {node : Node L} (h : node.table = .empty) :
      Move ⟨due, w⟩ ⟨due, (w.addNode node).2⟩
  /-- Something is sent or received on a connection. -/
  | traffic (due : List (Due L)) (w : World L S) (c : ConnectionRef)
      {f : Connection → Connection} (h : SameLife (w.connection c) (f (w.connection c))) :
      Move ⟨due, w⟩ ⟨due, w.setConnection c f⟩
  /-- A new connection is taken up. -/
  | begins (due : List (Due L)) (w : World L S) {n : NodeRef} {conn : Connection}
      (hn : n.number < w.nodes.length) (hnode : conn.nodeId = (w.node n).id)
      (hopen : conn.closeReason = none) :
      Move ⟨due, w⟩
        (Turn.tell n (.connected (w.addConnection conn).1)
          ⟨due, (w.addConnection conn).2.takeIn n (w.addConnection conn).1⟩)
  /-- A new connection is not taken up. -/
  | turnedAway (due : List (Due L)) (w : World L S) {conn : Connection}
      (h : conn.closeReason ≠ none) : Move ⟨due, w⟩ ⟨due, (w.addConnection conn).2⟩
  /-- A connection is closed and leaves the table. -/
  | ends (due : List (Due L)) (w : World L S) {n : NodeRef} {c : ConnectionRef}
      (reason : CloseReason) (howns : w.owns n c = true)
      (hthere : (w.takeOut n c reason).1 = true) :
      Move ⟨due, w⟩
        (Turn.tell n
          (.disconnected c (((w.takeOut n c reason).2.connection c).closeReason.getD reason))
          ⟨due, (w.takeOut n c reason).2⟩)
  /-- A connection is closed that is not in the table. -/
  | closes (due : List (Due L)) (w : World L S) {n : NodeRef} {c : ConnectionRef}
      (reason : CloseReason) (howns : w.owns n c = true)
      (hthere : (w.takeOut n c reason).1 = false) :
      Move ⟨due, w⟩ ⟨due, (w.takeOut n c reason).2⟩
  /-- A node tells of something else than the beginning or the end of a connection. -/
  | tells (due : List (Due L)) (w : World L S) (n : NodeRef) {e : Event} (h : ¬ e.IsLife) :
      Move ⟨due, w⟩ (Turn.tell n e ⟨due, w⟩)
  /-- A registry tells of a node that has joined or left. -/
  | announces (due : List (Due L)) (w : World L S) (r : RegistryRef) {e : Event}
      (h : e.IsRoster) : Move ⟨due, w⟩ (Turn.announce r e ⟨due, w⟩)
  /-- A registry has heard of something, and passes it on. -/
  | relays (due : List (Due L)) (w : World L S) (r : RegistryRef) (e : Event) :
      Move ⟨.relay r e :: due, w⟩ (Turn.relay r e ⟨due, w⟩)
  /-- A listener is called. -/
  | calls (due : List (Due L)) (w : World L S) (l : L) (e : Event) :
      Move ⟨.call l e :: due, w⟩ ⟨due, w.log l e⟩

/-- Any number of moves. -/
def Moves : Turn L S → Turn L S → Prop := Relation.ReflTransGen Move

theorem Moves.refl (t : Turn L S) : Moves t t := Relation.ReflTransGen.refl

theorem Moves.trans {t t' t'' : Turn L S} (h : Moves t t') (h' : Moves t' t'') : Moves t t'' :=
  Relation.ReflTransGen.trans h h'

/-- One move is some moves. -/
theorem Move.moves {t t' : Turn L S} (h : Move t t') : Moves t t' :=
  Relation.ReflTransGen.single h

/-- What every move keeps, any number of moves keeps. -/
theorem Moves.keeps {p : Turn L S → Prop} (hmove : ∀ {t t'}, Move t t' → p t → p t')
    {t t' : Turn L S} (h : Moves t t') (ht : p t) : p t' := by
  induction h with
  | refl => exact ht
  | tail _ hlast ih => exact hmove hlast ih

/-- Moves from one world to another, in the course of which no call that was due is made. -/
def Runs (w w' : World L S) : Prop := ∀ due : List (Due L), Moves ⟨due, w⟩ ⟨due, w'⟩

theorem Runs.refl (w : World L S) : Runs w w := fun due => .refl ⟨due, w⟩

theorem Runs.trans {w w' w'' : World L S} (h : Runs w w') (h' : Runs w' w'') : Runs w w'' :=
  fun due => (h due).trans (h' due)

/-- A change of the world that no move is needed to look into. -/
theorem Runs.node {w : World L S} (n : NodeRef) {f : Node L → Node L}
    (h : ∀ node, SameNode node (f node)) (htable : ∀ node, (f node).table = node.table) :
    Runs w (w.setNode n f) := fun due => (Move.node due w n h htable).moves

/-- What happens outside is no move. -/
theorem Runs.outside (w : World L S) (s : S) : Runs w { w with outside := s } :=
  fun due => (Move.outside due w s).moves

/-- A registry may change while its rules stand. -/
theorem Runs.registry {w : World L S} (r : RegistryRef) {f : Registry L → Registry L}
    (h : ∀ reg, SameRules reg (f reg)) : Runs w (w.setRegistry r f) :=
  fun due => (Move.registry due w r h).moves

/-- A connection may be used while its life goes on. -/
theorem Runs.traffic {w : World L S} {c : ConnectionRef} {f : Connection → Connection}
    (h : SameLife (w.connection c) (f (w.connection c))) : Runs w (w.setConnection c f) :=
  fun due => (Move.traffic due w c h).moves

end World
end Courier
