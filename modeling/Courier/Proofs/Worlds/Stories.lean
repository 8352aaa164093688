import Courier.Proofs.Worlds.Moves
import Courier.Proofs.Writing

/-!
# Courier — what happens in the course of an act

Moves take an act apart so far that nothing is left of what belongs together: that a node is shut
down from its first step to its last, say, with all that its listeners do in between. A story keeps
it together. It is a derivation, with one constructor for each thing that can happen, and what
listeners do when they are called is a story inside the story.

Some acts are performed by those who are not supposed to: a listener that reads from a connection
itself, or one that shuts a registry down. A story says which acts may be performed in it, and
depends on that only where it matters.

* `Change` — a change that nobody is told of;
* `Admitted` — how a connection may come to a node;
* `Story` — a world and the calls that are due in it, and the world when nothing is due any more;
* `Story.keeps` — what every step of a story keeps, the story keeps;
* `Story.runs` — a story is made of moves.
-/

namespace Courier.World

variable {L S : Type} (env : Surroundings L S) (may : Act L → World L S → Prop)

/-- A change that nobody is told of. -/
inductive Change : World L S → World L S → Prop where
  | outside (w : World L S) (s : S) : Change w { w with outside := s }
  | send (w : World L S) (c : ConnectionRef) (payload : Payload) :
      Change w (w.setConnection c fun _ => ((w.connection c).send env.timing payload).2)
  | ping (w : World L S) (c : ConnectionRef) (nonce : UInt64) : Change w (ping env c nonce w).2
  | receive (w : World L S) {n : NodeRef} {c : ConnectionRef} (h : may (.read n c) w) :
      Change w (w.setConnection c fun _ => ((w.connection c).receive env.timing).2)
  | pong (w : World L S) (c : ConnectionRef) (p : Pong) :
      Change w (w.setConnection c fun conn => conn.onPong env.timing p)
  | dials (w : World L S) (n : NodeRef) (f : List Address → List Address) :
      Change w (w.setNode n fun node => { node with dials := f node.dials })
  | start (w : World L S) (n : NodeRef) (port : UInt16) : Change w (startNode env n port w).2
  /-- A shutdown does not get past the server. -/
  | stuck (w : World L S) {n : NodeRef}
      (hstate : ¬ ((w.node n).state = .stopping ∨ (w.node n).state = .terminated))
      (hstop : (stopServer env n (w.setState n .stopping)).1 = false) :
      Change w (stopServer env n (w.setState n .stopping)).2
  /-- A new connection is not taken up. -/
  | turnAway (w : World L S) {conn : Connection} (h : conn.closeReason ≠ none) :
      Change w (w.addConnection conn).2
  /-- A connection is closed that is not in the table. -/
  | close (w : World L S) {n : NodeRef} {c : ConnectionRef} (reason : CloseReason)
      (howns : w.owns n c = true) (hthere : (w.takeOut n c reason).1 = false) :
      Change w (w.takeOut n c reason).2
  | listen (w : World L S) (n : NodeRef) (l : L) : Change w (listen n l w).2
  | unlisten (w : World L S) {n : NodeRef} {id : ListenerId} (h : may (.unlisten n id) w) :
      Change w (unlisten n id w).2
  | listenToRegistry (w : World L S) (r : RegistryRef) (l : L) :
      Change w (listenToRegistry r l w).2
  | unlistenToRegistry (w : World L S) (r : RegistryRef) (id : ListenerId) :
      Change w (unlistenToRegistry r id w).2
  | listenToNodes (w : World L S) {r : RegistryRef} {l : L} (h : may (.listenToNodes r l) w) :
      Change w (listenToNodes r l w).2
  | unlistenToNodes (w : World L S) {r : RegistryRef} {id : ListenerId}
      (h : may (.unlistenToNodes r id) w) : Change w (unlistenToNodes r id w).2
  | closeRegistry (w : World L S) {r : RegistryRef} (h : may (.shutDown r) w) :
      Change w (w.closeRegistry r)
  | emptyRegistry (w : World L S) {r : RegistryRef} (h : ∃ w₀, may (.shutDown r) w₀)
      (hshut : r.number < w.registries.length → (w.registry r).isShutDown = true)
      (completed : Bool) :
      Change w (w.emptyRegistry r completed)

/-- How a connection may come to a node: a peer has come and was answered, or a peer that the node
has dialed has answered. -/
inductive Admitted (w : World L S) (n : NodeRef) : Connection → Prop where
  | inbound {stream : StreamEnd} {origin : Option Address} {conn : Connection}
      (hmay : may (.accept n stream origin) w)
      (hgreet : w.greet env n stream origin = .ok conn)
      (hsent : (conn.send env.timing (.handshake (w.node n).handshake)).1 = .ok ()) :
      Admitted w n (conn.send env.timing (.handshake (w.node n).handshake)).2
  | outbound {dial : Dial} {conn : Connection} (s : S)
      (hopened : (openStream env n dial.address { w with outside := s }).1 = .ok dial)
      (hanswered : w.answered env n dial = .ok conn) : Admitted w n conn

/-- A node has just taken a frame from a connection that is open. -/
def HasRead (n : NodeRef) (c : ConnectionRef) (w : World L S) : Prop :=
  ∃ w₀, may (.read n c) w₀ ∧ (w₀.connection c).closeReason = none ∧
    w = w₀.setConnection c fun _ => ((w₀.connection c).receive env.timing).2

/-- What happens in a world while the calls that are due are made, one after the other. Nothing
happens between two of them but what comes of the first. -/
inductive Story : Turn L S → World L S → Prop where
  | done (w : World L S) : Story ⟨[], w⟩ w
  | change {w w' w'' : World L S} (h : Change env may w w') (next : Story ⟨[], w'⟩ w'') :
      Story ⟨[], w⟩ w''
  | first {w w' w'' : World L S} (h : Story ⟨[], w⟩ w') (next : Story ⟨[], w'⟩ w'') :
      Story ⟨[], w⟩ w''
  /-- A listener is called, and does what it does then. -/
  | call {due : List (Due L)} {l : L} {e : Event} {w w' w'' : World L S}
      (during : Story ⟨[], w.log l e⟩ w') (next : Story ⟨due, w'⟩ w'') :
      Story ⟨.call l e :: due, w⟩ w''
  /-- A registry passes an event on, and keeps its nodes. -/
  | relay {due : List (Due L)} {r : RegistryRef} {e : Event} {w w' w'' : World L S}
      (pass : Story (Turn.relay r e ⟨[], w⟩) w')
      (hstay : ∀ n, e = .shutDown n → (w'.registry r).find (w'.node n).id ≠ some n)
      (next : Story ⟨due, w'⟩ w'') : Story ⟨.relay r e :: due, w⟩ w''
  /-- A registry passes on that a node has shut down, and gives it up. -/
  | leave {due : List (Due L)} {r : RegistryRef} {n : NodeRef} {w w₁ w₂ w₃ : World L S}
      (pass : Story (Turn.relay r (.shutDown n) ⟨[], w⟩) w₁)
      (hthere : (w₁.registry r).find (w₁.node n).id = some n)
      (gone : Story (Turn.announce r (.nodeRemoved n) ⟨[], w₁.dropNode r (w₁.node n).id⟩) w₂)
      (next : Story ⟨due, w₂⟩ w₃) : Story ⟨.relay r (.shutDown n) :: due, w⟩ w₃
  /-- A node tells of a payload that it has read. -/
  | tell {n : NodeRef} {c : ConnectionRef} {payload : Payload} {w w' : World L S}
      (h : HasRead env may n c w)
      (next : Story (Turn.tell n (.message payload c (w.node n).id) ⟨[], w⟩) w') :
      Story ⟨[], w⟩ w'
  /-- A new connection is taken up. -/
  | connect {n : NodeRef} {conn : Connection} {w w' : World L S}
      (hn : n.number < w.nodes.length)
      (hstate : (w.node n).state = .starting ∨ (w.node n).state = .running)
      (hadmitted : Admitted env may w n conn)
      (next : Story (Turn.tell n (.connected (w.addConnection conn).1)
        ⟨[], (w.addConnection conn).2.takeIn n (w.addConnection conn).1⟩) w') : Story ⟨[], w⟩ w'
  /-- A connection is closed and leaves the table. -/
  | disconnect {n : NodeRef} {c : ConnectionRef} {reason : CloseReason} {w w' : World L S}
      (howns : w.owns n c = true) (hthere : (w.takeOut n c reason).1 = true)
      (next : Story (Turn.tell n
        (.disconnected c (((w.takeOut n c reason).2.connection c).closeReason.getD reason))
        ⟨[], (w.takeOut n c reason).2⟩) w') : Story ⟨[], w⟩ w'
  /-- A registry gets a new node. -/
  | join {r : RegistryRef} {id : String} {w w' : World L S}
      (hopen : (w.registry r).isShutDown = false) (hnew : (w.registry r).find id = none)
      (next : Story (Turn.announce r (.nodeAdded (w.createNode r id).1)
        ⟨[], (w.createNode r id).2⟩) w') : Story ⟨[], w⟩ w'
  /-- A node that is not there is shut down, and has nobody to tell. -/
  | nobody {n : NodeRef} {w : World L S} (hn : w.nodes.length ≤ n.number) :
      Story ⟨[], w⟩ (w.record (.nodeTold n (w.node n).registry (.shutDown n) []))
  /-- A node is shut down, from the first step to the last. It has closed all its connections when
  it tells of it. -/
  | shut {n : NodeRef} {w w₁ w₂ : World L S} (hn : n.number < w.nodes.length)
      (hstate : ¬ ((w.node n).state = .stopping ∨ (w.node n).state = .terminated))
      (hstop : (stopServer env n (w.setState n .stopping)).1 = true)
      (closing : Story ⟨[], (stopServer env n (w.setState n .stopping)).2⟩ w₁)
      (hclosed : ∀ c, (w.node n).table.contains c = true → w.owns n c = true →
        ∃ reason, .closed n c reason ∈ w₁.history)
      (telling : Story (Turn.tell n (.shutDown n) ⟨[], w₁.terminate n⟩) w₂) :
      Story ⟨[], w⟩ (w₂.dropListeners n)

/-- What happens to a world at once, in the course of a story. -/
inductive Step : World L S → World L S → Prop where
  | change {w w' : World L S} (h : Change env may w w') : Step w w'
  | call (w : World L S) (l : L) (e : Event) : Step w (w.log l e)
  | relay (w : World L S) (r : RegistryRef) (e : Event) : Step w (Turn.relay r e ⟨[], w⟩).world
  | leave (w : World L S) {r : RegistryRef} {n : NodeRef}
      (hthere : (w.registry r).find (w.node n).id = some n) :
      Step w (Turn.announce r (.nodeRemoved n) ⟨[], w.dropNode r (w.node n).id⟩).world
  | tell (w : World L S) {n : NodeRef} {c : ConnectionRef} (h : HasRead env may n c w)
      (payload : Payload) :
      Step w (Turn.tell n (.message payload c (w.node n).id) ⟨[], w⟩).world
  | connect (w : World L S) {n : NodeRef} {conn : Connection} (hn : n.number < w.nodes.length)
      (hstate : (w.node n).state = .starting ∨ (w.node n).state = .running)
      (hadmitted : Admitted env may w n conn) :
      Step w (Turn.tell n (.connected (w.addConnection conn).1)
        ⟨[], (w.addConnection conn).2.takeIn n (w.addConnection conn).1⟩).world
  | disconnect (w : World L S) {n : NodeRef} {c : ConnectionRef} {reason : CloseReason}
      (howns : w.owns n c = true) (hthere : (w.takeOut n c reason).1 = true) :
      Step w (Turn.tell n
        (.disconnected c (((w.takeOut n c reason).2.connection c).closeReason.getD reason))
        ⟨[], (w.takeOut n c reason).2⟩).world
  | join (w : World L S) {r : RegistryRef} {id : String}
      (hopen : (w.registry r).isShutDown = false) (hnew : (w.registry r).find id = none) :
      Step w (Turn.announce r (.nodeAdded (w.createNode r id).1)
        ⟨[], (w.createNode r id).2⟩).world
  | nobody (w : World L S) {n : NodeRef} (hn : w.nodes.length ≤ n.number) :
      Step w (w.record (.nodeTold n (w.node n).registry (.shutDown n) []))
  | stop (w : World L S) {n : NodeRef} (hn : n.number < w.nodes.length)
      (hstate : ¬ ((w.node n).state = .stopping ∨ (w.node n).state = .terminated))
      (hstop : (stopServer env n (w.setState n .stopping)).1 = true) :
      Step w (stopServer env n (w.setState n .stopping)).2
  | terminate (w : World L S) (n : NodeRef) :
      Step w (Turn.tell n (.shutDown n) ⟨[], w.terminate n⟩).world
  | dropListeners (w : World L S) (n : NodeRef) : Step w (w.dropListeners n)

variable {env may}

/-- What every step keeps, a story keeps. -/
theorem Story.keeps {R : World L S → World L S → Prop} (hrefl : ∀ w, R w w)
    (htrans : ∀ {w w' w''}, R w w' → R w' w'' → R w w'')
    (hstep : ∀ {w w'}, Step env may w w' → R w w') {t : Turn L S} {w' : World L S}
    (h : Story env may t w') : R t.world w' := by
  induction h with
  | done w => exact hrefl w
  | change h next ih => exact htrans (hstep (.change h)) ih
  | first h next ihFirst ih => exact htrans ihFirst ih
  | call during next ihDuring ih =>
    exact htrans (hstep (.call ..)) (htrans ihDuring ih)
  | relay pass hstay next ihPass ih => exact htrans (htrans (hstep (.relay ..)) ihPass) ih
  | leave pass hthere gone next ihPass ihGone ih =>
    exact htrans (htrans (hstep (.relay ..)) ihPass) (htrans (hstep (.leave _ hthere))
      (htrans ihGone ih))
  | tell h next ih => exact htrans (hstep (.tell _ h _)) ih
  | connect hn hstate hadmitted next ih =>
    exact htrans (hstep (.connect _ hn hstate hadmitted)) ih
  | disconnect howns hthere next ih => exact htrans (hstep (.disconnect _ howns hthere)) ih
  | join hopen hnew next ih => exact htrans (hstep (.join _ hopen hnew)) ih
  | nobody hn => exact hstep (.nobody _ hn)
  | shut hn hstate hstop closing hclosed telling ihClosing ihTelling =>
    exact htrans (htrans (hstep (.stop _ hn hstate hstop)) ihClosing)
      (htrans (hstep (.terminate _ _)) (htrans ihTelling (hstep (.dropListeners _ _))))

/-- Steps of one kind, done for each element of a list. -/
theorem Story.foldl {α : Type} {f : World L S → α → World L S}
    (h : ∀ w x, Story env may ⟨[], w⟩ (f w x)) (xs : List α) (w : World L S) :
    Story env may ⟨[], w⟩ (xs.foldl f w) := by
  induction xs generalizing w with
  | nil => exact .done w
  | cons x xs ih => exact .first (h w x) (ih (f w x))

/-- A single change. -/
theorem Change.story {w w' : World L S} (h : Change env may w w') : Story env may ⟨[], w⟩ w' :=
  .change h (.done w')

-- ---------------------------------------------------------------------------
-- Traffic
-- ---------------------------------------------------------------------------

theorem Continues.refl (conn : Connection) : Continues conn conn :=
  ⟨rfl, rfl, rfl, rfl, rfl, rfl, List.prefix_rfl⟩

theorem Continues.trans {a b c : Connection} (h : Continues a b) (h' : Continues b c) :
    Continues a c :=
  ⟨h'.id.trans h.id, h'.nodeId.trans h.nodeId, h'.peerAddress.trans h.peerAddress,
    h'.peerNode.trans h.peerNode, h'.direction.trans h.direction,
    h'.maxFrameSize.trans h.maxFrameSize, h.written.trans h'.written⟩

theorem SameLife.refl (conn : Connection) : SameLife conn conn := ⟨.refl conn, rfl, rfl⟩

theorem SameLife.trans {a b c : Connection} (h : SameLife a b) (h' : SameLife b c) :
    SameLife a c :=
  ⟨h.toContinues.trans h'.toContinues, h'.closeReason.trans h.closeReason,
    h'.closed.trans h.closed⟩

/-- Only the socket and what is counted have changed. -/
theorem SameLife.of_socket {conn : Connection} {socket : Socket}
    (hmax : socket.maxFrameSize = conn.socket.maxFrameSize)
    (hclosed : socket.closed = conn.socket.closed)
    (hwritten : conn.socket.stream.sink.written <+: socket.stream.sink.written)
    (metrics : Metrics) : SameLife conn { conn with socket, metrics } :=
  ⟨⟨rfl, rfl, rfl, rfl, rfl, hmax, hwritten⟩, rfl, hclosed⟩

theorem sameLife_send (t : Timing) (p : Payload) (conn : Connection) :
    SameLife conn (conn.send t p).2 := by
  have hwritten : (conn.socket.send (.ofPayload p)).2.maxFrameSize = conn.socket.maxFrameSize ∧
      (conn.socket.send (.ofPayload p)).2.closed = conn.socket.closed ∧
      conn.socket.stream.sink.written <+:
        (conn.socket.send (.ofPayload p)).2.stream.sink.written := by
    unfold Socket.send
    split
    · exact ⟨rfl, rfl, List.prefix_rfl⟩
    · exact ⟨rfl, rfl, Frame.written_write ..⟩
  obtain ⟨hmax, hclosed, hwritten⟩ := hwritten
  unfold Connection.send
  split
  · exact .refl conn
  · split
    all_goals
      rename_i heq
      rw [heq] at hmax hclosed hwritten
      exact .of_socket hmax hclosed hwritten _

/-- What was sent is written, behind what was written before. -/
theorem written_of_send_ok {t : Timing} {p : Payload} {conn : Connection}
    (h : (conn.send t p).1 = .ok ()) :
    (conn.send t p).2.socket.stream.sink.written =
      conn.socket.stream.sink.written ++ Frame.ofEnvelope (.ofPayload p) := by
  unfold Connection.send Socket.send at h ⊢
  split at h
  · cases h
  rename_i hopen
  rw [if_neg hopen]
  by_cases hclosed : conn.socket.closed = true
  · rw [if_pos hclosed] at h
    cases h
  rw [if_neg hclosed] at h ⊢
  dsimp only at h ⊢
  split at h
  · cases h
  · rename_i size socket heq
    obtain ⟨hsize, rfl⟩ := Prod.mk.inj heq
    exact Frame.written_write_ok hsize

/-- A payload whose frame can be written can be sent. -/
theorem send_ok_of_write {t : Timing} {p : Payload} {conn : Connection} {size : Nat}
    (hopen : conn.closeReason = none) (hsocket : conn.socket.closed = false)
    (hwrite : (Frame.write (.ofPayload p) conn.socket.maxFrameSize conn.socket.stream.sink).1 =
      .ok size) : (conn.send t p).1 = .ok () := by
  have hnot : conn.isClosed = false := by rw [Connection.isClosed, hopen, Option.isSome_none]
  have hsend : (conn.socket.send (.ofPayload p)).1 = .ok size := by
    unfold Socket.send
    rw [hsocket]
    exact hwrite
  unfold Connection.send
  rw [hnot, if_neg Bool.false_ne_true]
  split
  · rename_i heq
    rw [heq] at hsend
    cases hsend
  · rfl

theorem sameLife_receive (t : Timing) (conn : Connection) :
    SameLife conn (conn.receive t).2 := by
  have hsocket : (conn.socket.receive).2.maxFrameSize = conn.socket.maxFrameSize ∧
      (conn.socket.receive).2.closed = conn.socket.closed ∧
      (conn.socket.receive).2.stream.sink = conn.socket.stream.sink := by
    unfold Socket.receive
    split <;> exact ⟨rfl, rfl, rfl⟩
  obtain ⟨hmax, hclosed, hsink⟩ := hsocket
  unfold Connection.receive
  split
  all_goals
    rename_i heq
    rw [heq] at hmax hclosed hsink
    exact .of_socket hmax hclosed (hsink ▸ List.prefix_rfl) _

theorem sameLife_ping (t : Timing) (nonce : UInt64) (conn : Connection) :
    SameLife conn (conn.ping t nonce).2 := by
  have hsend := sameLife_send t (.ping ⟨nonce⟩)
    { conn with outstanding := nonce :: conn.outstanding.filter (· ≠ nonce) }
  unfold Connection.ping
  dsimp only
  split
  all_goals
    rename_i heq
    rw [heq] at hsend
    exact ⟨⟨hsend.id, hsend.nodeId, hsend.peerAddress, hsend.peerNode, hsend.direction,
      hsend.maxFrameSize, hsend.written⟩, hsend.closeReason, hsend.closed⟩

theorem sameLife_onPong (t : Timing) (p : Pong) (conn : Connection) :
    SameLife conn (conn.onPong t p) := by
  unfold Connection.onPong
  split
  · exact ⟨⟨rfl, rfl, rfl, rfl, rfl, rfl, List.prefix_rfl⟩, rfl, rfl⟩
  · exact .refl conn

/-- A close changes the reason, and what goes with it. -/
theorem continues_markClosed (reason : CloseReason) (conn : Connection) :
    Continues conn (conn.markClosed reason).2 := by
  unfold Connection.markClosed
  split
  · exact .refl conn
  · exact ⟨rfl, rfl, rfl, rfl, rfl, rfl, List.prefix_rfl⟩

-- ---------------------------------------------------------------------------
-- Admission
-- ---------------------------------------------------------------------------

/-- A connection as it comes to its node: it is open, and in use in this direction. -/
structure ComesTo (node : Node L) (direction : Direction) (conn : Connection) : Prop where
  nodeId : conn.nodeId = node.id
  direction : conn.direction = direction
  closeReason : conn.closeReason = none
  closed : conn.socket.closed = false

theorem greet_eq_ok {n : NodeRef} {stream : StreamEnd} {origin : Option Address} {w : World L S}
    {conn : Connection} (h : w.greet env n stream origin = .ok conn) :
    ComesTo (w.node n) .inbound conn := by
  unfold greet at h
  dsimp only at h
  split at h
  · cases h
  split at h
  · rename_i r socket hreceive
    have hsocket := congrArg (·.2.closed) hreceive
    split at h
    · cases h
    · split at h
      · cases h
      · split at h
        · cases h
        · cases h
          exact ⟨rfl, rfl, rfl, hsocket.symm⟩
  · cases h

/-- Whoever answers a dial has answered with a handshake. -/
theorem answered_eq_ok {n : NodeRef} {dial : Dial} {w : World L S} {conn : Connection}
    (h : w.answered env n dial = .ok conn) :
    ComesTo (w.node n) .outbound conn ∧ conn.peerAddress = dial.address ∧
      ∃ r peer, dial.socket.receive.1 = .ok (some r) ∧ peerHandshake r = .ok peer ∧
        conn.peerNode = some peer.nodeId := by
  unfold answered at h
  split at h
  · cases h
  · cases h
  · rename_i r socket hreceive
    split at h
    · cases h
    · rename_i peer hpeer
      cases h
      refine ⟨⟨rfl, rfl, rfl, ?_⟩, rfl, r, peer, congrArg Prod.fst hreceive, hpeer, rfl⟩
      -- a closed socket has nothing to receive
      unfold Socket.receive at hreceive
      split at hreceive
      · cases hreceive
      · rename_i hopen
        obtain ⟨-, rfl⟩ := Prod.mk.inj hreceive
        exact Bool.eq_false_iff.mpr hopen

theorem Admitted.comesTo {w : World L S} {n : NodeRef} {conn : Connection}
    (h : Admitted env may w n conn) : ∃ direction, ComesTo (w.node n) direction conn := by
  cases h with
  | @inbound stream origin conn _ hgreet _ =>
    have hconn := greet_eq_ok hgreet
    have hsame := sameLife_send env.timing (.handshake (w.node n).handshake) conn
    exact ⟨.inbound, hsame.nodeId.trans hconn.nodeId, hsame.direction.trans hconn.direction,
      hsame.closeReason.trans hconn.closeReason, hsame.closed.trans hconn.closed⟩
  | outbound s _ hanswered => exact ⟨.outbound, (answered_eq_ok hanswered).1⟩

-- ---------------------------------------------------------------------------
-- Stories are made of moves
-- ---------------------------------------------------------------------------

/-- How starting a node may go. -/
inductive StartEnd (env : Surroundings L S) (n : NodeRef) (w : World L S) :
    Except NetworkError Unit × World L S → Prop where
  | running (hstate : (w.node n).state = .running) : StartEnd env n w (.ok (), w)
  | refused (hstate : (w.node n).state = .stopping ∨ (w.node n).state = .terminated)
      (e : NetworkError) : StartEnd env n w (.error e, w)
  | bound (hstate : (w.node n).state = .new ∨ (w.node n).state = .starting) (a : Address) (s : S) :
      StartEnd env n w (.ok (), World.setNode n (fun node =>
        { node with server := some a, address := some a, state := .running })
        { w with outside := s })
  | failed (hstate : (w.node n).state = .new ∨ (w.node n).state = .starting) (e : NetworkError)
      (s : S) : StartEnd env n w (.error e, World.setState n .new { w with outside := s })

/-- That a node is starting is seen by nobody. -/
theorem setNode_starting (n : NodeRef) {f : Node L → Node L}
    (hf : ∀ node, f { node with state := .starting } = f node) (s : S) (w : World L S) :
    World.setNode n f { w.setState n .starting with outside := s } =
      World.setNode n f { w with outside := s } := by
  show World.setNode n f (World.setNode n _ { w with outside := s }) = _
  rw [setNode_setNode]
  exact congrArg (World.setNode n · { w with outside := s }) (funext hf)

theorem startNode_end (env : Surroundings L S) (n : NodeRef) (port : UInt16) (w : World L S) :
    StartEnd env n w (startNode env n port w) := by
  unfold startNode
  dsimp only
  split
  · rename_i hstate
    exact .running hstate
  · rename_i hstate
    exact .refused (.inl hstate) _
  · rename_i hstate
    exact .refused (.inr hstate) _
  all_goals
    rename_i hstate
    split
    · rw [setNode_starting n fun _ => by rfl]
      exact .bound (by simp [hstate]) _ _
    · rw [setState, setNode_starting n fun _ => by rfl]
      exact .failed (by simp [hstate]) _ _

theorem stopServer_eq (env : Surroundings L S) (n : NodeRef) (w : World L S) :
    ∃ s, (stopServer env n w).2 =
      { w.setNode n fun node => { node with server := none } with outside := s } := by
  unfold stopServer
  split
  · rename_i hserver
    refine ⟨w.outside, ?_⟩
    rw [setNode_self]
    show { w.node n with server := none } = w.node n
    rw [← hserver]
  · exact ⟨_, rfl⟩

/-- What the first half of a shutdown does to the node. -/
theorem stop_eq (env : Surroundings L S) (n : NodeRef) (w : World L S) :
    ∃ s, (stopServer env n (w.setState n .stopping)).2 =
      { w.setNode n fun node => { node with state := .stopping, server := none } with
        outside := s } := by
  obtain ⟨s, hs⟩ := stopServer_eq env n (w.setState n .stopping)
  rw [setState, setNode_setNode] at hs
  exact ⟨s, hs⟩

theorem node_stop (env : Surroundings L S) (n m : NodeRef) (w : World L S) :
    (stopServer env n (w.setState n .stopping)).2.node m =
      if m = n ∧ n.number < w.nodes.length then
        { w.node m with state := .stopping, server := none }
      else w.node m := by
  obtain ⟨s, hs⟩ := stop_eq env n w
  rw [hs]
  exact node_setNode ..

theorem startNode_runs (n : NodeRef) (port : UInt16) (w : World L S) :
    Runs w (startNode env n port w).2 := by
  have hend := startNode_end env n port w
  generalize startNode env n port w = result at hend
  cases hend with
  | running hstate => exact .refl w
  | refused hstate e => exact .refl w
  | bound hstate a s =>
    exact (Runs.outside w s).trans (.node n (fun _ => ⟨rfl, rfl, rfl⟩) fun _ => rfl)
  | failed hstate e s =>
    exact (Runs.outside w s).trans (.node n (fun _ => ⟨rfl, rfl, rfl⟩) fun _ => rfl)

theorem stopServer_runs (n : NodeRef) (w : World L S) : Runs w (stopServer env n w).2 := by
  obtain ⟨s, hs⟩ := stopServer_eq env n w
  rw [hs]
  have hserver : Runs w (w.setNode n fun node => { node with server := none }) :=
    .node n (fun _ => ⟨rfl, rfl, rfl⟩) fun _ => rfl
  exact hserver.trans (.outside _ s)

theorem createNode_runs (r : RegistryRef) (id : String) (w : World L S) :
    Runs w (w.createNode r id).2 := fun due => by
  have hentry (n : NodeRef) (w : World L S) : Runs w
      (w.setRegistry r fun reg => { reg with nodes := reg.nodes ++ [(id, n)] }) :=
    .registry r fun _ => ⟨rfl, rfl, rfl, fun h => h⟩
  exact (Move.handle due w).moves.trans ((Move.newNode due _ rfl).moves.trans (hentry _ _ due))

theorem Change.runs {w w' : World L S} (h : Change env may w w') : Runs w w' := by
  have handle (w : World L S) : Runs w w.freshListener.2 := fun due => (Move.handle due w).moves
  cases h with
  | outside s => exact .outside w s
  | send c payload => exact .traffic (sameLife_send ..)
  | ping c nonce => exact .traffic (sameLife_ping ..)
  | receive h => exact .traffic (sameLife_receive ..)
  | pong c p => exact .traffic (sameLife_onPong ..)
  | dials n f => exact .node n (fun _ => ⟨rfl, rfl, rfl⟩) fun _ => rfl
  | start n port => exact startNode_runs n port w
  | @stuck n _ _ =>
    have hstopping : Runs w (w.setState n .stopping) :=
      .node n (fun _ => ⟨rfl, rfl, rfl⟩) fun _ => rfl
    exact hstopping.trans (stopServer_runs n _)
  | turnAway h => exact fun due => (Move.turnedAway due w h).moves
  | close reason howns hthere => exact fun due => (Move.closes due w reason howns hthere).moves
  | listen n l => exact (handle w).trans (.node n (fun _ => ⟨rfl, rfl, rfl⟩) fun _ => rfl)
  | @unlisten n id h => exact .node n (fun _ => ⟨rfl, rfl, rfl⟩) fun _ => rfl
  | listenToRegistry r l =>
    exact (handle w).trans (.registry r fun _ => ⟨rfl, rfl, rfl, fun h => h⟩)
  | unlistenToRegistry r id => exact .registry r fun _ => ⟨rfl, rfl, rfl, fun h => h⟩
  | listenToNodes h => exact (handle w).trans (.registry _ fun _ => ⟨rfl, rfl, rfl, fun h => h⟩)
  | unlistenToNodes h => exact .registry _ fun _ => ⟨rfl, rfl, rfl, fun h => h⟩
  | closeRegistry h => exact .registry _ fun _ => ⟨rfl, rfl, rfl, fun _ => rfl⟩
  | emptyRegistry h hshut completed => exact .registry _ fun _ => ⟨rfl, rfl, rfl, fun h => h⟩

/-- Nobody is called in a change, and all that it may leave on record is a connection that is
closed. -/
theorem Change.record {w w' : World L S} (h : Change env may w w') :
    w'.calls = w.calls ∧
      (w'.history = w.history ∨
        ∃ n c reason, w'.history = w.history ++ [.closed n c reason]) := by
  cases h with
  | start n port =>
    have hend := startNode_end env n port w
    generalize startNode env n port w = result at hend
    cases hend <;> exact ⟨rfl, .inl rfl⟩
  | @stuck n hstate hstop =>
    obtain ⟨s, hs⟩ := stopServer_eq env n (w.setState n .stopping)
    rw [hs]
    exact ⟨rfl, .inl rfl⟩
  | @close n c reason howns hthere => exact ⟨rfl, .inr ⟨n, c, reason, rfl⟩⟩
  | _ => exact ⟨rfl, .inl rfl⟩

/-- A node that is not there tells nobody. -/
theorem nobody_moves {n : NodeRef} {w : World L S} (hn : w.nodes.length ≤ n.number)
    (rest : List (Due L)) :
    Moves ⟨rest, w⟩ ⟨rest, w.record (.nodeTold n (w.node n).registry (.shutDown n) [])⟩ := by
  have hshut : ¬ (Event.shutDown n).IsLife := id
  have htells := (Move.tells rest w n hshut).moves
  have hempty : (w.node n).listeners.snapshot = [] := by
    rw [node_of_length_le hn]
    rfl
  unfold Turn.tell at htells
  dsimp only at htells
  rwa [hempty] at htells

/-- **A story is made of moves**, in the course of which the calls are made that are due in it, and
none that is due after it. -/
theorem Story.moves {t : Turn L S} {w' : World L S} (h : Story env may t w') :
    ∀ rest : List (Due L), Moves ⟨t.due ++ rest, t.world⟩ ⟨rest, w'⟩ := by
  induction h with
  | done w => exact fun rest => .refl _
  | change h next ih => exact fun rest => (h.runs rest).trans (ih rest)
  | first h next ihFirst ih => exact fun rest => (ihFirst rest).trans (ih rest)
  | @call due l e w w' w'' during next ihDuring ih =>
    exact fun rest => (Move.calls (due ++ rest) w l e).moves.trans
      ((ihDuring (due ++ rest)).trans (ih rest))
  | @relay due r e w w' w'' pass hstay next ihPass ih =>
    intro rest
    have hpass := ihPass (due ++ rest)
    simp only [Turn.relay, List.append_nil] at hpass
    exact (Move.relays (due ++ rest) w r e).moves.trans (hpass.trans (ih rest))
  | @leave due r n w w₁ w₂ w₃ pass hthere gone next ihPass ihGone ih =>
    intro rest
    have hpass := ihPass (due ++ rest)
    have hgone := ihGone (due ++ rest)
    simp only [Turn.relay, Turn.announce, List.append_nil] at hpass hgone
    have hdrop : Runs w₁ (w₁.dropNode r (w₁.node n).id) :=
      .registry r fun _ => ⟨rfl, rfl, rfl, fun h => h⟩
    have hannounce := Move.announces (due ++ rest) (w₁.dropNode r (w₁.node n).id) r
      (Event.isRoster_nodeRemoved n)
    exact (Move.relays (due ++ rest) w r _).moves.trans (hpass.trans
      ((hdrop (due ++ rest)).trans (hannounce.moves.trans (hgone.trans (ih rest)))))
  | @tell n c payload w w' h next ih =>
    intro rest
    have htold := ih rest
    simp only [Turn.tell, List.append_nil] at htold
    have hmessage : ¬ (Event.message payload c (w.node n).id).IsLife := id
    exact (Move.tells rest w n hmessage).moves.trans htold
  | @connect n conn w w' hn hstate hadmitted next ih =>
    intro rest
    have htold := ih rest
    simp only [Turn.tell, List.append_nil] at htold
    obtain ⟨direction, hconn⟩ := hadmitted.comesTo
    exact (Move.begins rest w hn hconn.nodeId hconn.closeReason).moves.trans htold
  | @disconnect n c reason w w' howns hthere next ih =>
    intro rest
    have htold := ih rest
    simp only [Turn.tell, List.append_nil] at htold
    exact (Move.ends rest w reason howns hthere).moves.trans htold
  | @join r id w w' hopen hnew next ih =>
    intro rest
    have htold := ih rest
    simp only [Turn.announce, List.append_nil] at htold
    have hadded := Event.isRoster_nodeAdded (w.createNode r id).1
    exact (createNode_runs r id w rest).trans
      ((Move.announces rest (w.createNode r id).2 r hadded).moves.trans htold)
  | @nobody n w hn =>
    intro rest
    exact nobody_moves hn rest
  | @shut n w w₁ w₂ hn hstate hstop closing hclosed telling ihClosing ihTelling =>
    intro rest
    have htold := ihTelling rest
    simp only [Turn.tell, List.append_nil] at htold
    have hstopping : Runs w (w.setState n .stopping) :=
      .node n (fun _ => ⟨rfl, rfl, rfl⟩) fun _ => rfl
    have hterminate : Runs w₁ (w₁.terminate n) := .node n (fun _ => ⟨rfl, rfl, rfl⟩) fun _ => rfl
    have hdrop : Runs w₂ (w₂.dropListeners n) := .node n (fun _ => ⟨rfl, rfl, rfl⟩) fun _ => rfl
    have hshut : ¬ (Event.shutDown n).IsLife := id
    exact ((hstopping.trans (stopServer_runs n _)) rest).trans ((ihClosing rest).trans
      ((hterminate rest).trans ((Move.tells rest (w₁.terminate n) n hshut).moves.trans
        (htold.trans (hdrop rest)))))

/-- A step is made of moves, too, if the call that it makes is due. -/
theorem Step.moves {w w' : World L S} (h : Step env may w w') :
    ∃ due due' : List (Due L), Moves ⟨due, w⟩ ⟨due', w'⟩ := by
  cases h with
  | change h => exact ⟨[], [], h.runs []⟩
  | call l e => exact ⟨[.call l e], [], (Move.calls [] w l e).moves⟩
  | relay r e => exact ⟨[.relay r e], _, (Move.relays [] w r e).moves⟩
  | @leave r n hthere =>
    have hdrop : Runs w (w.dropNode r (w.node n).id) :=
      .registry r fun _ => ⟨rfl, rfl, rfl, fun h => h⟩
    exact ⟨[], _, (hdrop []).trans
      (Move.announces [] _ r (Event.isRoster_nodeRemoved n)).moves⟩
  | @tell n c h payload =>
    have hmessage : ¬ (Event.message payload c (w.node n).id).IsLife := id
    exact ⟨[], _, (Move.tells [] w n hmessage).moves⟩
  | connect hn hstate hadmitted =>
    obtain ⟨direction, hconn⟩ := hadmitted.comesTo
    exact ⟨[], _, (Move.begins [] w hn hconn.nodeId hconn.closeReason).moves⟩
  | @disconnect n c reason howns hthere =>
    exact ⟨[], _, (Move.ends [] w reason howns hthere).moves⟩
  | @join r id hopen hnew =>
    have hadded := Event.isRoster_nodeAdded (w.createNode r id).1
    exact ⟨[], _, (createNode_runs r id w []).trans (Move.announces [] _ r hadded).moves⟩
  | @nobody n hn => exact ⟨[], [], nobody_moves hn []⟩
  | @stop n hn hstate hstop =>
    have hstopping : Runs w (w.setState n .stopping) :=
      .node n (fun _ => ⟨rfl, rfl, rfl⟩) fun _ => rfl
    exact ⟨[], [], (hstopping.trans (stopServer_runs n _)) []⟩
  | terminate n =>
    have hterminate : Runs w (w.terminate n) := .node n (fun _ => ⟨rfl, rfl, rfl⟩) fun _ => rfl
    have hshut : ¬ (Event.shutDown n).IsLife := id
    exact ⟨[], _, (hterminate []).trans (Move.tells [] _ n hshut).moves⟩
  | dropListeners n =>
    have hdrop : Runs w (w.dropListeners n) := .node n (fun _ => ⟨rfl, rfl, rfl⟩) fun _ => rfl
    exact ⟨[], [], hdrop []⟩

/-- What happens in a story in which nothing is due. -/
theorem Story.runs {w w' : World L S} (h : Story env may ⟨[], w⟩ w') : Runs w w' := h.moves

end Courier.World
