import Courier.Proofs.Fronts
import Courier.Proofs.Worlds.Lifetimes
import Courier.Proofs.Worlds.Messages

/-!
# Courier — established connections

Once a connection is established, its node reads frame after frame from it, and does other things in
between. What is said here of one read and of what comes of it is used for whole runs in
`Courier.Proofs.Worlds.Reading`.

* `LeftAlone`, `Silent` — what may be done beside reading;
* `Delivered`, `Answered` — what comes of the frames that are read;
* `Established` — a connection that its node reads from;
* `Established.readNext_frame`, `Established.readNext_end` — one read, of a frame or of the end.
-/

namespace Courier

variable {L S : Type}

/-- The act is to read from the connection. -/
def Act.reads (n : NodeRef) (c : ConnectionRef) : Act L → Bool
  | .read m d => m = n ∧ d = c
  | _ => false

/-- An act reads from the connection if it is one turn of its reader. -/
theorem Act.reads_iff {n : NodeRef} {c : ConnectionRef} {act : Act L} :
    act.reads n c = true ↔ act = .read n c := by
  cases act <;> simp [Act.reads]

/-- The bytes by which a payload is answered: a probe by a frame, and nothing else. -/
def Payload.reply : Payload → Bytes
  | .ping p => Frame.ofEnvelope (.ofPayload (.pong ⟨p.nonce⟩))
  | _ => []

/-- The payload of a message. -/
def Event.payload? : Event → Option Payload
  | .message p _ _ => some p
  | _ => none

namespace World

/-- The whole frames that are left to read on a connection, and what comes behind them. -/
def unread (c : ConnectionRef) (w : World L S) : List Received × Bytes :=
  Frame.whole (w.connection c).socket.maxFrameSize (w.source c).data

/-- What the next whole frame on a connection bears. -/
def nextPayload (c : ConnectionRef) (w : World L S) : Option Payload :=
  (w.unread c).1.head?.map (·.envelope.payload)

/-- What a listener has heard on a connection, in order. -/
def heardOn [DecidableEq L] (c : ConnectionRef) (l : L) (w : World L S) : List Payload :=
  (w.mailCalls c).filterMap fun call =>
    if call.listener = l then call.event.payload? else none

variable (env : Surroundings L S) (depth : Nat) (n : NodeRef) (c : ConnectionRef)

/-- The worlds in which the node reads from the connection, in the course of these acts. -/
def readings : List (Act L) → World L S → List (World L S)
  | [], _ => []
  | act :: acts, w =>
    (if act.reads n c then [w] else []) ++ readings acts (perform env depth act w).2

/-- The world after the next frame was taken from the connection, or there was none. -/
def afterReceive (w : World L S) : World L S :=
  w.setConnection c fun _ => ((w.connection c).receive env.timing).2

/-- The world after the node has told its listeners of a message that it has just taken from the
connection. -/
def afterTelling (payload : Payload) (w : World L S) : World L S :=
  raise (World.call env depth) n (.message payload c (w.node n).id) (afterReceive env c w)

/-- Only the node reads from the connection, and its replies can be written. Neither any other act
closes the connection, nor those who are told of a message that was read. -/
structure LeftAlone (act : Act L) (w : World L S) : Prop where
  reader : ∀ m, act = .read m c → m = n
  replies : act.reads n c → ∀ p, w.nextPayload c = some (.ping p) →
    ∃ size, (Frame.write (.ofPayload (.pong ⟨p.nonce⟩)) (w.connection c).socket.maxFrameSize
      (w.connection c).socket.stream.sink).1 = .ok size
  others : act.reads n c = false →
    ((perform env depth act w).2.connection c).closeReason = none
  listeners : act.reads n c → ∀ p, w.nextPayload c = some p → p.isMail →
    ((afterTelling env depth n c p w).connection c).closeReason = none

/-- Nobody but the node itself writes on the connection, neither by another act, nor when told of a
message that was read. -/
structure Silent (act : Act L) (w : World L S) : Prop where
  others : act.reads n c = false → (perform env depth act w).2.written c = w.written c
  listeners : act.reads n c → ∀ p, w.nextPayload c = some p → p.isMail →
    (afterTelling env depth n c p w).written c = (afterReceive env c w).written c

/-- A message among frames that were read, with those who listened to the node when it was. -/
def mail? : Received × World L S → Option (Payload × List (NodeListener L))
  | (r, u) =>
    if r.envelope.payload.isMail then
      some (r.envelope.payload, (u.node n).listeners.snapshot)
    else none

/-- These deliveries are what the listeners have heard from one world to another: one for each
message among the frames that were taken, each in the world in which it was read. -/
structure Delivered (taken : List (Received × World L S)) (deliveries : List (Delivery L))
    (w w' : World L S) : Prop where
  messages : deliveries.map (fun d => (d.payload, d.listeners)) = taken.filterMap (mail? n)
  calls : w'.mailCalls c = w.mailCalls c ++
    deliveries.flatMap fun d => d.calls (.message d.payload c (w.node n).id)
  deeds : w'.mailDeeds c = w.mailDeeds c ++
    deliveries.flatMap fun d =>
      d.deeds n (w.node n).registry (.message d.payload c (w.node n).id)

/-- What the frames bear that were taken. -/
def payloads (taken : List (Received × World L S)) : List Payload :=
  taken.map (·.1.envelope.payload)

/-- A frame that is not for listeners was read in this world: nobody is called, and the reply is
written, if it has one. -/
structure Answered (r : Received) (u : World L S) : Prop where
  calls : (perform env depth (.read n c) u).2.calls = u.calls
  written : (perform env depth (.read n c) u).2.written c =
    u.written c ++ r.envelope.payload.reply

-- ---------------------------------------------------------------------------
-- One read
-- ---------------------------------------------------------------------------

/-- A connection that its node reads from. -/
structure Established (w : World L S) : Prop where
  settled : Settled w
  sockets : w.OpenSockets
  began : .began n ∈ w.life c
  closeReason : (w.connection c).closeReason = none
  steady : (w.source c).Steady

variable {env depth n c} {w : World L S}

/-- It is in the table of its node, and nobody has closed it. -/
theorem Established.listed (h : Established n c w) :
    w.life c = [.began n] ∧ n.number < w.nodes.length ∧ w.owns n c = true ∧
      (w.node n).table.contains c = true := by
  cases h.settled.sound.standing c with
  | unknown closes life _ _ => exact absurd (life ▸ h.began) not_mem_closings_of_began
  | listed m closes life others node owns table reason =>
    obtain rfl : n = m := h.settled.sound.began_unique h.began (by simp [life])
    rw [h.closeReason] at reason
    cases closes with
    | nil => exact ⟨life, node, owns, (table n).trans (decide_eq_true rfl)⟩
    | cons x closes => cases reason
  | ended m before reason first after life others node owns table closed isFirst =>
    rw [h.closeReason] at closed
    cases closed

/-- It is a connection that there is. -/
theorem Established.known (h : Established n c w) : c.number < w.connections.length :=
  (owns_iff.mp h.listed.2.2.1).1

/-- What is sent or received leaves the connection established. -/
theorem Established.setConnection (h : Established n c w) {f : Connection → Connection}
    (hsame : SameLife (w.connection c) (f (w.connection c)))
    (hsteady : (f (w.connection c)).socket.stream.source.Steady) :
    (w.setConnection c f).connection c = f (w.connection c) ∧
      Established n c (w.setConnection c f) := by
  have hself : (w.setConnection c f).connection c = f (w.connection c) := by
    rw [connection_setConnection, if_pos ⟨rfl, h.known⟩]
  refine ⟨hself, ?_⟩
  exact {
    settled := h.settled.runs (.traffic hsame)
    sockets := by
      intro d hopen
      rw [connection_setConnection] at hopen ⊢
      split at hopen
      · rename_i hd
        rw [if_pos hd, hd.1, hsame.closed]
        exact h.sockets c h.closeReason
      · rename_i hd
        rw [if_neg hd]
        exact h.sockets d hopen
    began := h.began
    closeReason := by rw [hself, hsame.closeReason, h.closeReason]
    steady := by
      unfold World.source
      rwa [hself] }

/-- An act that leaves it open leaves the connection established. -/
theorem Established.of_open (h : Established n c w) {act : Act L}
    (hopen : ((perform env depth act w).2.connection c).closeReason = none)
    (hsteady : ((perform env depth act w).2.source c).Steady) :
    Established n c (perform env depth act w).2 := by
  have hstory : Story env (fun _ _ => True) ⟨[], w⟩ (perform env depth act w).2 :=
    performWith_story (call_faithful env depth) trivial
  exact {
    settled := h.settled.runs hstory.runs
    sockets := hstory.open_sockets h.sockets
    began := (hstory.later.life c).subset h.began
    closeReason := hopen
    steady := hsteady }

/-- What is received is what is read from the stream. -/
theorem receive_of_read {conn : Connection} (hopen : conn.socket.closed = false)
    {outcome : Except NetworkError (Option Received)} {source : Source}
    (hread : Frame.read conn.socket.maxFrameSize conn.socket.stream.source = (outcome, source))
    (t : Timing) :
    (conn.receive t).1 = outcome ∧ (conn.receive t).2.socket.stream.source = source := by
  have hsocket : conn.socket.receive = (outcome, conn.socket.withSource source) := by
    unfold Socket.receive
    rw [hopen, hread]
    rfl
  unfold Connection.receive
  rw [hsocket]
  cases outcome with
  | error e => exact ⟨rfl, rfl⟩
  | ok outcome => cases outcome <;> exact ⟨rfl, rfl⟩

/-- To receive changes the connection as `receive_next` does. -/
theorem Established.connection_afterReceive (h : Established n c w) (env : Surroundings L S) :
    (afterReceive env c w).connection c = ((w.connection c).receive env.timing).2 := by
  unfold afterReceive
  rw [connection_setConnection, if_pos ⟨rfl, h.known⟩]

/-- To receive writes nothing. -/
theorem Established.written_afterReceive (h : Established n c w) (env : Surroundings L S) :
    (afterReceive env c w).written c = w.written c := by
  rw [written, h.connection_afterReceive env, sink_receive]
  rfl

/-- Reading leaves the connection established. -/
theorem Established.receive (h : Established n c w) (env : Surroundings L S)
    {outcome : Except NetworkError (Option Received)} {source : Source}
    (hread : Frame.read (w.connection c).socket.maxFrameSize (w.source c) = (outcome, source))
    (hsteady : source.Steady) :
    Established n c (afterReceive env c w) ∧
      ((w.connection c).receive env.timing).1 = outcome ∧
      (afterReceive env c w).source c = source := by
  obtain ⟨houtcome, hsource⟩ :=
    receive_of_read (h.sockets c h.closeReason) hread env.timing
  obtain ⟨hself, hreceived⟩ := h.setConnection (f := fun _ => _)
    (sameLife_receive env.timing (w.connection c)) (by rwa [hsource])
  refine ⟨hreceived, houtcome, ?_⟩
  rw [World.source, h.connection_afterReceive env, hsource]

/-- Whatever has arrived is taken, if it has not to be waited for. -/
theorem Established.readNext_eq (h : Established n c w) (env : Surroundings L S)
    (call : L → Event → World L S → World L S)
    (hready : (w.connection c).socket.isReady = true) :
    readNext env call n c w =
      match ((w.connection c).receive env.timing).1 with
      | .ok (some r) => onPayload env call n c r.envelope.payload (afterReceive env c w)
      | .ok none => closeConnection call n c .closedByPeer (afterReceive env c w)
      | .error _ => closeConnection call n c .readError (afterReceive env c w) := by
  have hnot : (w.connection c).isClosed = false := by
    rw [Connection.isClosed, h.closeReason, Option.isSome_none]
  unfold readNext afterReceive
  dsimp only
  rw [hnot, hready]
  rfl

/-- Where a whole frame is left, it is taken up, and then the others are left. -/
theorem Established.readNext_frame (h : Established n c w) (env : Surroundings L S)
    (call : L → Event → World L S → World L S) {r : Received} {frames : List Received}
    {rest : Bytes} (hunread : w.unread c = (r :: frames, rest)) :
    readNext env call n c w =
        onPayload env call n c r.envelope.payload (afterReceive env c w) ∧
      Established n c (afterReceive env c w) ∧
      (afterReceive env c w).unread c = (frames, rest) ∧
      ((afterReceive env c w).source c).dry = (w.source c).dry := by
  obtain ⟨taken, hparse, hwhole⟩ := Frame.parse_of_whole_cons hunread
  obtain ⟨plan, hplan, hread⟩ := Frame.read_of_parse h.steady hparse
  obtain ⟨hreceived, houtcome, hsource⟩ :=
    h.receive env hread (h.steady.of_suffix _ _ hplan)
  have hready : (w.connection c).socket.isReady = true := by
    obtain ⟨hheader, -, hlength, -⟩ :=
      Frame.beginsWith_iff.mp (Frame.parse_eq_some_iff.mp (congrArg Prod.fst hparse))
    unfold World.source at hheader hlength
    unfold Socket.isReady
    simp [hheader, hlength]
  refine ⟨?_, hreceived, ?_, by rw [hsource]⟩
  · rw [h.readNext_eq env call hready, houtcome]
  · rw [unread, hsource, h.connection_afterReceive env, (sameLife_receive ..).maxFrameSize]
    exact hwhole

/-- The reader is done: no whole frame is left, and the stream has ended, or goes on with a frame that
is refused. -/
def NoMore (c : ConnectionRef) (w : World L S) : Prop :=
  (w.unread c).1 = [] ∧ ((w.source c).dry = .ended ∨
    Frame.Refused (w.connection c).socket.maxFrameSize (w.unread c).2)

/-- Where no more can be read, the connection is closed. -/
theorem Established.readNext_end (h : Established n c w) (env : Surroundings L S)
    (call : L → Event → World L S → World L S) (hnone : NoMore c w) :
    readNext env call n c w =
        closeConnection call n c (if (w.unread c).2 = [] then .closedByPeer else .readError)
          (afterReceive env c w) ∧
      Established n c (afterReceive env c w) := by
  have hunread : w.unread c = ([], (w.unread c).2) := Prod.ext hnone.1 rfl
  obtain ⟨hrest, hparse⟩ := Frame.parse_of_whole_nil hunread
  by_cases hdry : (w.source c).dry = .ended
  · obtain ⟨plan, hplan, hread⟩ :=
      Frame.read_steady (w.connection c).socket.maxFrameSize h.steady hdry
    obtain ⟨hreceived, houtcome, -⟩ := h.receive env hread (h.steady.of_suffix _ _ hplan)
    have hready : (w.connection c).socket.isReady = true := by
      unfold World.source at hdry
      unfold Socket.isReady
      simp [hdry]
    refine ⟨?_, hreceived⟩
    rw [h.readNext_eq env call hready, houtcome]
    rcases hparse with ⟨hnil, hparse⟩ | ⟨hne, e, hparse⟩
    · rw [hparse, if_pos hnil]
    · rw [hparse, if_neg hne]
  · -- the stream may go on, but this frame is refused
    have hrefused := hnone.2.resolve_left hdry
    have hne := hrefused.ne_nil
    rw [hrest] at hrefused
    obtain ⟨e, k, plan, hplan, hread⟩ := Frame.read_of_refused h.steady hrefused
    obtain ⟨hreceived, houtcome, -⟩ := h.receive env hread (h.steady.of_suffix _ _ hplan)
    have hready : (w.connection c).socket.isReady = true := by
      obtain ⟨hheader, hfault⟩ := hrefused
      unfold World.source at hheader hfault
      unfold Socket.isReady
      rcases hfault with hmax | ⟨hlength, -⟩
      · simp [hheader, hmax]
      · simp [hheader, hlength]
    refine ⟨?_, hreceived⟩
    rw [h.readNext_eq env call hready, houtcome, if_neg hne]

/-- A payload that is not for listeners changes nothing but the connection, on which the reply is
written. -/
theorem onPayload_control (env : Surroundings L S)
    (call : L → Event → World L S → World L S) {payload : Payload}
    (hkind : payload.isMail = false) (howns : w.owns n c = true)
    (hopen : (w.connection c).closeReason = none) (hsocket : (w.connection c).socket.closed = false)
    (hreply : ∀ p, payload = .ping p →
      ∃ size, (Frame.write (.ofPayload (.pong ⟨p.nonce⟩)) (w.connection c).socket.maxFrameSize
        (w.connection c).socket.stream.sink).1 = .ok size) :
    ∃ f : Connection → Connection,
      onPayload env call n c payload w = w.setConnection c f ∧
        SameLife (w.connection c) (f (w.connection c)) ∧
        (f (w.connection c)).socket.stream.source = (w.connection c).socket.stream.source ∧
        (f (w.connection c)).socket.stream.sink.written =
          (w.connection c).socket.stream.sink.written ++ payload.reply := by
  cases payload with
  | handshake h =>
    exact ⟨id, (setConnection_self rfl).symm, .refl _, rfl, (List.append_nil _).symm⟩
  | ping p =>
    obtain ⟨size, hwrite⟩ := hreply p rfl
    have hsent : ((w.connection c).send env.timing (.pong ⟨p.nonce⟩)).1 = .ok () :=
      send_ok_of_write hopen hsocket hwrite
    refine ⟨fun _ => ((w.connection c).send env.timing (.pong ⟨p.nonce⟩)).2, ?_,
      sameLife_send .., source_send .., written_of_send_ok hsent⟩
    unfold onPayload sendOn
    dsimp only
    rw [howns, hsent]
    rfl
  | pong p =>
    refine ⟨fun conn => conn.onPong env.timing p, rfl, sameLife_onPong .., ?_, ?_⟩
    · rw [socket_onPong]
    · rw [socket_onPong]
      exact (List.append_nil _).symm
  | confidential m => cases hkind
  | application m => cases hkind

end World
end Courier
