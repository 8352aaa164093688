import Courier.Link.ClearNet
import Courier.Proofs.Fronts
import Courier.Proofs.Worlds.Lifetimes

/-!
# Courier — who is let in

A peer may send whatever it likes. It gets a connection if it begins with a frame that holds a
handshake of this protocol and is not banned, and all that anyone sees of any other peer is a stream
that was given up, to which nothing was written. A node that dials asks the same of whoever answers,
and does not dial who is banned.

* `Admissible` — what a peer has to send, and from where;
* `greet_cases`, `accept_admission` — letting in a peer;
* `Story.admitted` — how a connection that a node has taken up has come to it;
* `admission` — both sides, after any run.
-/

namespace Courier.World

variable {L S : Type}

-- ---------------------------------------------------------------------------
-- Handshakes
-- ---------------------------------------------------------------------------

/-- A peer from this origin that sends this data may come in: its first frame is its handshake, and
it is not banned under the address that it gives or, if it gives none, comes from. -/
structure Admissible (max : Nat) (bans : BanList) (data : Bytes) (origin : Option Address)
    (peer : Handshake) (a : Address) : Prop where
  frame : ∃ size, Frame.BeginsWith max data ⟨.ofPayload (.handshake peer), size⟩
  version : peer.version = protocolVersion
  address : (peer.address <|> origin) = some a
  allowed : bans.isBanned a = false

/-- The data tells who the peer is. -/
theorem Admissible.unique {max : Nat} {bans : BanList} {data : Bytes} {origin : Option Address}
    {peer peer' : Handshake} {a a' : Address} (h : Admissible max bans data origin peer a)
    (h' : Admissible max bans data origin peer' a') : peer' = peer ∧ a' = a := by
  obtain ⟨size, hframe⟩ := h.frame
  obtain ⟨size', hframe'⟩ := h'.frame
  cases hframe.unique hframe'
  exact ⟨rfl, Option.some.inj (h'.address.symm.trans h.address)⟩

/-- `accept_handshake` accepts a handshake of this version and nothing else. -/
theorem peerHandshake_eq_ok_iff {r : Received} {peer : Handshake} :
    peerHandshake r = .ok peer ↔
      r.envelope.payload = .handshake peer ∧ peer.version = protocolVersion := by
  unfold peerHandshake
  split
  · rename_i h hpayload
    rw [hpayload]
    split
    · rename_i hversion
      constructor
      · intro heq
        cases heq
        exact ⟨rfl, hversion⟩
      · rintro ⟨heq, -⟩
        cases heq
        rfl
    · rename_i hversion
      refine iff_of_false (fun heq => nomatch heq) ?_
      rintro ⟨heq, hpeer⟩
      cases heq
      exact hversion hpeer
  · rename_i hother
    exact iff_of_false (fun heq => nomatch heq) fun h => hother peer h.1

/-- A peer may come in only with what its first frame says. -/
theorem Admissible.peerHandshake_eq {max : Nat} {bans : BanList} {data : Bytes}
    {origin : Option Address} {peer : Handshake} {a : Address}
    (h : Admissible max bans data origin peer a) {r : Received}
    (hfront : Frame.BeginsWith max data r) : peerHandshake r = .ok peer := by
  obtain ⟨size, hframe⟩ := h.frame
  cases hframe.unique hfront
  exact peerHandshake_eq_ok_iff.mpr ⟨rfl, h.version⟩

/-- What is read is of this version. -/
theorem eq_ofPayload_of_beginsWith {max : Nat} {data : Bytes} {r : Received}
    (h : Frame.BeginsWith max data r) : r.envelope = .ofPayload r.envelope.payload := by
  obtain ⟨body, rest, -, -, -, -, hbody⟩ := h
  obtain ⟨-, hversion, -⟩ := Envelope.ofBytes_eq_ok_iff.mp hbody
  exact congrArg (Envelope.mk · _) hversion

variable {env : Surroundings L S} {n : NodeRef} {stream : StreamEnd} {origin : Option Address}
  {w : World L S}

/-- A connection with a peer that has come in. -/
structure Inbound (node : Node L) (stream : StreamEnd) (peer : Handshake) (a : Address)
    (conn : Connection) : Prop where
  direction : conn.direction = .inbound
  peerAddress : conn.peerAddress = a
  peerNode : conn.peerNode = some peer.nodeId
  nodeId : conn.nodeId = node.id
  closeReason : conn.closeReason = none
  socket : ∃ source, conn.socket =
    (Socket.onStream stream node.settings.maxFrameSize.toNat).withSource source

/-- A peer that may come in is greeted with a connection, and the stream of any other is given up as
it is. -/
theorem greet_cases (env : Surroundings L S) (origin : Option Address)
    (htime : (w.node n).settings.handshakeTimeoutMs ≠ 0) (hsource : stream.source.Steady) :
    let max := (w.node n).settings.maxFrameSize.toNat
    let bans := (w.registry (w.node n).registry).bans
    (∃ peer a conn, Admissible max bans stream.source.data origin peer a ∧
        w.greet env n stream origin = .ok conn ∧ Inbound (w.node n) stream peer a conn) ∨
      ((∀ peer a, ¬ Admissible max bans stream.source.data origin peer a) ∧
        ∃ socket, w.greet env n stream origin = .error socket ∧
          socket.stream.sink = stream.sink) := by
  intro max bans
  have hread (r : Received) : (Frame.read max stream.source).1 = .ok (some r) ↔
      Frame.BeginsWith max stream.source.data r := Frame.read_eq_some_iff hsource
  have hreceive : (Socket.onStream stream max).receive =
      ((Frame.read max stream.source).1,
        (Socket.onStream stream max).withSource (Frame.read max stream.source).2) := rfl
  unfold greet
  dsimp only
  rw [if_neg htime, hreceive]
  generalize (Frame.read max stream.source).2 = source
  split
  · rename_i r socket heq
    obtain ⟨houtcome, rfl⟩ := Prod.mk.inj heq
    have hfront := (hread r).mp houtcome
    split
    · rename_i e hpeer
      refine .inr ⟨fun peer a h => ?_, _, rfl, rfl⟩
      rw [h.peerHandshake_eq hfront] at hpeer
      cases hpeer
    rename_i peer hpeer
    obtain ⟨hpayload, hversion⟩ := peerHandshake_eq_ok_iff.mp hpeer
    -- nobody else may come in with this frame
    have hother {peer' : Handshake} {a : Address}
        (h : Admissible max bans stream.source.data origin peer' a) : peer' = peer :=
      Except.ok.inj ((h.peerHandshake_eq hfront).symm.trans hpeer)
    split
    · rename_i haddress
      refine .inr ⟨fun peer' a h => ?_, _, rfl, rfl⟩
      have hsome := h.address
      rw [hother h, haddress] at hsome
      cases hsome
    rename_i a haddress
    split
    · rename_i hbanned
      refine .inr ⟨fun peer' a' h => ?_, _, rfl, rfl⟩
      have hsome := h.address
      rw [hother h, haddress] at hsome
      cases hsome
      exact absurd hbanned (Bool.eq_false_iff.mp h.allowed)
    · rename_i hbanned
      refine .inl ⟨peer, a, _, ⟨⟨r.size, ?_⟩, hversion, haddress, Bool.eq_false_iff.mpr hbanned⟩,
        rfl, ⟨rfl, rfl, rfl, rfl, rfl, source, rfl⟩⟩
      rw [← hpayload, ← eq_ofPayload_of_beginsWith hfront]
      exact hfront
  · rename_i outcome socket hother heq
    obtain ⟨houtcome, rfl⟩ := Prod.mk.inj heq
    refine .inr ⟨fun peer a h => ?_, _, rfl, rfl⟩
    obtain ⟨size, hsize⟩ := h.frame
    exact hother _ (houtcome.symm.trans ((hread _).mpr hsize))

-- ---------------------------------------------------------------------------
-- Letting in a peer
-- ---------------------------------------------------------------------------

variable {may : Act L → World L S → Prop} {call : L → Event → World L S → World L S}
  (hcall : Faithful env may call)

include hcall in
/-- A node that runs takes up a new connection, which stays between those that it was opened
between. -/
theorem register_continues (conn : Connection) (hstate : (w.node n).state = .running) :
    .began n ∈ (register call n (w.addConnection conn).1 (w.addConnection conn).2).2.life
        (w.addConnection conn).1 ∧
      Continues conn ((register call n (w.addConnection conn).1
        (w.addConnection conn).2).2.connection (w.addConnection conn).1) := by
  let c := (w.addConnection conn).1
  let taken := (w.addConnection conn).2.takeIn n c
  have htold := raise_story hcall n (.connected c) taken
  have hraise : (register call n c (w.addConnection conn).2).2 =
      raise call n (.connected c) taken := by
    unfold register
    dsimp only
    rw [if_pos (.inr hstate)]
  show .began n ∈ (register call n c (w.addConnection conn).2).2.life c ∧
    Continues conn ((register call n c (w.addConnection conn).2).2.connection c)
  rw [hraise]
  constructor
  · refine (htold.later.life c).subset ?_
    rw [Turn.tell, life_record]
    simp [Deed.moment?]
  · have hself : taken.connection c = conn := by
      show (w.addConnection conn).2.connection c = conn
      rw [connection_addConnection]
      exact if_pos rfl
    have hlength : c.number < taken.connections.length :=
      Nat.lt_of_lt_of_eq (Nat.lt_succ_self _) (length_addConnection conn w).symm
    have hlast := htold.lasting.connection c hlength
    rwa [show ((Turn.tell n (.connected c) ⟨[], taken⟩).world).connection c = conn from hself]
      at hlast

/-- What is seen of a peer that was let in. -/
structure LetIn (n : NodeRef) (stream : StreamEnd) (peer : Handshake) (a : Address)
    (c : ConnectionRef) (w w' : World L S) : Prop where
  began : .began n ∈ w'.life c
  direction : (w'.connection c).direction = .inbound
  peerAddress : (w'.connection c).peerAddress = a
  peerNode : (w'.connection c).peerNode = some peer.nodeId
  nodeId : (w'.connection c).nodeId = (w.node n).id
  /-- The handshake of the node is written first, before whatever listeners send. -/
  written : stream.sink.written ++
      Frame.ofEnvelope (.ofPayload (.handshake ⟨(w.node n).id, (w.node n).address, protocolVersion⟩))
    <+: (w'.connection c).socket.stream.sink.written

/-- A peer that was not let in: the stream was given up, and nothing was written to it. -/
def GivenUp (env : Surroundings L S) (stream : StreamEnd) (w w' : World L S) : Prop :=
  ∃ socket : Socket, socket.stream.sink = stream.sink ∧
    w' = { w with outside := env.hangUp socket w.outside }

include hcall in
/-- A peer that is greeted with a connection is let in, if it can be answered. -/
theorem accept_of_greet {peer : Handshake} {a : Address} {conn : Connection} {size : Nat}
    (hstate : (w.node n).state = .running) (hgreet : w.greet env n stream origin = .ok conn)
    (hin : Inbound (w.node n) stream peer a conn)
    (hwrite : (Frame.write (.ofPayload (.handshake (w.node n).handshake))
      (w.node n).settings.maxFrameSize.toNat stream.sink).1 = .ok size) :
    LetIn n stream peer a ⟨w.connections.length⟩ w (accept env call n stream origin w) := by
  obtain ⟨source, hsocket⟩ := hin.socket
  let payload : Payload := .handshake (w.node n).handshake
  have hframe : (Frame.write (.ofPayload payload) conn.socket.maxFrameSize
      conn.socket.stream.sink).1 = .ok size := by
    rw [hsocket]
    exact hwrite
  have hsent : (conn.send env.timing payload).1 = .ok () :=
    send_ok_of_write hin.closeReason (by rw [hsocket]; rfl) hframe
  have hwritten := written_of_send_ok hsent
  have hsame := sameLife_send env.timing payload conn
  have haccept : accept env call n stream origin w =
      (register call n (w.addConnection (conn.send env.timing payload).2).1
        (w.addConnection (conn.send env.timing payload).2).2).2 := by
    unfold accept
    rw [hgreet]
    unfold welcome
    dsimp only
    rw [setConnection_addConnection]
    split
    · rfl
    · rename_i heq
      rw [show (w.addConnection conn).2.node n = w.node n from rfl] at heq
      cases heq.symm.trans hsent
  obtain ⟨hbegan, hcontinues⟩ := register_continues hcall
    (conn.send env.timing payload).2 hstate
  rw [haccept]
  exact {
    began := hbegan
    direction := hcontinues.direction.trans (hsame.direction.trans hin.direction)
    peerAddress := hcontinues.peerAddress.trans (hsame.peerAddress.trans hin.peerAddress)
    peerNode := hcontinues.peerNode.trans (hsame.peerNode.trans hin.peerNode)
    nodeId := hcontinues.nodeId.trans (hsame.nodeId.trans hin.nodeId)
    written := by
      have hfirst := hcontinues.written
      rwa [hwritten, hsocket] at hfirst }

include hcall in
/-- **A peer is let in just when it may come in**, and any other leaves nothing behind. -/
theorem accept_admission (hs : w.Sound) (hstate : (w.node n).state = .running)
    (htime : (w.node n).settings.handshakeTimeoutMs ≠ 0) (hsource : stream.source.Steady)
    {size : Nat} (hwrite : (Frame.write (.ofPayload (.handshake (w.node n).handshake))
      (w.node n).settings.maxFrameSize.toNat stream.sink).1 = .ok size) :
    let max := (w.node n).settings.maxFrameSize.toNat
    let bans := (w.registry (w.node n).registry).bans
    let c : ConnectionRef := ⟨w.connections.length⟩
    let w' := accept env call n stream origin w
    (.began n ∈ w'.life c ↔
        ∃ peer a, Admissible max bans stream.source.data origin peer a) ∧
      (∀ peer a, Admissible max bans stream.source.data origin peer a →
        LetIn n stream peer a c w w') ∧
      ((∀ peer a, ¬ Admissible max bans stream.source.data origin peer a) →
        GivenUp env stream w w') := by
  intro max bans c w'
  rcases greet_cases env origin htime hsource with
    ⟨peer, a, conn, hadmissible, hgreet, hin⟩ | ⟨hnone, socket, hgreet, hsink⟩
  · have hlet := accept_of_greet hcall hstate hgreet hin hwrite
    refine ⟨iff_of_true hlet.began ⟨peer, a, hadmissible⟩, fun peer' a' h => ?_,
      fun h => absurd hadmissible (h peer a)⟩
    obtain ⟨rfl, rfl⟩ := hadmissible.unique h
    exact hlet
  · have hup : w' = { w with outside := env.hangUp socket w.outside } := by
      show accept env call n stream origin w = _
      unfold accept
      rw [hgreet]
      rfl
    refine ⟨iff_of_false ?_ ?_, fun peer a h => absurd h (hnone peer a),
      fun _ => ⟨socket, hsink, hup⟩⟩
    · -- nothing is on record of a connection to come
      rw [hup, show ({ w with outside := env.hangUp socket w.outside } : World L S).life c = [] from
        hs.future c (Nat.le_refl _)]
      exact List.not_mem_nil
    · rintro ⟨peer, a, h⟩
      exact hnone peer a h

-- ---------------------------------------------------------------------------
-- Dialing
-- ---------------------------------------------------------------------------

/-- A new connection is on record as taken up only if it was admitted just then. -/
theorem Step.began {w' : World L S} (h : Step env may w w') {c : ConnectionRef}
    (hold : .began n ∉ w.life c) (hnew : .began n ∈ w'.life c) :
    ∃ conn, Admitted env may w n conn ∧ n.number < w.nodes.length ∧
      c.number < w'.connections.length ∧ w'.connection c = conn := by
  -- nothing else on record begins a life
  have hnone (deeds : List (Deed L)) (hdeeds : ∀ d ∈ deeds, d.moment? c ≠ some (.began n))
      (hhistory : w'.history = w.history ++ deeds) : False := by
    rw [life, hhistory, List.filterMap_append] at hnew
    obtain ⟨d, hd, hmoment⟩ := List.mem_filterMap.mp ((List.mem_append.mp hnew).resolve_left hold)
    exact hdeeds d hd hmoment
  have hsingle {d : Deed L} (hd : d.moment? c ≠ some (.began n))
      (hhistory : w'.history = w.history ++ [d]) : False :=
    hnone [d] (List.forall_mem_singleton.mpr hd) hhistory
  have hclosed (m : NodeRef) (d : ConnectionRef) (reason : CloseReason) :
      (Deed.closed m d reason : Deed L).moment? c ≠ some (.began n) := by
    unfold Deed.moment?
    dsimp only
    split <;> simp
  cases h with
  | change h =>
    rcases h.record.2 with hsame | ⟨m, d, reason, hhistory⟩
    · exact absurd (by rwa [life, hsame] at hnew) hold
    · exact (hsingle (hclosed m d reason) hhistory).elim
  | call l e => exact absurd hnew hold
  | relay r e => exact (hsingle (by simp [Deed.moment?]) rfl).elim
  | leave hthere => exact (hsingle (by simp [Deed.moment?]) rfl).elim
  | tell h payload => exact (hsingle (by simp [Deed.moment?]) rfl).elim
  | @connect m conn hn hstate hadmitted =>
    rw [Turn.tell, life_record] at hnew
    have hmoment := Option.mem_toList.mp ((List.mem_append.mp hnew).resolve_left hold)
    unfold Deed.moment? at hmoment
    dsimp only at hmoment
    split at hmoment
    · rename_i hc
      cases hmoment
      refine ⟨conn, hadmitted, hn, ?_, ?_⟩
      · rw [← hc]
        exact Nat.lt_of_lt_of_eq (Nat.lt_succ_self _) (length_addConnection conn w).symm
      · rw [← hc]
        show (w.addConnection conn).2.connection (w.addConnection conn).1 = conn
        rw [connection_addConnection]
        exact if_pos rfl
    · cases hmoment
  | @disconnect m d reason howns hthere =>
    refine (hnone [.closed m d reason, .nodeTold m _ (.disconnected d _) _] ?_
      (List.append_assoc ..)).elim
    refine List.forall_mem_cons.mpr ⟨hclosed m d reason, List.forall_mem_singleton.mpr ?_⟩
    unfold Deed.moment?
    dsimp only
    split <;> simp
  | join hopen hnew => exact (hsingle (by simp [Deed.moment?]) rfl).elim
  | nobody hn => exact (hsingle (by simp [Deed.moment?]) rfl).elim
  | @stop m hm hstate hstop =>
    obtain ⟨s, hs⟩ := stopServer_eq env m (w.setState m .stopping)
    rw [hs] at hnew
    exact absurd hnew hold
  | terminate m => exact (hsingle (by simp [Deed.moment?]) rfl).elim
  | dropListeners m => exact absurd hnew hold

/-- How a connection has come to a node in the course of what lies between two worlds. -/
def Came (env : Surroundings L S) (may : Act L → World L S → Prop) (n : NodeRef)
    (c : ConnectionRef) (w w' : World L S) : Prop :=
  ∃ u conn, Lasting w u ∧ Admitted env may u n conn ∧ n.number < u.nodes.length ∧ Lasting u w' ∧
    c.number < w'.connections.length ∧ Continues conn (w'.connection c)

/-- **A connection that a node has taken up was admitted**, in the world as it was then. -/
theorem Story.admitted {t : Turn L S} {w' : World L S} (h : Story env may t w')
    {c : ConnectionRef} (hold : .began n ∉ t.world.life c) (hnew : .began n ∈ w'.life c) :
    Came env may n c t.world w' := by
  let R (w w' : World L S) : Prop :=
    Lasting w w' ∧ (.began n ∉ w.life c → .began n ∈ w'.life c → Came env may n c w w')
  have htrans {w w' w'' : World L S} (h : R w w') (h' : R w' w'') : R w w'' := by
    refine ⟨h.1.trans h'.1, fun hold hnew => ?_⟩
    by_cases hmid : .began n ∈ w'.life c
    · obtain ⟨u, conn, hu, hadmitted, hn, hu', hc, hcontinues⟩ := h.2 hold hmid
      exact ⟨u, conn, hu, hadmitted, hn, hu'.trans h'.1, Nat.lt_of_lt_of_le hc h'.1.connections,
        hcontinues.trans (h'.1.connection c hc)⟩
    · obtain ⟨u, conn, hu, hadmitted, hn, hu', hc, hcontinues⟩ := h'.2 hmid hnew
      exact ⟨u, conn, h.1.trans hu, hadmitted, hn, hu', hc, hcontinues⟩
  have hstep {w w' : World L S} (h : Step env may w w') : R w w' := by
    refine ⟨h.lasting, fun hold hnew => ?_⟩
    obtain ⟨conn, hadmitted, hn, hc, rfl⟩ := h.began hold hnew
    exact ⟨w, _, .refl w, hadmitted, hn, h.lasting, hc, .refl _⟩
  have hrefl (w : World L S) : R w w := ⟨.refl w, fun hold hnew => absurd hnew hold⟩
  exact (h.keeps hrefl htrans hstep).2 hold hnew

/-- What there was when a stream was opened and the handshake was sent. -/
theorem openStream_eq_ok {a : Address} {dial : Dial}
    (h : (openStream env n a w).1 = .ok dial) :
    w.isBanned n a = false ∧ dial.address = a ∧ ∃ stream sink,
      (env.dial (w.node n).registry a (w.node n).settings.connectTimeoutMs w.outside).1 =
        .ok stream ∧
      dial.socket =
        (Socket.onStream stream (w.node n).settings.maxFrameSize.toNat).withSink sink := by
  unfold openStream at h
  dsimp only at h
  split at h
  · cases h
  rename_i hallowed
  split at h
  · cases h
  rename_i stream hstream
  split at h
  · cases h
  split at h
  · cases h
  rename_i size socket hsend
  cases h
  obtain rfl : _ = socket := congrArg Prod.snd hsend
  exact ⟨Bool.eq_false_iff.mpr hallowed, rfl, stream, _, hstream, rfl⟩

/-- What is read is of this version, however the stream behaves. -/
theorem envelope_of_read {max : Nat} {source : Source} {r : Received}
    (h : (Frame.read max source).1 = .ok (some r)) :
    r.envelope = .ofPayload r.envelope.payload := by
  have hbody {body : Bytes} (h : Frame.ofBody body = .ok (some r)) :
      r.envelope = .ofPayload r.envelope.payload := by
    obtain ⟨henvelope, -⟩ := Frame.ofBody_eq_some_iff.mp h
    obtain ⟨-, hversion, -⟩ := Envelope.ofBytes_eq_ok_iff.mp henvelope
    exact congrArg (Envelope.mk · _) hversion
  unfold Frame.read at h
  split at h
  · dsimp only at h
    split at h <;> cases h
  · cases h
  · dsimp only at h
    split at h
    · cases h
    split at h
    · cases h
    · cases h
    · exact hbody h

/-- What is behind an outbound connection: the address was not banned, a stream to it was opened,
and what came on it first was a handshake. -/
structure Outbound (env : Surroundings L S) (n : NodeRef) (conn : Connection) (w : World L S) :
    Prop where
  allowed : w.isBanned n conn.peerAddress = false
  answered : ∃ (s : S) (stream : StreamEnd) (peer : Handshake) (size : Nat),
    (env.dial (w.node n).registry conn.peerAddress (w.node n).settings.connectTimeoutMs s).1 =
        .ok stream ∧
      (Frame.read (w.node n).settings.maxFrameSize.toNat stream.source).1 =
        .ok (some ⟨.ofPayload (.handshake peer), size⟩) ∧
      peer.version = protocolVersion ∧ conn.peerNode = some peer.nodeId

/-- A connection that was admitted in the outward direction has all this behind it. -/
theorem Admitted.outbound_of_direction {conn : Connection} (h : Admitted env may w n conn)
    (hdirection : conn.direction = .outbound) : Outbound env n conn w := by
  cases h with
  | @inbound stream origin conn hmay hgreet hsent =>
    have hsame := sameLife_send env.timing (.handshake (w.node n).handshake) conn
    rw [hsame.direction, (greet_eq_ok hgreet).direction] at hdirection
    cases hdirection
  | @outbound dial conn s hopened hanswered =>
    obtain ⟨hallowed, -, stream, sink, hstream, hsocket⟩ := openStream_eq_ok hopened
    obtain ⟨-, haddress, r, peer, hreceived, hpeer, hnode⟩ := answered_eq_ok hanswered
    obtain ⟨hpayload, hversion⟩ := peerHandshake_eq_ok_iff.mp hpeer
    -- the handshake was read from the stream that was opened
    rw [hsocket] at hreceived
    have hread : (Frame.read (w.node n).settings.maxFrameSize.toNat stream.source).1 =
        .ok (some r) := hreceived
    have henvelope := envelope_of_read hread
    rw [hpayload] at henvelope
    rw [← haddress] at hallowed hstream
    refine ⟨hallowed, s, stream, peer, r.size, hstream, ?_, hversion, hnode⟩
    rw [hread, ← henvelope]

/-- It still has it behind it when all that has changed is what does not last. -/
theorem Outbound.lasting {u : World L S} {conn conn' : Connection} (h : Outbound env n conn u)
    (hn : n.number < u.nodes.length) (hlasting : Lasting u w) (hconn : Continues conn conn') :
    Outbound env n conn' w := by
  have hnode := hlasting.node n hn
  obtain ⟨s, stream, peer, size, hstream, hread, hversion, hpeer⟩ := h.answered
  constructor
  · rw [isBanned, hnode.registry, (hlasting.rules _).bans, hconn.peerAddress]
    exact h.allowed
  · rw [hnode.registry, hnode.settings, hconn.peerAddress, hconn.peerNode]
    exact ⟨s, stream, peer, size, hstream, hread, hversion, hpeer⟩

/-- **A node has an outbound connection only to who was not banned when it was dialed and has
answered with a handshake**, whatever was done from some world on. -/
theorem Story.outbound {t : Turn L S} {w' : World L S} (h : Story env may t w')
    {c : ConnectionRef} (hold : .began n ∉ t.world.life c) (hnew : .began n ∈ w'.life c)
    (hdirection : (w'.connection c).direction = .outbound) :
    Outbound env n (w'.connection c) w' := by
  obtain ⟨u, conn, -, hadmitted, hn, hlasting, -, hcontinues⟩ := h.admitted hold hnew
  rw [hcontinues.direction] at hdirection
  exact (hadmitted.outbound_of_direction hdirection).lasting hn hlasting hcontinues

-- ---------------------------------------------------------------------------
-- Both sides
-- ---------------------------------------------------------------------------

/-- The nodes of a registry dial over the clear network: a stream is opened only where the clear
network can open it (`ClearNet.connect`). -/
def DialsClearNet (env : Surroundings L S) (r : RegistryRef) : Prop :=
  ∀ a timeoutMs s stream, (env.dial r a timeoutMs s).1 = .ok stream →
    ∃ (net : ClearNet S) (s' : S), (net.connect a timeoutMs s').1 = .ok stream

/-- Hidden services are not reached over the clear network. -/
theorem isClearNet_of_connect {net : ClearNet S} {a : Address} {timeoutMs : UInt64} {s : S}
    {stream : StreamEnd} (h : (net.connect a timeoutMs s).1 = .ok stream) :
    a.isClearNet = true := by
  unfold ClearNet.connect at h
  split at h
  · cases h
  · rename_i hclear
    simpa using hclear

/-- Where clear-net addresses are dialed only, a dialed connection leads to one. -/
theorem Outbound.isClearNet {conn : Connection} (h : Outbound env n conn w)
    (hdials : DialsClearNet env (w.node n).registry) : conn.peerAddress.isClearNet = true := by
  obtain ⟨s, stream, -, -, hstream, -⟩ := h.answered
  obtain ⟨net, s', hconnect⟩ := hdials _ _ _ _ hstream
  exact isClearNet_of_connect hconnect

/-- **Who is let in, and who is dialed.** After any run, a peer that comes to a running node is let
in just when it begins with a whole frame that holds a handshake of this protocol and is not banned;
it is answered with the handshake of the node before anything else, and nothing is seen of any other
peer. In the course of any run, from a world with any bans, a node comes to have an outbound
connection only to an address that is not banned and has answered with such a handshake, and over
the clear network only to an address of it. -/
theorem admission (env : Surroundings L S) (depth : Nat) (acts : List (Act L))
    (registries : List (Registry L)) (outside : S) :
    let w := (run env depth acts { start outside with registries }).2
    (∀ n stream origin size, (w.node n).state = .running →
      (w.node n).settings.handshakeTimeoutMs ≠ 0 → stream.source.Steady →
      (Frame.write (.ofPayload (.handshake (w.node n).handshake))
        (w.node n).settings.maxFrameSize.toNat stream.sink).1 = .ok size →
      let max := (w.node n).settings.maxFrameSize.toNat
      let bans := (w.registry (w.node n).registry).bans
      let c : ConnectionRef := ⟨w.connections.length⟩
      let w' := accept env (World.call env depth) n stream origin w
      (.began n ∈ w'.life c ↔
          ∃ peer a, Admissible max bans stream.source.data origin peer a) ∧
        (∀ peer a, Admissible max bans stream.source.data origin peer a →
          LetIn n stream peer a c w w') ∧
        ((∀ peer a, ¬ Admissible max bans stream.source.data origin peer a) →
          GivenUp env stream w w')) ∧
    ∀ (before : World L S) (more : List (Act L)) (n : NodeRef) (c : ConnectionRef),
      let after := (run env depth more before).2
      .began n ∉ before.life c → .began n ∈ after.life c →
        (after.connection c).direction = .outbound →
        (∀ r, (after.registry r).bans = (before.registry r).bans) ∧
          Outbound env n (after.connection c) after ∧
          (DialsClearNet env (after.node n).registry →
            (after.connection c).peerAddress.isClearNet = true) := by
  intro w
  have hw : Settled w := (Settled.start registries outside).run env depth acts
  refine ⟨fun n stream origin size hstate htime hsource hwrite =>
    accept_admission (call_faithful env depth) hw.sound hstate htime hsource hwrite, ?_⟩
  intro before more n c after hold hnew hdirection
  have hstory : Story env (fun _ _ => True) ⟨[], before⟩ after :=
    run_story_free env depth more before
  have houtbound := hstory.outbound hold hnew hdirection
  exact ⟨fun r => (hstory.lasting.rules r).bans, houtbound, houtbound.isClearNet⟩

/-- A node that has dialed a peer lets in another one, in short pieces, but not from an address that
is banned. -/
theorem admission_sample :
    let peer : Handshake := ⟨"b", none, protocolVersion⟩
    let hello : Envelope := .ofPayload (.handshake peer)
    let stream : StreamEnd :=
      ⟨0, ⟨Frame.ofEnvelope hello, [.atMost 3, .fails (.ofKind .interrupted)], .ended⟩, .unlimited⟩
    let plain : Surroundings Unit Unit := .plain (fun _ _ _ => []) stream
    let net : ClearNet Unit := {
      resolve := fun a s => (.ok [a], s)
      openStream := fun _ timeoutMs s => (if timeoutMs = 0 then .error "no time" else .ok stream, s)
      setNoDelay := fun _ s => (.ok (), s) }
    let env : Surroundings Unit Unit := { plain with dial := fun _ => net.connect }
    let acts : List (Act Unit) := [.start ⟨0⟩ "a" 0, .connectNode ⟨0⟩ (.localhost 7002)]
    let registries : List (Registry Unit) :=
      [{ Registry.fresh .default .clearNet with bans := ⟨[.localhost 7009]⟩ }]
    let w := (run env 1 acts { start () with registries }).2
    let visit (port : UInt16) :=
      accept env (World.call env 1) ⟨0⟩ stream (some (.localhost port)) w
    LetIn ⟨0⟩ stream peer (.localhost 7003) ⟨w.connections.length⟩ w (visit 7003) ∧
      GivenUp env stream w (visit 7009) ∧ Outbound env ⟨0⟩ (w.connection ⟨0⟩) w ∧
      (w.connection ⟨0⟩).peerAddress.isClearNet = true := by
  intro peer hello stream plain net env acts registries w visit
  obtain ⟨hinbound, houtbound⟩ := admission env 1 acts registries ()
  generalize hrun : (run env 1 acts { start () with registries }).2 = v at hinbound
  obtain rfl : w = v := hrun
  have hsteady : stream.source.Steady := by
    intro step hstep
    simp only [stream, List.mem_cons, List.not_mem_nil, or_false] at hstep
    rcases hstep with rfl | rfl <;> simp [ReadStep.IsSteady, IoFailure.ofKind]
  have hstate : (w.node ⟨0⟩).state = .running := by decide +kernel
  have htime : (w.node ⟨0⟩).settings.handshakeTimeoutMs ≠ 0 := by decide +kernel
  have hwrite : (Frame.write (.ofPayload (.handshake (w.node ⟨0⟩).handshake))
      (w.node ⟨0⟩).settings.maxFrameSize.toNat stream.sink).1 = .ok 35 := by decide +kernel
  have hadmission (port : UInt16) :=
    hinbound ⟨0⟩ stream (some (.localhost port)) 35 hstate htime hsteady hwrite
  have hframe : Frame.BeginsWith (w.node ⟨0⟩).settings.maxFrameSize.toNat stream.source.data
      ⟨hello, 16⟩ := Frame.beginsWith_iff.mpr (by decide +kernel)
  have hbans : (w.registry (w.node ⟨0⟩).registry).bans = ⟨[.localhost 7009]⟩ := by decide +kernel
  refine ⟨?_, ?_, ?_⟩
  · refine (hadmission 7003).2.1 peer (.localhost 7003) ⟨⟨16, hframe⟩, rfl, rfl, ?_⟩
    rw [hbans]
    decide
  · refine (hadmission 7009).2.2 fun peer' a h => ?_
    obtain ⟨size, hsize⟩ := h.frame
    have hsame := congrArg (·.envelope.payload) (hframe.unique hsize)
    obtain rfl : peer = peer' := Payload.handshake.inj hsame
    -- the ban is on the address that the peer comes from, as it gives none
    obtain rfl : Address.localhost 7009 = a := Option.some.inj h.address
    have hallowed := h.allowed
    rw [hbans] at hallowed
    exact absurd hallowed (by decide)
  · have hdials : DialsClearNet env (w.node ⟨0⟩).registry :=
      fun a timeoutMs s opened hopened => ⟨net, s, hopened⟩
    have hout := houtbound { start () with registries } acts ⟨0⟩ ⟨0⟩ (by decide +kernel)
      (by decide +kernel) (by decide +kernel)
    exact ⟨hout.2.1, hout.2.2 hdials⟩

end Courier.World
