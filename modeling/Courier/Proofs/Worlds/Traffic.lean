import Courier.Proofs.Traffic
import Courier.Proofs.Worlds.Admission
import Courier.Proofs.Worlds.Messages

/-!
# Courier — both ends count the same traffic

The books of a connection begin before it is taken up: the handshakes are exchanged on the bare
socket, by one code for who dials and another for who is called, and are counted with all that
follows. Whatever is done from then on, the books are kept, and so both ends of a stream count the
same.

* `Admitted.books` — the books of a connection that is taken up;
* `Story.keeps_connection` — what holds of a connection from then on;
* `Gets` — a connection that a node gets over a stream in the course of a run;
* `ends_agree` — the books of both ends, after any two runs.
-/

namespace Courier

/-- Nobody comes on another stream of this number. -/
def Act.ComesOn {L : Type} (stream : StreamEnd) : Act L → Prop
  | .accept _ opened _ => opened.number = stream.number → opened = stream
  | _ => True

namespace World

variable {L S : Type} {env : Surroundings L S} {may : Act L → World L S → Prop} {w : World L S}
  {n : NodeRef} {c : ConnectionRef} {conn : Connection}

-- ---------------------------------------------------------------------------
-- How the books begin
-- ---------------------------------------------------------------------------

/-- Somebody comes on the stream, or answers a dial on it. -/
inductive Brought (env : Surroundings L S) (may : Act L → World L S → Prop) (stream : StreamEnd) :
    Prop where
  | accepted (n : NodeRef) (origin : Option Address) (w : World L S)
      (h : may (.accept n stream origin) w)
  | dialed (r : RegistryRef) (a : Address) (timeoutMs : UInt64) (s : S)
      (h : (env.dial r a timeoutMs s).1 = .ok stream)

/-- A peer that is greeted has sent its handshake, which was received like anything else. -/
theorem greet_eq_receive {stream : StreamEnd} {origin : Option Address}
    (h : w.greet env n stream origin = .ok conn) :
    ∃ peerAddress peerNode, conn =
      (Connection.receive env.timing (.fresh (env.connectionId w.connections.length) (w.node n).id
        peerAddress peerNode .inbound
        (.onStream stream (w.node n).settings.maxFrameSize.toNat))).2 := by
  unfold greet at h
  dsimp only at h
  split at h
  · cases h
  split at h
  · rename_i r socket hreceive
    split at h
    · cases h
    rename_i peer hpeer
    split at h
    · cases h
    rename_i peerAddress haddress
    split at h
    · cases h
    · cases h
      refine ⟨peerAddress, some peer.nodeId, ?_⟩
      unfold Connection.receive
      rw [show (Connection.fresh (env.connectionId w.connections.length) (w.node n).id peerAddress
        (some peer.nodeId) .inbound
        (.onStream stream (w.node n).settings.maxFrameSize.toNat)).socket.receive =
          (.ok (some r), socket) from hreceive]
      rfl
  · cases h

/-- A dial that is answered has sent the handshake of the node and received that of the peer, like
anything else. -/
theorem answered_eq_receive {dial : Dial} {s : S}
    (hopened : (openStream env n dial.address { w with outside := s }).1 = .ok dial)
    (h : w.answered env n dial = .ok conn) :
    ∃ stream peerNode timeoutMs,
      (env.dial (w.node n).registry dial.address timeoutMs s).1 = .ok stream ∧ conn =
        (Connection.receive env.timing (Connection.send env.timing
          (.handshake (w.node n).handshake) (.fresh (env.connectionId w.connections.length)
            (w.node n).id dial.address peerNode .outbound
            (.onStream stream (w.node n).settings.maxFrameSize.toNat))).2).2 := by
  unfold openStream at hopened
  dsimp only at hopened
  split at hopened
  · cases hopened
  split at hopened
  · cases hopened
  rename_i stream hstream
  split at hopened
  · cases hopened
  split at hopened
  · cases hopened
  rename_i size socket hsend
  obtain ⟨hsocket, hsize⟩ : socket = dial.socket ∧ size = dial.sentSize := by
    have hdial := Except.ok.inj hopened
    exact ⟨congrArg Dial.socket hdial, congrArg Dial.sentSize hdial⟩
  rw [hsocket, hsize] at hsend
  unfold answered at h
  split at h
  · cases h
  · cases h
  rename_i r socket' hreceive
  split at h
  · cases h
  rename_i peer hpeer
  cases h
  refine ⟨stream, some peer.nodeId, _, hstream, ?_⟩
  let base : Connection := .fresh (env.connectionId w.connections.length) (w.node n).id
    dial.address (some peer.nodeId) .outbound
    (.onStream stream (w.node n).settings.maxFrameSize.toNat)
  let sent : Connection := { base with socket := dial.socket }.countSent dial.sentSize env.timing
  have hsent : (base.send env.timing (.handshake (w.node n).handshake)).2 = sent := by
    have hsocket : base.socket.send (.ofPayload (.handshake (w.node n).handshake)) =
        (.ok dial.sentSize, dial.socket) := hsend
    unfold Connection.send
    rw [if_neg (show ¬ base.isClosed = true by exact Bool.false_ne_true), hsocket]
  have hreceived : sent.socket.receive = (.ok (some r), socket') := hreceive
  show _ = (Connection.receive env.timing
    (base.send env.timing (.handshake (w.node n).handshake)).2).2
  rw [hsent]
  unfold Connection.receive
  rw [hreceived]
  rfl

/-- What was counted when a connection is taken up: the handshakes. -/
theorem Admitted.books (h : Admitted env may w n conn) :
    ∃ stream, Brought env may stream ∧ conn.socket.stream.number = stream.number ∧
      conn.socket.maxFrameSize = (w.node n).settings.maxFrameSize.toNat ∧
      (stream.sink.Flushes → stream.source.Steady →
        ∃ parts k, Connection.Books stream conn parts k) := by
  cases h with
  | @inbound stream origin conn hmay hgreet hsent =>
    obtain ⟨peerAddress, peerNode, rfl⟩ := greet_eq_receive hgreet
    refine ⟨stream, .accepted n origin w hmay, ?_, ?_, fun hflushes hsteady => ?_⟩
    · rw [Connection.number_send, Connection.number_receive]
      rfl
    · rw [(sameLife_send ..).maxFrameSize, (sameLife_receive ..).maxFrameSize]
      rfl
    · have hfresh := Connection.Books.fresh (env.connectionId w.connections.length) (w.node n).id
        peerAddress peerNode .inbound (w.node n).settings.maxFrameSize.toNat hflushes
        hsteady
      obtain ⟨k, hreceived⟩ := hfresh.receive env.timing
      obtain ⟨parts, hbooks⟩ := hreceived.send env.timing (.handshake (w.node n).handshake)
      exact ⟨_, _, hbooks⟩
  | @outbound dial conn s hopened hanswered =>
    obtain ⟨stream, peerNode, timeoutMs, hdialed, rfl⟩ := answered_eq_receive hopened hanswered
    refine ⟨stream, .dialed _ _ _ _ hdialed, ?_, ?_, fun hflushes hsteady => ?_⟩
    · rw [Connection.number_receive, Connection.number_send]
      rfl
    · rw [(sameLife_receive ..).maxFrameSize, (sameLife_send ..).maxFrameSize]
      rfl
    · have hfresh := Connection.Books.fresh (env.connectionId w.connections.length) (w.node n).id
        dial.address peerNode .outbound (w.node n).settings.maxFrameSize.toNat hflushes
        hsteady
      obtain ⟨parts, hsent⟩ := hfresh.send env.timing (.handshake (w.node n).handshake)
      obtain ⟨k, hbooks⟩ := hsent.receive env.timing
      exact ⟨_, _, hbooks⟩

-- ---------------------------------------------------------------------------
-- How they are kept
-- ---------------------------------------------------------------------------

/-- Whatever is done with a connection, its books are kept. -/
theorem Use.books {t : Timing} {conn' : Connection} (h : Use may t c conn conn')
    {stream : StreamEnd} {parts : List Part} {k : Nat}
    (hbooks : Connection.Books stream conn parts k) :
    ∃ parts' k', Connection.Books stream conn' parts' k' := by
  cases h with
  | send payload =>
    obtain ⟨more, hsent⟩ := hbooks.send t payload
    exact ⟨_, _, hsent⟩
  | ping nonce =>
    obtain ⟨more, hsent⟩ := hbooks.ping t nonce
    exact ⟨_, _, hsent⟩
  | receive hmay =>
    obtain ⟨k', hreceived⟩ := hbooks.receive t
    exact ⟨_, _, hreceived⟩
  | pong p => exact ⟨_, _, hbooks.onPong t p⟩
  | close reason => exact ⟨_, _, hbooks.markClosed reason⟩

/-- A connection stays on its stream. -/
theorem Use.number {t : Timing} {conn' : Connection} (h : Use may t c conn conn') :
    conn'.socket.stream.number = conn.socket.stream.number := by
  cases h with
  | send payload => exact Connection.number_send ..
  | ping nonce =>
    rw [socket_ping]
    exact Connection.number_send ..
  | receive hmay => exact Connection.number_receive ..
  | pong p => rw [socket_onPong]
  | close reason => rw [stream_markClosed]

/-- **What holds of a connection from its admission on**: what holds of all that are admitted, and
whatever is done with them. -/
theorem Story.keeps_connection {P : Connection → Prop} {t : Turn L S} {w' : World L S}
    (h : Story env may t w') (hnew : .began n ∉ t.world.life c) (hbegan : .began n ∈ w'.life c)
    (hbegins : ∀ {w conn}, Admitted env may w n conn → P conn)
    (huse : ∀ {conn conn'}, Use may env.timing c conn conn' → P conn → P conn') :
    P (w'.connection c) := by
  let R (w w' : World L S) : Prop := w.connections.length ≤ w'.connections.length ∧
    (c.number < w.connections.length → P (w.connection c) → P (w'.connection c)) ∧
    (.began n ∉ w.life c → .began n ∈ w'.life c →
      c.number < w'.connections.length ∧ P (w'.connection c))
  have hrefl (w : World L S) : R w w :=
    ⟨Nat.le_refl _, fun _ h => h, fun hnew hbegan => absurd hbegan hnew⟩
  have htrans {w w' w'' : World L S} (h : R w w') (h' : R w' w'') : R w w'' := by
    obtain ⟨hlength, hkeeps, hbegins⟩ := h
    obtain ⟨hlength', hkeeps', hbegins'⟩ := h'
    refine ⟨Nat.le_trans hlength hlength', fun hc hP => ?_, fun hnew hbegan => ?_⟩
    · exact hkeeps' (Nat.lt_of_lt_of_le hc hlength) (hkeeps hc hP)
    · by_cases hmid : .began n ∈ w'.life c
      · obtain ⟨hc, hP⟩ := hbegins hnew hmid
        exact ⟨Nat.lt_of_lt_of_le hc hlength', hkeeps' hc hP⟩
      · exact hbegins' hmid hbegan
  have hstep {w w' : World L S} (h : Step env may w w') : R w w' := by
    refine ⟨h.lasting.connections, fun hc hP => ?_, fun hnew hbegan => ?_⟩
    · cases h.fate (c := c) with
      | same h => exact h ▸ hP
      | new hnew hadmitted => exact absurd hnew (Nat.ne_of_lt hc)
      | used h => exact huse h hP
    · obtain ⟨conn, hadmitted, -, hc, rfl⟩ := h.began hnew hbegan
      exact ⟨hc, hbegins hadmitted⟩
  exact ((h.keeps hrefl htrans hstep).2.2 hnew hbegan).2

-- ---------------------------------------------------------------------------
-- Both ends
-- ---------------------------------------------------------------------------

/-- A node gets a connection over this stream in the course of a run, by dialing or because somebody
comes. -/
structure Gets (env : Surroundings L S) (depth : Nat) (acts : List (Act L)) (before : World L S)
    (n : NodeRef) (c : ConnectionRef) (stream : StreamEnd) : Prop where
  /-- Nothing was written on the stream before. -/
  fresh : stream.sink.written = []
  flushes : stream.sink.Flushes
  /-- No read fails for good. -/
  reads : stream.source.Steady
  dialed : ∀ r a timeoutMs s opened, (env.dial r a timeoutMs s).1 = .ok opened →
    opened.number = stream.number → opened = stream
  come : ∀ act ∈ acts, act.ComesOn stream
  react : ∀ l e w, ∀ act ∈ env.react l e w, act.ComesOn stream
  new : .began n ∉ before.life c
  began : .began n ∈ (run env depth acts before).2.life c
  number : ((run env depth acts before).2.connection c).socket.stream.number = stream.number

/-- Its books are in order, and its frames are as large as the node allows. -/
theorem Gets.books {depth : Nat} {acts : List (Act L)} {before : World L S} {stream : StreamEnd}
    (h : Gets env depth acts before n c stream) :
    let after := (run env depth acts before).2
    (after.connection c).socket.maxFrameSize = (after.node n).settings.maxFrameSize.toNat ∧
      ∃ parts k, Connection.Books stream (after.connection c) parts k := by
  intro after
  let may (act : Act L) (_ : World L S) : Prop := act.ComesOn stream
  have hstory : Story env may ⟨[], before⟩ after :=
    run_story env (fun depth l e w => .of_forall env (fun act hact _ => h.react l e w act hact) w)
      depth (.of_forall env (fun act hact _ => h.come act hact) before)
  constructor
  · obtain ⟨u, conn, -, hadmitted, hn, hlasting, -, hcontinues⟩ := hstory.admitted h.new h.began
    obtain ⟨-, -, -, hmax, -⟩ := hadmitted.books
    rw [hcontinues.maxFrameSize, hmax, (hlasting.node n hn).settings]
  · refine hstory.keeps_connection (P := fun conn => conn.socket.stream.number = stream.number →
      ∃ parts k, Connection.Books stream conn parts k) h.new h.began ?_ ?_ h.number
    · intro w conn hadmitted hnumber
      obtain ⟨opened, hbrought, hopened, -, hbooks⟩ := hadmitted.books
      -- there is no other stream of this number
      have hsame : opened = stream := by
        cases hbrought with
        | accepted m origin u hmay => exact hmay (hopened.symm.trans hnumber)
        | dialed r a timeoutMs s hdial =>
          exact h.dialed r a timeoutMs s opened hdial (hopened.symm.trans hnumber)
      subst hsame
      exact hbooks h.flushes h.reads
    · intro conn conn' huse hP hnumber
      obtain ⟨parts, k, hbooks⟩ := hP (huse.number.symm.trans hnumber)
      exact huse.books hbooks

/-- **Both ends of a connection count the same traffic.** Two nodes of any two runs get a connection
over the two ends of a stream, and allow frames of the same size, below what a length can tell. What
either end ever gets to read is a part of what the other one has written by then, from the front;
reads and writes may be short or interrupted, and writes may fail. Then either end has counted as
sent the frames that it has written completely, from the first byte on, and none of those that were
refused or cut; and as received the frames that it has decoded. Those are the first ones of the
frames that the other end has counted as sent, if no write has failed there, and all of them if all
has come and was read. Where all were read, the counters agree. -/
theorem ends_agree {L' S' : Type} {env : Surroundings L S} {env' : Surroundings L' S'}
    {depth depth' : Nat} {acts : List (Act L)} {acts' : List (Act L')} {before : World L S}
    {before' : World L' S'} {n n' : NodeRef} {c c' : ConnectionRef} {stream stream' : StreamEnd}
    (h : Gets env depth acts before n c stream) (h' : Gets env' depth' acts' before' n' c' stream')
    (hmax : ((run env depth acts before).2.node n).settings.maxFrameSize =
      ((run env' depth' acts' before').2.node n').settings.maxFrameSize)
    (hlt : ((run env depth acts before).2.node n).settings.maxFrameSize.toNat < UInt32.size)
    (hbrings : stream.source.data <+: (run env' depth' acts' before').2.written c')
    (hbrings' : stream'.source.data <+: (run env depth acts before).2.written c) :
    let conn := (run env depth acts before).2.connection c
    let conn' := (run env' depth' acts' before').2.connection c'
    ∃ parts k parts' k',
      Connection.Books stream conn parts k ∧ Connection.Books stream' conn' parts' k' ∧
      (stream'.sink.Steady → Connection.Agrees stream conn conn' parts' k) ∧
      (stream.sink.Steady → Connection.Agrees stream' conn' conn parts k') := by
  intro conn conn'
  obtain ⟨hsize, parts, k, hbooks⟩ := h.books
  obtain ⟨hsize', parts', k', hbooks'⟩ := h'.books
  have hsame : conn.socket.maxFrameSize = conn'.socket.maxFrameSize := by
    rw [hsize, hsize', hmax]
  have hlt' : conn.socket.maxFrameSize < UInt32.size := by rwa [hsize]
  refine ⟨parts, k, parts', k', hbooks, hbooks', fun hwrites => ?_, fun hwrites => ?_⟩
  · exact hbooks.agree hbooks' hsame (hsame ▸ hlt') h'.fresh hbrings hwrites
  · exact hbooks'.agree hbooks hsame.symm hlt' h.fresh hbrings' hwrites

/-- A node greets another one, sends it a message and a probe, and reads the answer. The other node
reads all this in short pieces. -/
theorem ends_agree_sample :
    let frame (p : Payload) : Bytes := Frame.ofEnvelope (.ofPayload p)
    let handshake (id : String) : Payload :=
      .handshake ⟨id, some (.localhost 7001), protocolVersion⟩
    let message : Payload := .application (.direct "1" "t" [7])
    let stream : StreamEnd :=
      ⟨0, ⟨frame (handshake "b") ++ frame (.pong ⟨5⟩), [], .stalled⟩, .unlimited⟩
    let stream' : StreamEnd :=
      ⟨1, ⟨frame (handshake "a") ++ frame message ++ frame (.ping ⟨5⟩),
        [.atMost 3, .fails (.ofKind .interrupted), .atMost 1], .stalled⟩, .unlimited⟩
    let env (answer : StreamEnd) : Surroundings Unit Unit := .plain (fun _ _ _ => []) answer
    let acts : List (Act Unit) := [.start ⟨0⟩ "a" 0, .connectNode ⟨0⟩ (.localhost 7001),
      .sendFrom ⟨0⟩ message (.connection ⟨0⟩), .ping ⟨0⟩ 5, .read ⟨0⟩ ⟨0⟩]
    let acts' : List (Act Unit) := [.start ⟨0⟩ "b" 0,
      .accept ⟨0⟩ stream' (some (.localhost 9000)), .read ⟨0⟩ ⟨0⟩, .read ⟨0⟩ ⟨0⟩]
    let before : World Unit Unit := { start () with registries := [.fresh .default .clearNet] }
    let w := (run (env stream) 1 acts before).2
    let w' := (run (env stream') 1 acts' before).2
    let sent (w : World Unit Unit) : Counters := (w.connection ⟨0⟩).metrics.sent.totals
    let received (w : World Unit Unit) : Counters := (w.connection ⟨0⟩).metrics.received.totals
    (sent w).messages = 3 ∧ (received w').messages = (sent w).messages ∧
      (received w').bytes = (sent w).bytes ∧ (received w).messages = (sent w').messages ∧
      (received w).bytes = (sent w').bytes := by
  intro frame handshake message stream stream' env acts acts' before w w' sent received
  have hwrites : Sink.unlimited.Steady := ⟨List.forall_mem_nil _, List.forall_mem_nil _⟩
  have hdialed (answer : StreamEnd) (r : RegistryRef) (a : Address) (timeoutMs : UInt64) (s : Unit)
      (opened : StreamEnd) (h : ((env answer).dial r a timeoutMs s).1 = .ok opened)
      (_ : opened.number = answer.number) : opened = answer := (Except.ok.inj h).symm
  have hsteady : stream'.source.Steady := by
    intro step hstep
    simp only [stream', List.mem_cons, List.not_mem_nil, or_false] at hstep
    rcases hstep with rfl | rfl | rfl <;> simp [ReadStep.IsSteady, IoFailure.ofKind]
  have hgets : Gets (env stream) 1 acts before ⟨0⟩ ⟨0⟩ stream := {
    fresh := rfl
    flushes := hwrites.flushes
    reads := List.forall_mem_nil _
    dialed := hdialed stream
    come := by simp [acts, Act.ComesOn]
    react := fun l e w act hact => absurd hact List.not_mem_nil
    new := List.not_mem_nil
    began := by decide +kernel
    number := by decide +kernel }
  have hgets' : Gets (env stream') 1 acts' before ⟨0⟩ ⟨0⟩ stream' := {
    fresh := rfl
    flushes := hwrites.flushes
    reads := hsteady
    dialed := hdialed stream'
    come := by simp [acts', Act.ComesOn]
    react := fun l e w act hact => absurd hact List.not_mem_nil
    new := List.not_mem_nil
    began := by decide +kernel
    number := by decide +kernel }
  -- what either end reads is all that the other one writes
  have hcame : stream.source.data = w'.written ⟨0⟩ := by decide +kernel
  have hcame' : stream'.source.data = w.written ⟨0⟩ := by decide +kernel
  have hends := ends_agree hgets hgets' (by decide +kernel) (by decide +kernel)
    ⟨[], (List.append_nil _).trans hcame⟩ ⟨[], (List.append_nil _).trans hcame'⟩
  generalize hrun : (run (env stream) 1 acts before).2 = v at hends
  generalize hrun' : (run (env stream') 1 acts' before).2 = v' at hends
  obtain rfl : w = v := hrun
  obtain rfl : w' = v' := hrun'
  obtain ⟨parts, k, parts', k', -, -, hagrees, hagrees'⟩ := hends
  have hfirst := hagrees hwrites
  have hsecond := hagrees' hwrites
  have hall := hfirst.complete hcame (by decide +kernel)
  have hall' := hsecond.complete hcame' (by decide +kernel)
  obtain ⟨hmessages, hbytes⟩ := hfirst.counters (congrArg List.length hall)
  obtain ⟨hmessages', hbytes'⟩ := hsecond.counters (congrArg List.length hall')
  exact ⟨by decide +kernel, hmessages', hbytes', hmessages, hbytes⟩

end World

end Courier
