import Courier.Link.Exchange
import Courier.Proofs.Writing

/-!
# Courier — what arrives at the other end

Two open sockets of the same largest frame are joined by a stream that loses, alters and reorders
nothing; reads and writes may be short and interrupted, and bytes are on the way for any time. Then
each end receives what the other one has sent, in order and once each, up to what is still on the
way.

* `Socket.Carries` — what holds of one direction at any moment;
* `SocketPair.Delivery` — what it means for whoever sends and whoever receives;
* `SocketPair.run_delivery` — any acts of either end, in any order.
-/

namespace Courier

-- ---------------------------------------------------------------------------
-- One direction
-- ---------------------------------------------------------------------------

namespace Socket

/-- The frames of what was accepted, one behind the other. -/
def frames (rs : List Received) : Bytes := (rs.map fun r => Frame.ofEnvelope r.envelope).flatten

/-- One direction of a stream: `w` writes and `r` reads. What `w` has accepted is what `r` has
received, and then what has arrived and what is on the way. -/
structure Carries (max : Nat) (w r : Socket) (accepted received : List Received) : Prop where
  writes : w.maxFrameSize = max
  reads : r.maxFrameSize = max
  sink : w.stream.sink.Steady
  source : r.stream.source.Steady
  /-- The end of the stream arrives last. -/
  ended : r.stream.source.dry = .ended → w.closed = true ∧ w.underWay = []
  sound : ∀ x ∈ accepted, x.envelope.version = protocolVersion ∧ x.size = x.envelope.size ∧
    x.size ≤ max
  rest : ∃ rest, accepted = received ++ rest ∧
    (r.closed = false → r.stream.source.data ++ w.underWay = frames rest)

variable {max : Nat} {w r : Socket} {accepted received : List Received}

/-- The direction is not concerned with what the writer reads and the reader writes. -/
theorem Carries.congr (h : Carries max w r accepted received) (w' r' : Socket)
    (hw : w'.maxFrameSize = w.maxFrameSize ∧ w'.closed = w.closed ∧
      w'.stream.sink = w.stream.sink)
    (hr : r'.maxFrameSize = r.maxFrameSize ∧ r'.closed = r.closed ∧
      r'.stream.source = r.stream.source) : Carries max w' r' accepted received := by
  obtain ⟨hwm, hwc, hws⟩ := hw
  obtain ⟨hrm, hrc, hrs⟩ := hr
  have hway : w'.underWay = w.underWay := congrArg Sink.written hws
  exact ⟨hwm.trans h.writes, hrm.trans h.reads, hws ▸ h.sink, hrs ▸ h.source,
    by rw [hrs, hwc, hway]; exact h.ended, h.sound, by rw [hrc, hrs, hway]; exact h.rest⟩

/-- A closed socket sends nothing. -/
theorem send_of_closed (e : Envelope) (h : w.closed = true) :
    w.send e = (.error .connectionClosed, w) := by
  rw [send, if_pos h]

/-- An envelope that is too large is refused, and nothing of it is written. -/
theorem send_of_large {e : Envelope} (h : w.closed = false) (hmax : w.maxFrameSize < e.size) :
    w.send e = (.error (.messageTooLarge e.size w.maxFrameSize), w) := by
  rw [send, h, if_neg Bool.false_ne_true, Frame.write, Frame.encode_eq_error hmax]
  rfl

/-- Any other one is accepted and is behind all that is on the way. -/
theorem Carries.send (h : Carries max w r accepted received) (hopen : w.closed = false)
    {e : Envelope} (hversion : e.version = protocolVersion) (hmax : e.size ≤ max) :
    ∃ w', w.send e = (.ok e.size, w') ∧
      w'.stream.source = w.stream.source ∧ w'.closed = w.closed ∧
      Carries max w' r (accepted ++ [⟨e, e.size⟩]) received := by
  obtain ⟨hok, hwritten, hsteady⟩ := Frame.write_steady hmax h.sink
  refine ⟨w.withSink (Frame.write e max w.stream.sink).2, ?_, rfl, rfl, ?_⟩
  · rw [Socket.send, hopen, if_neg Bool.false_ne_true, h.writes]
    dsimp only
    rw [hok]
  · obtain ⟨rest, hrest, hdata⟩ := h.rest
    refine ⟨h.writes, h.reads, hsteady, h.source, ?_, ?_, rest ++ [⟨e, e.size⟩], ?_, ?_⟩
    · intro hdry
      exact absurd ((h.ended hdry).1.symm.trans hopen) Bool.true_eq_false.mp
    · intro x hx
      rcases List.mem_append.1 hx with hx | hx
      · exact h.sound x hx
      · rw [List.mem_singleton.1 hx]
        exact ⟨hversion, rfl, hmax⟩
    · rw [hrest, List.append_assoc]
    · intro hr
      have hway : (w.withSink (Frame.write e max w.stream.sink).2).underWay =
          w.underWay ++ Frame.ofEnvelope e := hwritten
      rw [hway, ← List.append_assoc, hdata hr]
      simp [frames]

/-- Closing again changes nothing. -/
theorem close_of_closed (h : w.closed = true) : w.close = w := by
  rw [close, ← h]

/-- Closing the sending end loses nothing that was accepted before. -/
theorem Carries.closeWriter (h : Carries max w r accepted received) :
    Carries max w.close r accepted received :=
  ⟨h.writes, h.reads, h.sink, h.source, fun hdry => ⟨rfl, (h.ended hdry).2⟩, h.sound, h.rest⟩

/-- Closing the receiving end leaves untouched what was received. -/
theorem Carries.closeReader (h : Carries max w r accepted received) :
    Carries max w r.close accepted received := by
  obtain ⟨rest, hrest, -⟩ := h.rest
  exact ⟨h.writes, h.reads, h.sink, h.source, h.ended, h.sound, rest, hrest, fun hr => nomatch hr⟩

/-- Bytes that are on the way arrive. -/
theorem Carries.pass (h : Carries max w r accepted received) (n : Nat) :
    Carries max (w.withSink { w.stream.sink with written := w.underWay.drop n })
      (r.arrive (w.underWay.take n)) accepted received := by
  obtain ⟨rest, hrest, hdata⟩ := h.rest
  refine ⟨h.writes, h.reads, ⟨h.sink.plan, h.sink.flushes⟩, h.source, ?_, h.sound, rest, hrest, ?_⟩
  · intro hdry
    obtain ⟨hclosed, hway⟩ := h.ended hdry
    exact ⟨hclosed, by show w.underWay.drop n = []; rw [hway, List.drop_nil]⟩
  · intro hr
    rw [← hdata hr]
    show (r.stream.source.data ++ w.underWay.take n) ++ w.underWay.drop n = _
    rw [List.append_assoc, List.take_append_drop]

/-- The end of the stream arrives, when nothing else is on the way. -/
theorem Carries.finish (h : Carries max w r accepted received) (hclosed : w.closed = true)
    (hway : w.underWay = []) : Carries max w r.finish accepted received :=
  ⟨h.writes, h.reads, h.sink, h.source, fun _ => ⟨hclosed, hway⟩, h.sound, h.rest⟩

/-- A closed socket receives nothing more. -/
theorem receive_of_closed (h : r.closed = true) : r.receive = (.ok none, r) := by
  rw [receive, if_pos h]

/-- What there is to be returned at an open end: the first of what was accepted and not yet received,
whose frame has arrived, or the end, when all that was accepted was received. -/
theorem Carries.arrived (h : Carries max w r accepted received) (hmax : max < UInt32.size)
    (hopen : r.closed = false) (hready : r.hasArrived = true) :
    (∃ x rest data, accepted = received ++ x :: rest ∧
        r.stream.source.data = Frame.ofEnvelope x.envelope ++ data ∧
        data ++ w.underWay = frames rest) ∨
      (accepted = received ∧ r.stream.source.data = [] ∧ r.stream.source.dry = .ended) := by
  obtain ⟨rest, hrest, hdata⟩ := h.rest
  have hdata := hdata hopen
  simp only [hasArrived, hopen, Bool.false_or, Bool.or_eq_true, Bool.and_eq_true,
    decide_eq_true_eq] at hready
  cases rest with
  | nil =>
    obtain ⟨hnil, hway⟩ := List.append_eq_nil_iff.1 hdata
    refine .inr ⟨by rw [hrest, List.append_nil], hnil, hready.resolve_right fun hh => ?_⟩
    rw [hnil, List.length_nil] at hh
    exact absurd hh.1 (by decide)
  | cons x rest =>
    obtain ⟨hversion, hx, hxmax⟩ := h.sound x (hrest ▸ List.mem_append_right _ List.mem_cons_self)
    have hframe : r.stream.source.data ++ w.underWay =
        Frame.ofEnvelope x.envelope ++ frames rest := hdata
    have hlen := Frame.length_ofEnvelope x.envelope
    -- the whole frame has arrived
    have hwhole : (Frame.ofEnvelope x.envelope).length ≤ r.stream.source.data.length := by
      rcases hready with hdry | ⟨hheader, hbody⟩
      · rw [(h.ended hdry).2, List.append_nil] at hframe
        rw [hframe, List.length_append]
        omega
      · have htake : r.stream.source.data.take Frame.headerSize =
            Bytes.bigEndian Frame.headerSize x.envelope.size :=
          calc r.stream.source.data.take Frame.headerSize
              = (r.stream.source.data ++ w.underWay).take Frame.headerSize :=
                (List.take_append_of_le_length hheader).symm
            _ = Bytes.bigEndian Frame.headerSize x.envelope.size := by
                rw [hframe, Frame.take_ofEnvelope]
        rw [htake, Frame.ofBigEndian_size (by omega), h.reads] at hbody
        rw [hlen]
        omega
    obtain ⟨data, hd⟩ := List.prefix_of_prefix_length_le
      ⟨_, hframe.symm⟩ (List.prefix_append r.stream.source.data w.underWay) hwhole
    refine .inl ⟨x, rest, data, hrest, hd.symm, ?_⟩
    rw [← hd, List.append_assoc] at hframe
    exact List.append_cancel_left hframe

/-- An open end returns what is next. -/
theorem Carries.receive (h : Carries max w r accepted received) (hmax : max < UInt32.size)
    (hopen : r.closed = false) (hready : r.hasArrived = true) :
    ∃ next r', r.receive = (.ok next, r') ∧ r'.stream.sink = r.stream.sink ∧
      r'.closed = r.closed ∧ r'.maxFrameSize = r.maxFrameSize ∧
      r'.stream.source.dry = r.stream.source.dry ∧
      Carries max w r' accepted (received ++ next.toList) ∧
      (next = none → accepted = received ∧ w.closed = true) := by
  have hreceive : r.receive = ((Frame.read max r.stream.source).1,
      r.withSource (Frame.read max r.stream.source).2) := by
    rw [Socket.receive, hopen, if_neg Bool.false_ne_true, h.reads]
  rcases h.arrived hmax hopen hready with ⟨x, rest, data, hrest, hd, htail⟩ | ⟨hall, hnil, hdry⟩
  · obtain ⟨hversion, hx, hxmax⟩ := h.sound x (hrest ▸ List.mem_append_right _ List.mem_cons_self)
    have hle : x.envelope.size ≤ max := hx ▸ hxmax
    obtain ⟨plan, hplan, hread⟩ := Frame.read_append hle (Nat.lt_of_le_of_lt hle hmax) h.source hd
    have hsame : (⟨x.envelope, x.envelope.size⟩ : Received) = x := by rw [← hx]
    rw [hread, Frame.outcome, if_pos hversion, hsame] at hreceive
    refine ⟨some x, _, hreceive, rfl, rfl, rfl, rfl, ?_, fun hnone => by cases hnone⟩
    refine ⟨h.writes, h.reads, h.sink, h.source.of_suffix _ _ hplan, h.ended, h.sound, rest, ?_, ?_⟩
    · rw [hrest, Option.toList_some, List.append_assoc, List.singleton_append]
    · intro _
      exact htail
  · obtain ⟨plan, hplan, hread⟩ := Frame.read_ended max h.source hnil hdry
    rw [hread] at hreceive
    obtain ⟨hclosed, hway⟩ := h.ended hdry
    refine ⟨none, _, hreceive, rfl, rfl, rfl, hdry.symm, ?_, fun _ => ⟨hall, hclosed⟩⟩
    refine ⟨h.writes, h.reads, h.sink, h.source.of_suffix [] .ended hplan, fun _ => ⟨hclosed, hway⟩,
      h.sound, [], ?_, ?_⟩
    · rw [hall, Option.toList_none, List.append_nil, List.append_nil]
    · intro _
      show [] ++ w.underWay = []
      rw [hway, List.append_nil]

/-- Once all bytes have arrived, whatever was accepted and not yet received is there. -/
theorem Carries.hasArrived (h : Carries max w r accepted received) (hmax : max < UInt32.size)
    (hway : w.underWay = []) (hmore : received.length < accepted.length) : r.hasArrived = true := by
  cases hopen : r.closed with
  | true => simp [Socket.hasArrived, hopen]
  | false =>
    obtain ⟨rest, hrest, hdata⟩ := h.rest
    have hdata := hdata hopen
    rw [hway, List.append_nil] at hdata
    cases rest with
    | nil =>
      rw [hrest, List.append_nil] at hmore
      exact absurd hmore (Nat.lt_irrefl _)
    | cons x rest =>
      obtain ⟨-, hx, hxmax⟩ := h.sound x (hrest ▸ List.mem_append_right _ List.mem_cons_self)
      have hd : r.stream.source.data = Frame.ofEnvelope x.envelope ++ frames rest := hdata
      have hlen : r.stream.source.data.length =
          Frame.headerSize + x.envelope.size + (frames rest).length := by
        rw [hd, List.length_append, Frame.length_ofEnvelope]
      have htake : r.stream.source.data.take Frame.headerSize =
          Bytes.bigEndian Frame.headerSize x.envelope.size := by
        rw [hd, Frame.take_ofEnvelope]
      simp only [Socket.hasArrived, htake, Frame.ofBigEndian_size (show x.envelope.size <
        UInt32.size by omega), Bool.or_eq_true, Bool.and_eq_true, decide_eq_true_eq]
      right
      omega

end Socket

-- ---------------------------------------------------------------------------
-- Both directions
-- ---------------------------------------------------------------------------

@[simp] theorem Side.other_other (side : Side) : side.other.other = side := by
  cases side <;> rfl

theorem Side.other_ne (side : Side) : side.other ≠ side := by
  cases side <;> decide

namespace SocketPair

theorem socket_setSocket_self (side : Side) (s : Socket) (p : SocketPair) :
    (p.setSocket side s).socket side = s := by
  cases side <;> rfl

theorem socket_setSocket_other (side : Side) (s : Socket) (p : SocketPair) :
    (p.setSocket side s).socket side.other = p.socket side.other := by
  cases side <;> rfl

theorem socket_setOther (side : Side) (s : Socket) (p : SocketPair) :
    (p.setSocket side.other s).socket side = p.socket side := by
  cases side <;> rfl

theorem setSocket_socket (side : Side) (p : SocketPair) : p.setSocket side (p.socket side) = p := by
  cases side <;> rfl

/-- What an end has accepted, with the sizes that were returned for it. -/
def accepted (side : Side) (answers : List Answer) : List Received :=
  answers.filterMap fun
    | .sent s e (.ok size) => if s = side then some ⟨e, size⟩ else none
    | _ => none

/-- What an end has received. -/
def received (side : Side) (answers : List Answer) : List Received :=
  answers.filterMap fun
    | .received s (.ok (some r)) => if s = side then some r else none
    | _ => none

/-- What was accepted in two parts of a run is put together. -/
theorem accepted_append (side : Side) (as bs : List Answer) :
    accepted side (as ++ bs) = accepted side as ++ accepted side bs :=
  List.filterMap_append

/-- So is what was received. -/
theorem received_append (side : Side) (as bs : List Answer) :
    received side (as ++ bs) = received side as ++ received side bs :=
  List.filterMap_append

/-- A receipt accepts nothing. -/
theorem accepted_concat_received (side side' : Side) (answers : List Answer)
    (next : Option Received) :
    accepted side' (answers ++ [.received side (.ok next)]) = accepted side' answers := by
  rw [accepted_append]
  exact List.append_nil _

/-- A receipt adds what was received. -/
theorem received_concat_received (side : Side) (answers : List Answer) (next : Option Received) :
    received side (answers ++ [.received side (.ok next)]) =
      received side answers ++ next.toList := by
  rw [received_append]
  cases next <;> simp [received]

/-- A receipt at one end is none at the other. -/
theorem received_concat_of_ne {side side' : Side} (h : side' ≠ side) (answers : List Answer)
    (next : Option Received) :
    received side' (answers ++ [.received side (.ok next)]) = received side' answers := by
  rw [received_append]
  cases next <;> simp [received, h.symm]

/-- Receipts accept nothing, however many there are. -/
theorem accepted_map_received (side side' : Side) (rs : List Received) :
    accepted side' (rs.map fun x => .received side (.ok (some x))) = [] := by
  induction rs with
  | nil => rfl
  | cons r rs ih => exact ih

/-- They add what was received, in order. -/
theorem received_map_received (side : Side) (rs : List Received) :
    received side (rs.map fun x => .received side (.ok (some x))) = rs := by
  have hsame (x : Received) : (if side = side then some x else none) = some x := if_pos rfl
  rw [received, List.filterMap_map]
  exact (congrArg (List.filterMap · rs) (funext hsame)).trans List.filterMap_some

/-- Both directions, after acts that were answered with `answers`. -/
def Joint (max : Nat) (p : SocketPair) (answers : List Answer) : Prop :=
  ∀ side : Side, Socket.Carries max (p.socket side) (p.socket side.other)
    (accepted side answers) (received side.other answers)

/-- Both directions in terms of one end. -/
theorem joint_iff {max : Nat} {p : SocketPair} {answers : List Answer} (side : Side) :
    Joint max p answers ↔
      Socket.Carries max (p.socket side) (p.socket side.other)
          (accepted side answers) (received side.other answers) ∧
        Socket.Carries max (p.socket side.other) (p.socket side)
          (accepted side.other answers) (received side answers) := by
  constructor
  · intro h
    exact ⟨h side, by simpa using h side.other⟩
  · rintro ⟨h, h'⟩ side'
    cases side <;> cases side' <;> assumption

/-- An answer that says of nothing that it was accepted or received. -/
theorem Joint.append {max : Nat} {p : SocketPair} {answers : List Answer} (h : Joint max p answers)
    {answer : Answer} (ha : ∀ side, accepted side [answer] = [])
    (hr : ∀ side, received side [answer] = []) : Joint max p (answers ++ [answer]) := by
  intro side
  rw [accepted_append, received_append, ha, hr, List.append_nil, List.append_nil]
  exact h side

/-- A closed socket refuses to send, and nothing else happens. -/
theorem step_send_of_closed {side : Side} {p : SocketPair} (e : Envelope)
    (h : (p.socket side).closed = true) :
    p.step (.send side e) = (.sent side e (.error .connectionClosed), p) := by
  rw [step, Socket.send_of_closed e h]
  dsimp only
  rw [setSocket_socket]

/-- An envelope above the limit is refused, and nothing is sent. -/
theorem step_send_of_large {side : Side} {p : SocketPair} {e : Envelope}
    (h : (p.socket side).closed = false) (hmax : (p.socket side).maxFrameSize < e.size) :
    p.step (.send side e) =
      (.sent side e (.error (.messageTooLarge e.size (p.socket side).maxFrameSize)), p) := by
  rw [step, Socket.send_of_large h hmax]
  dsimp only
  rw [setSocket_socket]

/-- A closed socket is at its end. -/
theorem step_receive_of_closed {side : Side} {p : SocketPair} (h : (p.socket side).closed = true) :
    p.step (.receive side) = (.received side (.ok none), p) := by
  have hready : (p.socket side).hasArrived = true := by simp [Socket.hasArrived, h]
  rw [step, if_pos hready, SocketPair.receive, Socket.receive_of_closed h]
  dsimp only
  rw [setSocket_socket]

/-- Closing twice is closing once. -/
theorem step_close_of_closed {side : Side} {p : SocketPair} (h : (p.socket side).closed = true) :
    p.step (.close side) = (.done, p) := by
  rw [step, Socket.close_of_closed h, setSocket_socket]

section

variable {max : Nat} {p : SocketPair} {answers : List Answer}

/-- An envelope that is small enough is accepted at an open end. -/
theorem Joint.send (h : Joint max p answers) {side : Side}
    (hopen : (p.socket side).closed = false) {e : Envelope} (hversion : e.version = protocolVersion)
    (hmax : e.size ≤ max) :
    (p.step (.send side e)).1 = .sent side e (.ok e.size) ∧
      Joint max (p.step (.send side e)).2 (answers ++ [.sent side e (.ok e.size)]) := by
  obtain ⟨h, h'⟩ := (joint_iff side).1 h
  obtain ⟨w', hsend, hsource, hclosed, hc⟩ := h.send hopen hversion hmax
  rw [step, hsend]
  refine ⟨rfl, (joint_iff side).2 ?_⟩
  dsimp only
  rw [socket_setSocket_self, socket_setSocket_other, accepted_append, accepted_append,
    received_append, received_append]
  constructor
  · simpa [accepted, received] using hc
  · have hsame := h'.congr (p.socket side.other) w' ⟨rfl, rfl, rfl⟩
      ⟨hc.writes.trans h.writes.symm, hclosed, hsource⟩
    simpa [accepted, received, side.other_ne.symm] using hsame

/-- An open end returns what is next, once it has arrived. -/
theorem Joint.receive (h : Joint max p answers) (hmax : max < UInt32.size) {side : Side}
    (hopen : (p.socket side).closed = false) (hready : (p.socket side).hasArrived = true) :
    ∃ next r', p.step (.receive side) = (.received side (.ok next), p.setSocket side r') ∧
      r'.closed = false ∧ r'.stream.source.dry = (p.socket side).stream.source.dry ∧
      Joint max (p.setSocket side r') (answers ++ [.received side (.ok next)]) ∧
      (next = none → accepted side.other answers = received side answers ∧
        (p.socket side.other).closed = true) := by
  obtain ⟨h', h⟩ := (joint_iff side).1 h
  obtain ⟨next, r', hreceive, hsink, hclosed, hsize, hdry, hc, hnone⟩ := h.receive hmax hopen hready
  refine ⟨next, r', ?_, hclosed.trans hopen, hdry, (joint_iff side).2 ?_, hnone⟩
  · rw [step, if_pos hready, SocketPair.receive, hreceive]
  rw [socket_setSocket_self, socket_setSocket_other, accepted_concat_received,
    accepted_concat_received, received_concat_received, received_concat_of_ne side.other_ne]
  exact ⟨h'.congr r' (p.socket side.other) ⟨hsize, hclosed, hsink⟩ ⟨rfl, rfl, rfl⟩, hc⟩

/-- Closing an end changes neither what was accepted nor what was received. -/
theorem Joint.close (h : Joint max p answers) (side : Side) :
    Joint max (p.step (.close side)).2 answers := by
  obtain ⟨h, h'⟩ := (joint_iff side).1 h
  rw [step]
  refine (joint_iff side).2 ?_
  dsimp only
  rw [socket_setSocket_self, socket_setSocket_other]
  exact ⟨h.closeWriter, h'.closeReader⟩

/-- Nor does it matter when bytes arrive. -/
theorem Joint.pass (h : Joint max p answers) (side : Side) (n : Nat) :
    Joint max (p.pass side n) answers := by
  obtain ⟨h, h'⟩ := (joint_iff side).1 h
  refine (joint_iff side).2 ?_
  rw [SocketPair.pass]
  dsimp only
  rw [socket_setOther, socket_setSocket_self, socket_setSocket_self]
  exact ⟨h.pass n, h'.congr _ _ ⟨rfl, rfl, rfl⟩ ⟨rfl, rfl, rfl⟩⟩

/-- The end of the stream may arrive when all that was sent has. -/
theorem Joint.finish (h : Joint max p answers) {side : Side}
    (hclosed : (p.socket side).closed = true) (hway : (p.socket side).underWay = []) :
    Joint max (p.finishRaw side) answers := by
  obtain ⟨h, h'⟩ := (joint_iff side).1 h
  refine (joint_iff side).2 ?_
  rw [SocketPair.finishRaw, socket_setOther, socket_setSocket_self]
  exact ⟨h.finish hclosed hway, h'.congr _ _ ⟨rfl, rfl, rfl⟩ ⟨rfl, rfl, rfl⟩⟩

/-- **What one act keeps.** -/
theorem Joint.step (h : Joint max p answers) (hmax : max < UInt32.size) {act : Act}
    (hversion : ∀ side e, act = .send side e → e.version = protocolVersion) :
    Joint max (p.step act).2 (answers ++ [(p.step act).1]) := by
  cases act with
  | send side e =>
    rcases hclosed : (p.socket side).closed with _ | _
    · rcases Nat.lt_or_ge max e.size with hlarge | hle
      · rw [step_send_of_large hclosed ((h side).writes ▸ hlarge)]
        exact h.append (fun _ => rfl) fun _ => rfl
      · obtain ⟨hanswer, hj⟩ := h.send hclosed (hversion side e rfl) hle
        rw [hanswer]
        exact hj
    · rw [step_send_of_closed e hclosed]
      exact h.append (fun _ => rfl) fun _ => rfl
  | receive side =>
    rcases hclosed : (p.socket side).closed with _ | _
    · by_cases hready : (p.socket side).hasArrived = true
      · obtain ⟨next, r', hstep, -, -, hj, -⟩ := h.receive hmax hclosed hready
        rw [hstep]
        exact hj
      · rw [SocketPair.step, if_neg hready]
        exact h.append (fun _ => rfl) fun _ => rfl
    · rw [step_receive_of_closed hclosed]
      exact h.append (fun _ => rfl) fun _ => rfl
  | close side => exact (h.close side).append (fun _ => rfl) fun _ => rfl
  | arrive side n => exact (h.pass side n).append (fun _ => rfl) fun _ => rfl
  | finish side =>
    rw [SocketPair.step]
    split
    next hc =>
      simp only [Bool.and_eq_true, decide_eq_true_eq] at hc
      exact (h.finish hc.1 hc.2).append (fun _ => rfl) fun _ => rfl
    next => exact h.append (fun _ => rfl) fun _ => rfl

end

/-- What any acts keep. -/
theorem Joint.run {max : Nat} {p : SocketPair} {answers : List Answer} (h : Joint max p answers)
    (hmax : max < UInt32.size) {acts : List Act}
    (hversion : ∀ side e, .send side e ∈ acts → e.version = protocolVersion) :
    Joint max (p.run acts).2 (answers ++ (p.run acts).1) := by
  induction acts generalizing p answers with
  | nil => simpa [SocketPair.run] using h
  | cons act acts ih =>
    have hstep := h.step hmax fun side e he => hversion side e (he ▸ List.mem_cons_self)
    have hrun := ih hstep fun side e he => hversion side e (List.mem_cons_of_mem _ he)
    rwa [List.append_assoc] at hrun

-- ---------------------------------------------------------------------------
-- What is on the way
-- ---------------------------------------------------------------------------

/-- A run goes on where it was left. -/
theorem run_append (p : SocketPair) (acts more : List Act) :
    p.run (acts ++ more) =
      ((p.run acts).1 ++ ((p.run acts).2.run more).1, ((p.run acts).2.run more).2) := by
  induction acts generalizing p with
  | nil => rfl
  | cons act acts ih =>
    rw [List.cons_append, SocketPair.run, SocketPair.run]
    dsimp only
    rw [ih]
    rfl

/-- What is closed stays closed when only closed sockets take the place of closed ones. -/
theorem closed_setSocket {p : SocketPair} {side : Side} (h : (p.socket side).closed = true)
    (side' : Side) (s : Socket) (hs : (p.socket side').closed = true → s.closed = true) :
    ((p.setSocket side' s).socket side).closed = true := by
  by_cases hside : side = side'
  · subst hside
    rw [socket_setSocket_self]
    exact hs h
  · cases side <;> cases side' <;> first | exact absurd rfl hside | exact h

/-- Nobody opens a socket again. -/
theorem closed_step {side : Side} {p : SocketPair} (h : (p.socket side).closed = true) (act : Act) :
    ((p.step act).2.socket side).closed = true := by
  cases act with
  | send side' e =>
    refine closed_setSocket h side' ((p.socket side').send e).2 fun hc => ?_
    rw [Socket.send_of_closed e hc]
    exact hc
  | receive side' =>
    rw [step]
    split
    · refine closed_setSocket h side' (p.socket side').receive.2 fun hc => ?_
      rw [Socket.receive_of_closed hc]
      exact hc
    · exact h
  | close side' => exact closed_setSocket h side' _ fun _ => rfl
  | arrive side' n =>
    have hw := closed_setSocket h side' ((p.socket side').withSink
      { (p.socket side').stream.sink with written := (p.socket side').underWay.drop n }) id
    refine closed_setSocket hw side'.other _ fun hc => ?_
    rwa [socket_setSocket_other] at hc
  | finish side' =>
    rw [step]
    split
    · exact closed_setSocket h side'.other _ id
    · exact h

/-- A closed socket stays closed. -/
theorem closed_run {side : Side} {p : SocketPair} (h : (p.socket side).closed = true)
    (acts : List Act) : ((p.run acts).2.socket side).closed = true := by
  induction acts generalizing p with
  | nil => exact h
  | cons act acts ih => exact ih (closed_step h act)

section

variable {max : Nat} {p : SocketPair} {answers : List Answer} {side : Side} {rest : List Received}

/-- An open end receives all that was accepted at the other one, once nothing of it is on the way. -/
theorem Joint.receiveAll (h : Joint max p answers) (hmax : max < UInt32.size)
    (hopen : (p.socket side).closed = false) (hway : (p.socket side.other).underWay = [])
    (hrest : accepted side.other answers = received side answers ++ rest) :
    ∃ r', p.run (List.replicate rest.length (.receive side)) =
        (rest.map fun x => .received side (.ok (some x)), p.setSocket side r') ∧
      r'.closed = false ∧ r'.stream.source.dry = (p.socket side).stream.source.dry ∧
      Joint max (p.setSocket side r')
        (answers ++ rest.map fun x => .received side (.ok (some x))) := by
  induction rest generalizing p answers with
  | nil =>
    refine ⟨p.socket side, ?_, hopen, rfl, ?_⟩
    · rw [setSocket_socket]
      rfl
    · simpa [setSocket_socket] using h
  | cons x rest ih =>
    have hready : (p.socket side).hasArrived = true := by
      refine ((joint_iff side).1 h).2.hasArrived hmax hway ?_
      rw [hrest, List.length_append, List.length_cons]
      omega
    obtain ⟨next, r₁, hstep, hclosed, hdry, hj, hnone⟩ := h.receive hmax hopen hready
    -- what is returned is the first of the rest
    cases next with
    | none =>
      have hall := (hnone rfl).1
      rw [hrest] at hall
      simp at hall
    | some y =>
      have hacc : accepted side.other (answers ++ [.received side (.ok (some y))]) =
          received side answers ++ x :: rest := by
        rw [accepted_concat_received, hrest]
      have hrec : received side (answers ++ [.received side (.ok (some y))]) =
          received side answers ++ [y] := received_concat_received ..
      obtain ⟨rest', hrest', -⟩ := ((joint_iff side).1 hj).2.rest
      rw [hacc, hrec, List.append_assoc] at hrest'
      obtain ⟨rfl, -⟩ := List.cons.inj (List.append_cancel_left hrest')
      obtain ⟨r', hrun, hclosed', hdry', hj'⟩ := ih hj (by rwa [socket_setSocket_self])
        (by rwa [socket_setSocket_other]) (by rw [hacc, hrec, List.append_assoc]; rfl)
      have hset : (p.setSocket side r₁).setSocket side r' = p.setSocket side r' := by
        cases side <;> rfl
      rw [hset] at hrun hj'
      rw [socket_setSocket_self] at hdry'
      refine ⟨r', ?_, hclosed', hdry'.trans hdry, ?_⟩
      · rw [List.length_cons, List.replicate_succ, SocketPair.run, hstep]
        dsimp only
        rw [hrun]
        rfl
      · rwa [List.append_assoc] at hj'

/-- Where all was received and the stream has ended, there is nothing more. -/
theorem Joint.receiveNone (h : Joint max p answers) (hmax : max < UInt32.size)
    (hopen : (p.socket side).closed = false) (hdry : (p.socket side).stream.source.dry = .ended)
    (hall : accepted side.other answers = received side answers) (k : Nat) :
    (p.run (List.replicate k (.receive side))).1 = List.replicate k (.received side (.ok none)) := by
  induction k generalizing p answers with
  | zero => rfl
  | succ k ih =>
    have hready : (p.socket side).hasArrived = true := by simp [Socket.hasArrived, hdry]
    obtain ⟨next, r', hstep, hclosed, hdry', hj, -⟩ := h.receive hmax hopen hready
    have hacc : accepted side.other (answers ++ [.received side (.ok next)]) =
        received side answers := by
      rw [accepted_concat_received, hall]
    obtain ⟨rest', hrest', -⟩ := ((joint_iff side).1 hj).2.rest
    rw [hacc, received_concat_received, List.append_assoc] at hrest'
    have hnext : next.toList = [] := (List.append_eq_nil_iff.1
      (List.append_right_eq_self.1 hrest'.symm)).1
    have hnone : next = none := Option.toList_eq_nil_iff.1 hnext
    subst hnone
    rw [List.replicate_succ, SocketPair.run, hstep]
    dsimp only
    rw [ih hj (by rwa [socket_setSocket_self]) (by rw [socket_setSocket_self, hdry', hdry])
      (by rw [hacc, received_concat_received]; exact (List.append_nil _).symm)]
    rfl

/-- When all bytes and the end have arrived, an open end receives what was accepted at the other one,
and then the end of the stream, however often it asks. -/
theorem Joint.receiveToEnd (h : Joint max p answers) (hmax : max < UInt32.size)
    (hopen : (p.socket side).closed = false) (hclosed : (p.socket side.other).closed = true)
    (hway : (p.socket side.other).underWay = [])
    (hrest : accepted side.other answers = received side answers ++ rest) (k : Nat) :
    (p.run (.finish side.other :: List.replicate (rest.length + k) (.receive side))).1 =
      .done :: (rest.map (fun x => .received side (.ok (some x))) ++
        List.replicate k (.received side (.ok none))) := by
  have hfinish : p.step (.finish side.other) = (.done, p.finishRaw side.other) := by
    rw [SocketPair.step, hclosed, hway]
    rfl
  have hside : side.other.other = side := side.other_other
  have hsame : (p.finishRaw side.other).socket side = (p.socket side).finish := by
    rw [finishRaw, hside, socket_setSocket_self]
  have hother : (p.finishRaw side.other).socket side.other = p.socket side.other := by
    rw [finishRaw, hside, socket_setSocket_other]
  have hj : Joint max (p.finishRaw side.other) answers := h.finish hclosed hway
  obtain ⟨r', hrun, hopen', hdry, hj'⟩ := hj.receiveAll hmax (by rw [hsame]; exact hopen)
    (by rw [hother]; exact hway) hrest
  have hended : r'.stream.source.dry = .ended := hdry.trans (by rw [hsame]; rfl)
  have hall : accepted side.other (answers ++ rest.map fun x => .received side (.ok (some x))) =
      received side (answers ++ rest.map fun x => .received side (.ok (some x))) := by
    rw [accepted_append, received_append, accepted_map_received, received_map_received, hrest,
      List.append_nil]
  have hnone := hj'.receiveNone hmax (by rw [socket_setSocket_self]; exact hopen')
    (by rw [socket_setSocket_self]; exact hended) hall k
  rw [SocketPair.run, hfinish]
  dsimp only
  rw [← List.replicate_append_replicate, run_append, hrun]
  dsimp only
  rw [hnone]

end

/-- When everything from the other end has arrived, nothing of it is on the way. -/
theorem pass_all (side : Side) (p : SocketPair) :
    let q := p.pass side.other (p.socket side.other).underWay.length
    (q.socket side).closed = (p.socket side).closed ∧
      (q.socket side.other).closed = (p.socket side.other).closed ∧
      (q.socket side.other).underWay = [] := by
  cases side <;> exact ⟨rfl, rfl, List.drop_length⟩

-- ---------------------------------------------------------------------------
-- Streams without delay
-- ---------------------------------------------------------------------------

/-- To carry is to pass on all that is under way. -/
theorem carry_eq_pass (side : Side) (p : SocketPair) :
    p.carry side = p.pass side (p.socket side).underWay.length := by
  have hall : (p.socket side).underWay.take (p.socket side).underWay.length =
      (p.socket side).underWay := List.take_length
  have hnone : (p.socket side).underWay.drop (p.socket side).underWay.length = [] :=
    List.drop_length
  rw [pass, hall, hnone]
  rfl

/-- What is sent over a stream without delay has arrived when sending returns. -/
theorem send_eq_steps (side : Side) (e : Envelope) (p : SocketPair) :
    let q := (p.step (.send side e)).2
    (p.step (.send side e)).1 = .sent side e (p.send side e).1 ∧
      (q.step (.arrive side (q.socket side).underWay.length)).2 = (p.send side e).2 := by
  refine ⟨rfl, ?_⟩
  rw [SocketPair.send]
  dsimp only
  rw [carry_eq_pass]
  rfl

/-- When nothing is on the way, the end of the stream arrives as soon as an end is closed. -/
theorem close_eq_steps {side : Side} {p : SocketPair} (h : (p.socket side).underWay = []) :
    ((p.step (.close side)).2.step (.finish side)).2 = p.close side := by
  have hclosed : ((p.setSocket side (p.socket side).close).socket side).closed = true := by
    rw [socket_setSocket_self]
    rfl
  have hway : ((p.setSocket side (p.socket side).close).socket side).underWay = [] := by
    rw [socket_setSocket_self]
    exact h
  rw [step, step, hclosed, hway]
  dsimp only
  rw [if_pos (by simp), finishRaw, socket_setSocket_other, SocketPair.close]

-- ---------------------------------------------------------------------------
-- What either end sees
-- ---------------------------------------------------------------------------

/-- Both ends are open, with the same largest frame, and nothing was written yet. -/
def Fresh (max : Nat) (p : SocketPair) : Prop :=
  ∀ side : Side, (p.socket side).closed = false ∧ (p.socket side).maxFrameSize = max ∧
    (p.socket side).stream.source.data = [] ∧ (p.socket side).stream.source.dry = .stalled ∧
    (p.socket side).stream.source.Steady ∧ (p.socket side).underWay = [] ∧
    (p.socket side).stream.sink.Steady

theorem fresh_joined (max : Nat) : (joined max max).Fresh max := by
  have steady : Sink.unlimited.Steady := ⟨(fun _ h => nomatch h), (fun _ h => nomatch h)⟩
  intro side
  cases side <;> exact ⟨rfl, rfl, rfl, rfl, fun _ h => (by cases h), rfl, steady⟩

/-- A fresh pair has carried nothing yet. -/
theorem Fresh.joint {max : Nat} {p : SocketPair} (h : p.Fresh max) : Joint max p [] := by
  intro side
  obtain ⟨-, hw, -, -, -, hway, hsink⟩ := h side
  obtain ⟨-, hr, hdata, hdry, hsource, -, -⟩ := h side.other
  refine ⟨hw, hr, hsink, hsource, fun hended => ?_, (fun x hx => nomatch hx), [], rfl, fun _ => ?_⟩
  · rw [hdry] at hended
    cases hended
  · rw [hdata, hway]
    rfl

/-- One end of a pair, after acts that were answered with `answers`. -/
structure Delivery (max : Nat) (p : SocketPair) (answers : List Answer) (side : Side) : Prop where
  /-- What it has received is what the other end has accepted, from the start up to some point, with
  the sizes that were returned there. -/
  inOrder : received side answers <+: accepted side.other answers
  accepts : (p.socket side).closed = false → ∀ e, e.version = protocolVersion → e.size ≤ max →
    (p.step (.send side e)).1 = .sent side e (.ok e.size)
  /-- What is refused leaves everything as it is. -/
  refuses : (p.socket side).closed = false → ∀ e, max < e.size →
    p.step (.send side e) = (.sent side e (.error (.messageTooLarge e.size max)), p)
  /-- It receives what is next, and no end before the other one has closed and all is received. -/
  receives : (p.socket side).closed = false → (p.socket side).hasArrived = true →
    ∃ next, (p.step (.receive side)).1 = .received side (.ok next) ∧
      received side answers ++ next.toList <+: accepted side.other answers ∧
      (next = none → (p.socket side.other).closed = true ∧
        received side answers = accepted side.other answers)
  closes : ((p.step (.close side)).2.socket side).closed = true
  /-- Once it is closed it stays so, sends nothing, receives nothing and is closed again in vain. -/
  closed : (p.socket side).closed = true → ∀ acts, let q := (p.run acts).2
    (∀ e, q.step (.send side e) = (.sent side e (.error .connectionClosed), q)) ∧
      q.step (.receive side) = (.received side (.ok none), q) ∧ q.step (.close side) = (.done, q)
  /-- Everything that is left arrives, and behind it the end, if the other end is closed. -/
  arrives : (p.socket side).closed = false →
    ∃ rest, accepted side.other answers = received side answers ++ rest ∧
      let n := (p.socket side.other).underWay.length
      (p.run (.arrive side.other n :: List.replicate rest.length (.receive side))).1 =
          .done :: rest.map (fun x => .received side (.ok (some x))) ∧
        ((p.socket side.other).closed = true → ∀ k,
          (p.run (.arrive side.other n :: .finish side.other ::
              List.replicate (rest.length + k) (.receive side))).1 =
            .done :: .done :: (rest.map (fun x => .received side (.ok (some x))) ++
              List.replicate k (.received side (.ok none))))

/-- **Both ends of a pair receive what the other one sends.** Two open sockets with the same largest
frame send envelopes of this version, receive and close, in any order, while the bytes between them
arrive in pieces and with any delay. At every moment each end has received what the other one's sends
have accepted, in order and without loss or repetition, up to some point; every accepted send has
returned the size that is received. A send that is refused leaves everything as it is. A closed end
sends and receives nothing, and the other one still receives everything that was accepted before, and
then the end of the stream. -/
theorem run_delivery {max : Nat} (hmax : max < UInt32.size) {p : SocketPair} (hp : p.Fresh max)
    {acts : List Act} (hversion : ∀ side e, .send side e ∈ acts → e.version = protocolVersion)
    (side : Side) : Delivery max (p.run acts).2 (p.run acts).1 side := by
  have h : Joint max (p.run acts).2 (p.run acts).1 := hp.joint.run hmax hversion
  generalize (p.run acts).1 = answers, (p.run acts).2 = q at h
  obtain ⟨hout, hin⟩ := (joint_iff side).1 h
  obtain ⟨rest, hrest, -⟩ := hin.rest
  exact {
    inOrder := ⟨rest, hrest.symm⟩
    accepts := fun hopen e hv hle => (h.send hopen hv hle).1
    refuses := fun hopen e hlarge => by
      have hstep := step_send_of_large (e := e) hopen (hout.writes ▸ hlarge)
      rwa [hout.writes] at hstep
    receives := fun hopen hready => by
      obtain ⟨next, r', hstep, -, -, hj, hnone⟩ := h.receive hmax hopen hready
      refine ⟨next, by rw [hstep], ?_, fun hn => ⟨(hnone hn).2, (hnone hn).1.symm⟩⟩
      obtain ⟨more, hmore, -⟩ := ((joint_iff side).1 hj).2.rest
      rw [accepted_concat_received, received_concat_received] at hmore
      exact ⟨more, hmore.symm⟩
    closes := by
      rw [step, socket_setSocket_self]
      rfl
    closed := fun hclosed acts => by
      have hq := closed_run hclosed acts
      exact ⟨fun e => step_send_of_closed e hq, step_receive_of_closed hq, step_close_of_closed hq⟩
    arrives := fun hopen => by
      have hj := h.pass side.other (q.socket side.other).underWay.length
      obtain ⟨hopen', hclosed', hway⟩ := pass_all side q
      rw [← hopen'] at hopen
      refine ⟨rest, hrest, ?_, fun hclosed k => ?_⟩
      · obtain ⟨r', hrun, -⟩ := hj.receiveAll hmax hopen hway hrest
        rw [SocketPair.run, step]
        dsimp only
        rw [hrun]
      · rw [← hclosed'] at hclosed
        rw [SocketPair.run, step]
        dsimp only
        rw [hj.receiveToEnd hmax hopen hclosed hway hrest k] }

/-- The client's first envelope is on the way when it closes; the second one is too large, and the
third one comes too late. -/
theorem run_delivery_sample :
    let p := joined 13 13
    let large : Envelope := ⟨1, .handshake ⟨"a", none, 1⟩⟩
    let acts : List Act := [.send .client ⟨1, .ping ⟨7⟩⟩, .send .client large, .arrive .client 9,
      .receive .server, .close .client, .send .client ⟨1, .pong ⟨9⟩⟩]
    p.Fresh 13 ∧ (∀ side e, .send side e ∈ acts → e.version = protocolVersion) ∧
      accepted .client (p.run acts).1 = [⟨⟨1, .ping ⟨7⟩⟩, 13⟩] ∧ received .server (p.run acts).1 = [] ∧
      ((p.run acts).2.run (.arrive .client 8 :: .finish .client ::
          List.replicate 3 (.receive .server))).1 =
        [.done, .done, .received .server (.ok (some ⟨⟨1, .ping ⟨7⟩⟩, 13⟩)),
          .received .server (.ok none), .received .server (.ok none)] := by
  intro p large acts
  have hp : p.Fresh 13 := fresh_joined 13
  have hversion : ∀ side e, .send side e ∈ acts → e.version = protocolVersion := by
    intro side e he
    simp only [acts, List.mem_cons, Act.send.injEq, reduceCtorEq, List.not_mem_nil, or_false,
      false_or] at he
    rcases he with ⟨-, rfl⟩ | ⟨-, rfl⟩ | ⟨-, rfl⟩ <;> rfl
  have haccepted : accepted .client (p.run acts).1 = [⟨⟨1, .ping ⟨7⟩⟩, 13⟩] := by decide +kernel
  have hreceived : received .server (p.run acts).1 = [] := by decide +kernel
  refine ⟨hp, hversion, haccepted, hreceived, ?_⟩
  obtain ⟨rest, hrest, -, hend⟩ :=
    (run_delivery (by decide) hp hversion .server).arrives (by decide +kernel)
  have hlen : ((p.run acts).2.socket Side.server.other).underWay.length = 8 := by decide +kernel
  rw [show Side.server.other = .client from rfl, haccepted, hreceived, List.nil_append] at hrest
  subst hrest
  have hlast := hend (by decide +kernel) 2
  rwa [hlen] at hlast

end SocketPair

end Courier
