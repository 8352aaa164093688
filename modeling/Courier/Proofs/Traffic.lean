import Courier.Link.Connection
import Courier.Proofs.Exchange
import Courier.Proofs.Timeouts

/-!
# Courier — what a connection counts

A connection counts the frames that it has written completely and those that it has read. What was
written is a sequence of frames, and of a part of a frame for each write that has failed; what was
read is what so many parses take from the data that comes in. Nothing but whole frames is counted.

When a stream brings what the other end of it has written, and no write fails there, all that is read
is frames, and they are those that the other end has counted.

* `Part`, `Frame.write_parts` — what was written of a frame;
* `Frame.decoded`, `Frame.read_parse` — what was read, as the data itself lays it down;
* `Connection.Books` — what a connection has written and read, and has counted of it;
* `Connection.Books.send`, `receive` — the books after sending and receiving;
* `Connection.Books.agree` — the books of both ends.
-/

namespace Courier

-- ---------------------------------------------------------------------------
-- Counting
-- ---------------------------------------------------------------------------

/-- The sizes of these frames, added up. -/
def Received.total (frames : List Received) : Nat := frames.foldl (fun sum r => sum + r.size) 0

/-- These frames were counted. -/
structure Counters.Tally (c : Counters) (frames : List Received) : Prop where
  messages : c.messages = frames.length
  bytes : c.bytes = Received.total frames

/-- New counters have counted nothing. -/
theorem Counters.Tally.zero : Counters.zero.Tally [] := ⟨rfl, rfl⟩

/-- A frame is counted with its size. -/
theorem Counters.Tally.count {c : Counters} {frames : List Received} (h : c.Tally frames)
    (r : Received) (timeMs : Nat) : (c.count r.size timeMs).Tally (frames ++ [r]) := by
  constructor
  · rw [List.length_append, ← h.messages]
    rfl
  · rw [Received.total, List.foldl_append, ← Received.total, ← h.bytes]
    rfl

/-- The frame of what is sent or received is not too large and of this version, and its size is that
of its body. -/
structure Received.IsSound (max : Nat) (r : Received) : Prop where
  version : r.envelope.version = protocolVersion
  size : r.size = r.envelope.size
  le : r.size ≤ max

-- ---------------------------------------------------------------------------
-- What was written
-- ---------------------------------------------------------------------------

/-- What was written of one frame. -/
structure Part where
  envelope : Envelope
  bytes : Bytes
  isPart : bytes <+: Frame.ofEnvelope envelope

/-- The whole frame was written. -/
def Part.IsWhole (p : Part) : Prop := p.bytes = Frame.ofEnvelope p.envelope

instance (p : Part) : Decidable p.IsWhole := inferInstanceAs (Decidable (_ = _))

/-- All that was written, part by part. -/
def Part.written (parts : List Part) : Bytes := (parts.map (·.bytes)).flatten

/-- The frames that were written completely. -/
def Part.frames (parts : List Part) : List Received :=
  (parts.filter (·.IsWhole)).map fun p => ⟨p.envelope, p.envelope.size⟩

/-- What was written of parts is put together. -/
theorem Part.written_append (parts more : List Part) :
    Part.written (parts ++ more) = Part.written parts ++ Part.written more := by
  rw [Part.written, List.map_append, List.flatten_append]
  rfl

/-- So are the frames that are whole. -/
theorem Part.frames_append (parts more : List Part) :
    Part.frames (parts ++ more) = Part.frames parts ++ Part.frames more := by
  rw [Part.frames, List.filter_append, List.map_append]
  rfl

/-- A part is a frame if all of it was written. -/
theorem Part.frames_singleton (p : Part) :
    Part.frames [p] = if p.IsWhole then [⟨p.envelope, p.envelope.size⟩] else [] := by
  by_cases h : p.IsWhole <;> simp [Part.frames, h]

/-- Where every frame was written whole, these frames are all that was written. -/
theorem Part.written_of_whole {parts : List Part} (h : ∀ p ∈ parts, p.IsWhole) :
    Part.written parts = Socket.frames (Part.frames parts) := by
  have hall : parts.filter (·.IsWhole) = parts :=
    List.filter_eq_self.mpr fun p hp => decide_eq_true (h p hp)
  unfold Part.written Part.frames Socket.frames
  rw [hall, List.map_map]
  exact congrArg List.flatten (List.map_congr_left h)

/-- The frames that were cut. -/
def Part.cut (parts : List Part) : Nat := (parts.filter (!·.IsWhole)).length

/-- Parts that were cut off are added up. -/
theorem Part.cut_append (parts more : List Part) :
    Part.cut (parts ++ more) = Part.cut parts + Part.cut more := by
  rw [Part.cut, List.filter_append, List.length_append]
  rfl

/-- A part counts as cut off if it is not whole. -/
theorem Part.cut_singleton (p : Part) : Part.cut [p] = if p.IsWhole then 0 else 1 := by
  by_cases h : p.IsWhole <;> simp [Part.cut, h]

/-- Where nothing was cut off all parts are whole. -/
theorem Part.whole_of_cut {parts : List Part} (h : Part.cut parts = 0) :
    ∀ p ∈ parts, p.IsWhole := by
  intro p hp
  by_contra hcut
  have hmem : p ∈ parts.filter (!·.IsWhole) :=
    List.mem_filter.mpr ⟨hp, by rw [decide_eq_false hcut]; rfl⟩
  rw [List.eq_nil_of_length_eq_zero h] at hmem
  exact absurd hmem List.not_mem_nil

namespace Sink

/-- The writes that are planned to fail for good. -/
def failures (s : Sink) : Nat := s.plan.countP (!·.IsSteady)

/-- A steady stream does not fail. -/
theorem Steady.failures {s : Sink} (h : s.Steady) : s.failures = 0 :=
  List.countP_eq_zero.mpr fun step hstep => by rw [decide_eq_true (h.plan step hstep)]; simp

/-- A write has failed for good, or takes nothing. -/
def stuck : Except IoFailure Nat → Bool
  | .ok k => k = 0
  | .error f => !(f.kind = .interrupted)

/-- A write gets stuck just when that was planned. -/
theorem failures_write {bs : Bytes} (hbs : bs ≠ []) (s : Sink) :
    s.failures = (s.write bs).2.failures + if stuck (s.write bs).1 then 1 else 0 := by
  have hpos : 0 < bs.length := List.length_pos_iff.mpr hbs
  unfold write failures
  split
  next f plan hp =>
    rw [hp, List.countP_cons]
    rfl
  next n plan hp =>
    have hstuck : stuck (.ok (min n bs.length)) = !(WriteStep.atMost n).IsSteady := by
      by_cases hn : n = 0
      · subst hn
        simp [stuck, WriteStep.IsSteady]
      · have hmin : min n bs.length ≠ 0 := by omega
        simp [stuck, WriteStep.IsSteady, hn, hmin]
    rw [hp, List.countP_cons, hstuck]
  next hp =>
    have hstuck : stuck (.ok bs.length) = false := decide_eq_false (Nat.ne_of_gt hpos)
    rw [hp, hstuck]
    rfl

/-- Writing all bytes goes on until a write gets stuck. -/
theorem failures_writeAll (bs : Bytes) (s : Sink) :
    s.failures = (s.writeAll bs).2.failures +
      match (s.writeAll bs).1 with
      | .ok _ => 0
      | .error _ => 1 := by
  fun_induction writeAll bs s with
  | case1 s => rfl
  | case2 bs s hne s' h =>
    have hstep := failures_write hne s
    rw [h] at hstep
    exact hstep
  | case3 bs s hne k s' h ih =>
    have hstep := failures_write hne s
    rw [h] at hstep
    exact hstep.trans ih
  | case4 bs s hne f s' h hf ih =>
    have hstep := failures_write hne s
    rw [h, stuck, decide_eq_true hf] at hstep
    exact hstep.trans ih
  | case5 bs s hne f s' h hf =>
    have hstep := failures_write hne s
    rw [h, stuck, decide_eq_false hf] at hstep
    exact hstep

/-- Writing does not flush. -/
theorem flushes_writeAll (bs : Bytes) (s : Sink) : (s.writeAll bs).2.flushes = s.flushes := by
  have hwrite (bs : Bytes) (s : Sink) : (s.write bs).2.flushes = s.flushes := by
    unfold write
    split <;> rfl
  fun_induction writeAll bs s with
  | case1 s => rfl
  | case2 bs s hne s' h =>
    rw [← hwrite bs s, h]
  | case3 bs s hne k s' h ih =>
    rw [ih, ← hwrite bs s, h]
  | case4 bs s hne f s' h hf ih =>
    rw [ih, ← hwrite bs s, h]
  | case5 bs s hne f s' h hf =>
    rw [← hwrite bs s, h]

/-- No flush fails. -/
def Flushes (s : Sink) : Prop := ∀ f ∈ s.flushes, f = none

/-- So flushes still succeed after it. -/
theorem Flushes.writeAll {s : Sink} (h : s.Flushes) (bs : Bytes) : (s.writeAll bs).2.Flushes := by
  unfold Flushes
  rwa [s.flushes_writeAll]

/-- A flush succeeds, and the next ones will. -/
theorem Flushes.flush {s : Sink} (h : s.Flushes) :
    s.flush.1 = .ok () ∧ s.flush.2.Flushes ∧ s.flush.2.plan = s.plan := by
  unfold Sink.flush
  split
  next f flushes hf => exact nomatch h (some f) (hf ▸ List.mem_cons_self)
  next flushes hf => exact ⟨rfl, fun f hmem => h f (hf ▸ List.mem_cons_of_mem _ hmem), rfl⟩
  next => exact ⟨rfl, h, rfl⟩

end Sink

/-- **A write leaves a part of its frame**, or nothing when the frame is too large. The part is whole
just when the write has succeeded, and a frame is cut only by a write that was planned to fail. -/
theorem Frame.write_parts (max : Nat) (e : Envelope) {s : Sink} (h : s.Flushes) :
    ∃ more : List Part, (write e max s).2.written = s.written ++ Part.written more ∧
      (write e max s).2.Flushes ∧ Part.cut more + (write e max s).2.failures = s.failures ∧
      (e.size ≤ max ∧ (write e max s).1 = .ok e.size ∧ Part.frames more = [⟨e, e.size⟩] ∨
        (∃ err, (write e max s).1 = .error err) ∧ Part.frames more = []) := by
  rcases Nat.lt_or_ge max e.size with hmax | hmax
  · rw [write, encode_eq_error hmax]
    exact ⟨[], (List.append_nil _).symm, h, Nat.zero_add _, .inr ⟨⟨_, rfl⟩, rfl⟩⟩
  rw [write, encode_eq_ok hmax]
  dsimp only
  obtain ⟨part, hpart, hwritten, hok⟩ := s.writeAll_written (ofEnvelope e)
  have hfailures := s.failures_writeAll (ofEnvelope e)
  have hflushes := h.writeAll (ofEnvelope e)
  generalize s.writeAll (ofEnvelope e) = wrote at *
  obtain ⟨outcome, t⟩ := wrote
  have hall : t.written = s.written ++ Part.written [⟨e, part, hpart⟩] := by
    rw [Part.written, List.map_singleton, List.flatten_singleton]
    exact hwritten
  cases outcome with
  | error f =>
    have hcut : ¬ Part.IsWhole ⟨e, part, hpart⟩ := by
      intro hwhole
      cases hok.mpr hwhole
    refine ⟨_, hall, hflushes, ?_, .inr ⟨⟨_, rfl⟩, ?_⟩⟩
    · rw [Part.cut_singleton, if_neg hcut, hfailures, Nat.add_comm]
    · rw [Part.frames_singleton, if_neg hcut]
  | ok u =>
    have hwhole : Part.IsWhole ⟨e, part, hpart⟩ := hok.mp rfl
    obtain ⟨hflushed, hmore, hplan⟩ := hflushes.flush
    have hsame := t.written_of_flush
    dsimp only
    generalize t.flush = flushed at *
    obtain ⟨last, t'⟩ := flushed
    cases hflushed
    dsimp only at hmore hplan hsame hfailures ⊢
    refine ⟨_, hsame.trans hall, hmore, ?_, .inl ⟨hmax, ?_, ?_⟩⟩
    · rw [Part.cut_singleton, if_pos hwhole, hfailures, Sink.failures, Sink.failures, hplan,
        Nat.zero_add, Nat.add_zero]
    · rw [length_ofEnvelope, Nat.add_sub_cancel_left]
    · rw [Part.frames_singleton, if_pos hwhole]

-- ---------------------------------------------------------------------------
-- What was read
-- ---------------------------------------------------------------------------

namespace Frame

/-- The frame that a read has yielded. -/
def received? : Except NetworkError (Option Received) → Option Received
  | .ok r => r
  | .error _ => none

/-- The frames that so many reads yield. -/
def decoded (max k : Nat) (data : Bytes) : List Received :=
  (parseTimes max k data).1.filterMap received?

/-- What so many reads leave. -/
def left (max k : Nat) (data : Bytes) : Bytes := data.drop (parseTimes max k data).2

/-- The first read, and then the others. -/
theorem decoded_cons (max k : Nat) (data : Bytes) :
    decoded max (k + 1) data = (received? (parse max data).1).toList ++
        decoded max k (data.drop (parse max data).2) ∧
      left max (k + 1) data = left max k (data.drop (parse max data).2) := by
  unfold decoded left
  rw [parseTimes]
  dsimp only
  rw [List.filterMap_cons, List.drop_drop]
  cases received? (parse max data).1 <;> exact ⟨rfl, rfl⟩

/-- One read more. -/
theorem decoded_succ (max k : Nat) (data : Bytes) :
    decoded max (k + 1) data =
        decoded max k data ++ (received? (parse max (left max k data)).1).toList ∧
      left max (k + 1) data = (left max k data).drop (parse max (left max k data)).2 := by
  induction k generalizing data with
  | zero =>
    obtain ⟨hdecoded, hleft⟩ := decoded_cons max 0 data
    exact ⟨hdecoded.trans (List.append_nil _), hleft⟩
  | succ k ih =>
    obtain ⟨hdecoded, hleft⟩ := decoded_cons max (k + 1) data
    obtain ⟨hfirst, hrest⟩ := decoded_cons max k data
    obtain ⟨hmore, hmoreLeft⟩ := ih (data.drop (parse max data).2)
    rw [hdecoded, hleft, hfirst, hrest, hmore, hmoreLeft, List.append_assoc]
    exact ⟨rfl, rfl⟩

/-- **One read takes what stands at the front of the data** of a steady stream, whether that has
ended or not. -/
theorem read_parse (max : Nat) {s : Source} (hs : s.Steady) :
    received? (read max s).1 = received? (parse max s.data).1 ∧
      ∃ plan, plan <:+ s.plan ∧
        (read max s).2 = ⟨s.data.drop (parse max s.data).2, plan, s.dry⟩ := by
  obtain ⟨plan, hplan, hfill⟩ := Source.fill_steady headerSize hs
  by_cases hheader : headerSize ≤ s.data.length
  · -- the length is there
    rw [if_pos hheader] at hfill
    have hlength : (s.data.take headerSize).length = headerSize := by
      rw [List.length_take]
      omega
    have hparse : parse max (s.data.take headerSize ++ s.data.drop headerSize) = _ :=
      parse_append hlength
    rw [List.take_append_drop] at hparse
    rw [hparse, read, hfill]
    dsimp only
    generalize Bytes.ofBigEndian (s.data.take headerSize) = size
    by_cases hmax : max < size
    · rw [if_pos hmax, if_pos hmax]
      exact ⟨rfl, plan, hplan, rfl⟩
    rw [if_neg hmax, if_neg hmax]
    -- and the body may be read
    obtain ⟨plan', hplan', hfill'⟩ :=
      Source.fill_steady size (hs.of_suffix (s.data.drop headerSize) s.dry hplan)
    dsimp only at hplan' hfill'
    rw [hfill']
    by_cases hbody : size ≤ (s.data.drop headerSize).length
    · rw [if_pos hbody, if_neg (Nat.not_lt.mpr hbody), List.drop_drop]
      exact ⟨rfl, plan', hplan'.trans hplan, rfl⟩
    · have hall : s.data.drop (headerSize + (s.data.drop headerSize).length) = [] := by
        rw [← List.drop_drop, List.drop_length]
      rw [if_neg hbody, if_pos (Nat.lt_of_not_le hbody), hall]
      cases s.dry <;> exact ⟨rfl, plan', hplan'.trans hplan, rfl⟩
  · -- the data ends before the length is complete, or before it has begun
    rw [if_neg hheader] at hfill
    rw [read, hfill]
    by_cases hnil : s.data = []
    · rw [hnil]
      cases s.dry <;> exact ⟨rfl, plan, hplan, rfl⟩
    · rw [parse_of_short_header hnil (Nat.lt_of_not_le hheader), List.drop_length]
      cases s.dry with
      | stalled => exact ⟨rfl, plan, hplan, rfl⟩
      | ended =>
        refine ⟨?_, plan, hplan, rfl⟩
        dsimp only [Dry.stop]
        rw [if_neg hnil]

/-- **Frames that come in are read in order.** The stream may break off at any place. What is decoded
is the first frames; if the stream does not break off, what is left is the others. -/
theorem decoded_frames {max : Nat} (hmax : max < UInt32.size) (k : Nat) {rs : List Received}
    (hsound : ∀ r ∈ rs, r.IsSound max) {data : Bytes} (hdata : data <+: Socket.frames rs) :
    ∃ rest, rs = decoded max k data ++ rest ∧
      (data = Socket.frames rs → left max k data = Socket.frames rest) := by
  induction k generalizing rs data with
  | zero => exact ⟨rs, rfl, fun h => h⟩
  | succ k ih =>
    obtain ⟨hdecoded, hleft⟩ := decoded_cons max k data
    rw [hdecoded, hleft]
    by_cases hnil : data = []
    · subst hnil
      exact ih hsound hdata
    obtain ⟨r, rest, rfl⟩ : ∃ r rest, rs = r :: rest := by
      refine List.exists_cons_of_ne_nil fun hrs => hnil ?_
      subst hrs
      exact List.prefix_nil.mp hdata
    obtain ⟨hfirst, hrest⟩ := List.forall_mem_cons.mp hsound
    have hle : r.envelope.size ≤ max := hfirst.size ▸ hfirst.le
    have hlt : r.envelope.size < UInt32.size := Nat.lt_of_le_of_lt hle hmax
    have hframes : Socket.frames (r :: rest) = ofEnvelope r.envelope ++ Socket.frames rest := rfl
    rw [hframes] at hdata ⊢
    by_cases hthere : ofEnvelope r.envelope <+: data
    · -- the next frame is there
      obtain ⟨more, rfl⟩ := hthere
      rw [parse_ofEnvelope hle hlt, outcome, if_pos hfirst.version, ← hfirst.size]
      dsimp only
      rw [List.drop_left' (by rw [length_ofEnvelope, hfirst.size])]
      obtain ⟨last, hlast, hall⟩ := ih hrest ((List.prefix_append_right_inj _).mp hdata)
      exact ⟨last, congrArg (r :: ·) hlast, fun h => hall (List.append_cancel_left h)⟩
    · -- the stream breaks off inside it, and nothing is left to read
      have hpart : data <+: ofEnvelope r.envelope :=
        (List.prefix_or_prefix_of_prefix hdata (List.prefix_append ..)).resolve_right hthere
      have hproper : data ≠ ofEnvelope r.envelope := fun h => hthere (h ▸ List.prefix_rfl)
      rw [parse_part hle hlt hpart hnil hproper]
      dsimp only
      rw [List.drop_length]
      obtain ⟨last, hlast, -⟩ := ih hsound List.nil_prefix
      exact ⟨last, hlast, fun h => absurd (h ▸ List.prefix_append ..) hthere⟩

end Frame

-- ---------------------------------------------------------------------------
-- The books of a connection
-- ---------------------------------------------------------------------------

namespace Connection

/-- What a connection has written to a stream and read from it, and that it has counted just the
whole frames among this. -/
structure Books (stream : StreamEnd) (conn : Connection) (parts : List Part) (k : Nat) :
    Prop where
  number : conn.socket.stream.number = stream.number
  written : conn.socket.stream.sink.written = stream.sink.written ++ Part.written parts
  /-- A frame was cut for each write that was planned to fail and did. -/
  cut : Part.cut parts + conn.socket.stream.sink.failures = stream.sink.failures
  flushes : conn.socket.stream.sink.Flushes
  sound : ∀ r ∈ Part.frames parts, r.IsSound conn.socket.maxFrameSize
  sent : conn.metrics.sent.totals.Tally (Part.frames parts)
  steady : conn.socket.stream.source.Steady
  /-- So many reads were made. -/
  left : conn.socket.stream.source.data =
    Frame.left conn.socket.maxFrameSize k stream.source.data
  received : conn.metrics.received.totals.Tally
    (Frame.decoded conn.socket.maxFrameSize k stream.source.data)

variable {stream : StreamEnd} {conn : Connection} {parts : List Part} {k : Nat}

/-- The books begin with an empty page. -/
theorem Books.fresh (id nodeId : String) (peerAddress : Address) (peerNode : Option String)
    (direction : Direction) (max : Nat) (hflushes : stream.sink.Flushes)
    (hsteady : stream.source.Steady) :
    Books stream (fresh id nodeId peerAddress peerNode direction (.onStream stream max)) [] 0 where
  number := rfl
  written := (List.append_nil _).symm
  cut := Nat.zero_add _
  flushes := hflushes
  sound := List.forall_mem_nil _
  sent := .zero
  steady := hsteady
  left := rfl
  received := .zero

/-- Nothing else about a connection matters. -/
theorem Books.congr (h : Books stream conn parts k) {conn' : Connection}
    (hstream : conn'.socket.stream = conn.socket.stream)
    (hmax : conn'.socket.maxFrameSize = conn.socket.maxFrameSize)
    (hsent : conn'.metrics.sent = conn.metrics.sent)
    (hreceived : conn'.metrics.received = conn.metrics.received) :
    Books stream conn' parts k where
  number := hstream ▸ h.number
  written := hstream ▸ h.written
  cut := hstream ▸ h.cut
  flushes := hstream ▸ h.flushes
  sound := hmax ▸ h.sound
  sent := hsent ▸ h.sent
  steady := hstream ▸ h.steady
  left := hstream ▸ hmax ▸ h.left
  received := hmax ▸ hreceived ▸ h.received

/-- What sending does to a connection: nothing once it is closed, and else it writes, and counts
what it could write. -/
theorem send_cases (t : Timing) (p : Payload) (conn : Connection) :
    (conn.send t p).2 = conn ∨
      let wrote := Frame.write (.ofPayload p) conn.socket.maxFrameSize conn.socket.stream.sink
      let conn' := { conn with socket := conn.socket.withSink wrote.2 }
      (∃ size, wrote.1 = .ok size ∧ (conn.send t p).2 = conn'.countSent size t) ∨
        ∃ e, wrote.1 = .error e ∧ (conn.send t p).2 = conn' := by
  unfold send
  split
  · exact .inl rfl
  unfold Socket.send
  by_cases hclosed : conn.socket.closed = true
  · rw [if_pos hclosed]
    exact .inl rfl
  rw [if_neg hclosed]
  dsimp only
  split
  · rename_i e socket heq
    obtain ⟨houtcome, rfl⟩ := Prod.mk.inj heq
    exact .inr (.inr ⟨e, houtcome, rfl⟩)
  · rename_i size socket heq
    obtain ⟨houtcome, rfl⟩ := Prod.mk.inj heq
    exact .inr (.inl ⟨size, houtcome, rfl⟩)

/-- What receiving does to a connection: nothing once its socket is closed, and else it reads, and
counts the frame that it could read. -/
theorem receive_cases (t : Timing) (conn : Connection) :
    (conn.receive t).2 = conn ∨
      let got := Frame.read conn.socket.maxFrameSize conn.socket.stream.source
      let conn' := { conn with socket := conn.socket.withSource got.2 }
      (∃ r, Frame.received? got.1 = some r ∧ (conn.receive t).2 = conn'.countReceived r.size t) ∨
        Frame.received? got.1 = none ∧ (conn.receive t).2 = conn' := by
  unfold receive Socket.receive
  by_cases hclosed : conn.socket.closed = true
  · rw [if_pos hclosed]
    exact .inl rfl
  rw [if_neg hclosed]
  dsimp only
  generalize Frame.read conn.socket.maxFrameSize conn.socket.stream.source = got
  obtain ⟨outcome, source⟩ := got
  match outcome with
  | .ok (some r) => exact .inr (.inl ⟨r, rfl, rfl⟩)
  | .ok none => exact .inr (.inr ⟨rfl, rfl⟩)
  | .error e => exact .inr (.inr ⟨rfl, rfl⟩)

/-- A connection stays on its stream. -/
theorem number_send (t : Timing) (p : Payload) (conn : Connection) :
    (conn.send t p).2.socket.stream.number = conn.socket.stream.number := by
  rcases send_cases t p conn with hsend | ⟨size, -, hsend⟩ | ⟨e, -, hsend⟩ <;> rw [hsend] <;> rfl

/-- `receive_next` reads from the stream that the connection has. -/
theorem number_receive (t : Timing) (conn : Connection) :
    (conn.receive t).2.socket.stream.number = conn.socket.stream.number := by
  rcases receive_cases t conn with hgot | ⟨r, -, hgot⟩ | ⟨-, hgot⟩ <;> rw [hgot] <;> rfl

/-- The books after something was written. -/
theorem Books.wrote (h : Books stream conn parts k) {conn' : Connection} {sink : Sink}
    {more : List Part} (hsocket : conn'.socket = conn.socket.withSink sink)
    (hreceived : conn'.metrics.received = conn.metrics.received)
    (hwritten : sink.written = conn.socket.stream.sink.written ++ Part.written more)
    (hcut : Part.cut more + sink.failures = conn.socket.stream.sink.failures)
    (hflushes : sink.Flushes)
    (hsound : ∀ r ∈ Part.frames more, r.IsSound conn.socket.maxFrameSize)
    (hsent : conn'.metrics.sent.totals.Tally (Part.frames parts ++ Part.frames more)) :
    Books stream conn' (parts ++ more) k where
  number := hsocket ▸ h.number
  written := by
    rw [hsocket, Part.written_append, ← List.append_assoc, ← h.written]
    exact hwritten
  cut := by
    rw [hsocket, Part.cut_append, Nat.add_assoc, ← h.cut, ← hcut]
    rfl
  flushes := hsocket ▸ hflushes
  sound := by
    rw [hsocket, Part.frames_append]
    exact List.forall_mem_append.mpr ⟨h.sound, hsound⟩
  sent := by rwa [Part.frames_append]
  steady := hsocket ▸ h.steady
  left := by
    rw [hsocket]
    exact h.left
  received := by
    rw [hsocket, hreceived]
    exact h.received

/-- **Sending** adds a part to what was written, at most, and counts it if it is whole. -/
theorem Books.send (h : Books stream conn parts k) (t : Timing) (p : Payload) :
    ∃ more, Books stream (conn.send t p).2 (parts ++ more) k := by
  rcases send_cases t p conn with hsame | hwrote
  · exact ⟨[], by rwa [hsame, List.append_nil]⟩
  obtain ⟨more, hwritten, hflushes, hcut, hend⟩ :=
    Frame.write_parts conn.socket.maxFrameSize (.ofPayload p) h.flushes
  refine ⟨more, ?_⟩
  rcases hwrote with ⟨size, hok, hsend⟩ | ⟨e, herror, hsend⟩
  · obtain ⟨hle, hsize, hmore⟩ := hend.resolve_right fun h => by
      obtain ⟨⟨err, herr⟩, -⟩ := h
      cases hok.symm.trans herr
    obtain rfl : size = (Envelope.ofPayload p).size := Except.ok.inj (hok.symm.trans hsize)
    rw [hsend]
    refine h.wrote rfl rfl hwritten hcut hflushes ?_ ?_
    · rw [hmore]
      exact List.forall_mem_singleton.mpr ⟨rfl, rfl, hle⟩
    · rw [hmore]
      exact h.sent.count ⟨.ofPayload p, _⟩ (t.spentUs / 1000)
  · obtain ⟨-, hmore⟩ := hend.resolve_left fun h => by cases herror.symm.trans h.2.1
    rw [hsend]
    refine h.wrote rfl rfl hwritten hcut hflushes ?_ ?_
    · rw [hmore]
      exact List.forall_mem_nil _
    · rw [hmore, List.append_nil]
      exact h.sent

/-- **Receiving** is one read more, and counts the frame that it yields. -/
theorem Books.receive (h : Books stream conn parts k) (t : Timing) :
    ∃ k', Books stream (conn.receive t).2 parts k' := by
  rcases receive_cases t conn with hsame | hgot
  · exact ⟨k, by rwa [hsame]⟩
  obtain ⟨hframe, plan, hplan, hsource⟩ := Frame.read_parse conn.socket.maxFrameSize h.steady
  obtain ⟨hdecoded, hleft⟩ := Frame.decoded_succ conn.socket.maxFrameSize k stream.source.data
  rw [h.left] at hframe hsource
  have hread {conn' : Connection} (hsocket : conn'.socket = conn.socket.withSource
        (Frame.read conn.socket.maxFrameSize conn.socket.stream.source).2)
      (hsent : conn'.metrics.sent = conn.metrics.sent)
      (hreceived : conn'.metrics.received.totals.Tally
        (Frame.decoded conn.socket.maxFrameSize k stream.source.data ++ (Frame.received?
          (Frame.read conn.socket.maxFrameSize conn.socket.stream.source).1).toList)) :
      Books stream conn' parts (k + 1) := {
    number := hsocket ▸ h.number
    written := hsocket ▸ h.written
    cut := hsocket ▸ h.cut
    flushes := hsocket ▸ h.flushes
    sound := hsocket ▸ h.sound
    sent := hsent ▸ h.sent
    steady := by
      rw [hsocket, hsource]
      exact h.steady.of_suffix _ _ hplan
    left := by
      rw [hsocket, hsource]
      exact hleft.symm
    received := by
      rw [hframe, ← hdecoded] at hreceived
      rw [hsocket]
      exact hreceived }
  refine ⟨k + 1, ?_⟩
  rcases hgot with ⟨r, hr, hconn⟩ | ⟨hnone, hconn⟩
  · rw [hconn]
    refine hread rfl rfl ?_
    rw [hr]
    exact h.received.count r (t.spentUs / 1000)
  · rw [hconn]
    refine hread rfl rfl ?_
    rw [hnone, Option.toList_none, List.append_nil]
    exact h.received

/-- A probe is sent like anything else. -/
theorem Books.ping (h : Books stream conn parts k) (t : Timing) (nonce : UInt64) :
    ∃ more, Books stream (conn.ping t nonce).2 (parts ++ more) k := by
  let probing := { conn with outstanding := nonce :: conn.outstanding.filter (· ≠ nonce) }
  have hprobing : Books stream probing parts k := h.congr rfl rfl rfl rfl
  obtain ⟨more, hsent⟩ := hprobing.send t (.ping ⟨nonce⟩)
  refine ⟨more, ?_⟩
  unfold Connection.ping
  dsimp only
  split
  all_goals
    rename_i heq
    rw [heq] at hsent
    exact hsent.congr rfl rfl rfl rfl

/-- A pong is not counted as a frame once more. -/
theorem Books.onPong (h : Books stream conn parts k) (t : Timing) (p : Pong) :
    Books stream (conn.onPong t p) parts k := by
  unfold Connection.onPong
  split
  · exact h.congr rfl rfl rfl rfl
  · exact h

/-- Closing a connection counts nothing. -/
theorem Books.markClosed (h : Books stream conn parts k) (reason : CloseReason) :
    Books stream (conn.markClosed reason).2 parts k := by
  unfold Connection.markClosed
  split
  · exact h
  · exact h.congr rfl rfl rfl rfl

-- ---------------------------------------------------------------------------
-- The books of both ends
-- ---------------------------------------------------------------------------

/-- After so many reads, what one end has read of what the other one has written, on a stream that
loses, alters and reorders nothing. -/
structure Agrees (stream : StreamEnd) (reader writer : Connection) (parts : List Part) (k : Nat) :
    Prop where
  /-- All that was written is whole frames. -/
  whole : writer.socket.stream.sink.written = Socket.frames (Part.frames parts)
  /-- The frames that were read are the first ones that were written, in order. -/
  inOrder : Frame.decoded reader.socket.maxFrameSize k stream.source.data <+: Part.frames parts
  /-- If all has come and was read, these are all frames. -/
  complete : stream.source.data = writer.socket.stream.sink.written →
    reader.socket.stream.source.data = [] →
    Frame.decoded reader.socket.maxFrameSize k stream.source.data = Part.frames parts
  /-- Where every frame that was written was read, the counters of both ends agree. -/
  counters : (Frame.decoded reader.socket.maxFrameSize k stream.source.data).length =
      (Part.frames parts).length →
    reader.metrics.received.totals.messages = writer.metrics.sent.totals.messages ∧
      reader.metrics.received.totals.bytes = writer.metrics.sent.totals.bytes

/-- No frames come of no envelopes only. -/
theorem frames_eq_nil {rs : List Received} (h : Socket.frames rs = []) : rs = [] := by
  cases rs with
  | nil => rfl
  | cons r rest => exact absurd (List.append_eq_nil_iff.mp h).1 (Frame.ofEnvelope_ne_nil _)

/-- **The books of both ends agree**, in the direction in which one reads what the other writes. -/
theorem Books.agree {peer : StreamEnd} {writer reader : Connection} {parts parts' : List Part}
    {k k' : Nat} (hreader : Books stream reader parts' k) (hwriter : Books peer writer parts k')
    (hmax : reader.socket.maxFrameSize = writer.socket.maxFrameSize)
    (hlt : writer.socket.maxFrameSize < UInt32.size) (hfresh : peer.sink.written = [])
    (hbrings : stream.source.data <+: writer.socket.stream.sink.written)
    (hwrites : peer.sink.Steady) : Agrees stream reader writer parts k := by
  have hwhole : ∀ p ∈ parts, p.IsWhole := by
    refine Part.whole_of_cut ?_
    have hcut := hwriter.cut
    rw [hwrites.failures] at hcut
    exact Nat.eq_zero_of_add_eq_zero_right hcut
  have hwritten : writer.socket.stream.sink.written = Socket.frames (Part.frames parts) := by
    rw [hwriter.written, hfresh, List.nil_append, Part.written_of_whole hwhole]
  rw [hwritten] at hbrings
  obtain ⟨rest, hrest, hall⟩ :=
    Frame.decoded_frames (hmax ▸ hlt) k (hmax ▸ hwriter.sound) hbrings
  have horder : Frame.decoded reader.socket.maxFrameSize k stream.source.data <+:
      Part.frames parts := ⟨rest, hrest.symm⟩
  refine ⟨hwritten, horder, fun hcame hnothing => ?_, fun hlength => ?_⟩
  · rw [hreader.left, hall (hcame.trans hwritten)] at hnothing
    rw [frames_eq_nil hnothing, List.append_nil] at hrest
    exact hrest.symm
  · have hsame := horder.eq_of_length hlength
    rw [hreader.received.messages, hreader.received.bytes, hwriter.sent.messages,
      hwriter.sent.bytes, hsame]
    exact ⟨rfl, rfl⟩

end Connection

end Courier
