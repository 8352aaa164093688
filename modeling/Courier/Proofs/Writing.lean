import Courier.Proofs.Splitting
import Mathlib.Control.Monad.Basic

/-!
# Courier — frames that could not be written

However a sink behaves, what it has taken when a write fails is the frames that were written before
and a part of the frame that failed. Reading it back yields the envelopes of those frames, and then
the end of the stream, a stream that ends inside a frame, or, when nothing but the flush failed, the
last envelope too.

* `Sink.writeAll_written` — what a sink has taken when writing ends;
* `Sink.Steady`, `Frame.write_steady` — a sink to which no write fails;
* `Frame.write_end`, `Frame.writeEach_of_ok` — one frame, and one after the other;
* `Frame.readTimes_part` — reading frames and a part of one;
* `Frame.failed_write_keeps_frames` — all of it.
-/

namespace Courier

-- ---------------------------------------------------------------------------
-- Sinks
-- ---------------------------------------------------------------------------

/-- The write takes something, or is to be repeated. -/
def WriteStep.IsSteady : WriteStep → Prop
  | .atMost n => n ≠ 0
  | .fails f => f.kind = .interrupted

instance : DecidablePred WriteStep.IsSteady
  | .atMost n => inferInstanceAs (Decidable (n ≠ 0))
  | .fails f => inferInstanceAs (Decidable (f.kind = .interrupted))

namespace Sink

/-- What one write takes is a part of the bytes, from the front. -/
theorem written_of_write_ok {bs : Bytes} {s s' : Sink} {k : Nat} (h : s.write bs = (.ok k, s')) :
    k ≤ bs.length ∧ s'.written = s.written ++ bs.take k := by
  unfold write at h
  split at h
  · cases h
  · cases h
    exact ⟨Nat.min_le_right _ _, rfl⟩
  · cases h
    exact ⟨Nat.le_refl _, by rw [List.take_length]⟩

/-- A write that fails takes nothing. -/
theorem written_of_write_error {bs : Bytes} {s s' : Sink} {f : IoFailure}
    (h : s.write bs = (.error f, s')) : s'.written = s.written := by
  unfold write at h
  split at h
  · cases h
    rfl
  · cases h
  · cases h

theorem written_of_flush (s : Sink) : s.flush.2.written = s.written := by
  unfold flush
  split <;> rfl

/-- When writing ends, the sink has taken a part of the bytes, from the front: all of them just when
writing has succeeded. -/
theorem writeAll_written (bs : Bytes) (s : Sink) :
    ∃ part, part <+: bs ∧ (s.writeAll bs).2.written = s.written ++ part ∧
      ((s.writeAll bs).1 = .ok () ↔ part = bs) := by
  fun_induction writeAll bs s with
  | case1 s => exact ⟨[], List.prefix_rfl, (List.append_nil _).symm, iff_of_true rfl rfl⟩
  | case2 bs s hne s' h =>
    -- a write takes nothing
    obtain ⟨-, hwritten⟩ := written_of_write_ok h
    refine ⟨[], List.nil_prefix, by rw [hwritten, List.take_zero], ?_⟩
    exact iff_of_false (fun h => nomatch h) (fun h => hne h.symm)
  | case3 bs s hne k s' h ih =>
    -- a write takes some bytes, and the others are tried next
    obtain ⟨hk, hwritten⟩ := written_of_write_ok h
    obtain ⟨part, ⟨rest, hrest⟩, hmore, hok⟩ := ih
    have hbs : bs.take (k + 1) ++ bs.drop (k + 1) = bs := List.take_append_drop (k + 1) bs
    refine ⟨bs.take (k + 1) ++ part, ⟨rest, ?_⟩, ?_, hok.trans ⟨?_, ?_⟩⟩
    · rw [List.append_assoc, hrest, hbs]
    · rw [hmore, hwritten, List.append_assoc]
    · intro hall
      rw [hall, hbs]
    · intro hall
      exact List.append_cancel_left (hall.trans hbs.symm)
  | case4 bs s hne f s' h hf ih =>
    -- an interrupted write is tried again
    obtain ⟨part, hpart, hmore, hok⟩ := ih
    exact ⟨part, hpart, by rw [hmore, written_of_write_error h], hok⟩
  | case5 bs s hne f s' h hf =>
    refine ⟨[], List.nil_prefix, by rw [written_of_write_error h, List.append_nil], ?_⟩
    exact iff_of_false (fun h => nomatch h) (fun h => hne h.symm)

/-- Only short writes and interruptions are planned, and no flush fails. -/
structure Steady (s : Sink) : Prop where
  plan : ∀ step ∈ s.plan, step.IsSteady
  flushes : ∀ f ∈ s.flushes, f = none

theorem steady_write (bs : Bytes) {s : Sink} (h : s.Steady) : (s.write bs).2.Steady := by
  unfold write
  split
  next hp => exact ⟨fun step hstep => h.plan step (hp ▸ List.mem_cons_of_mem _ hstep), h.flushes⟩
  next hp => exact ⟨fun step hstep => h.plan step (hp ▸ List.mem_cons_of_mem _ hstep), h.flushes⟩
  next hp => exact ⟨fun step hstep => h.plan step (hp ▸ hstep), h.flushes⟩

/-- A steady write takes nothing only when it is to be repeated, or there is nothing to write. -/
theorem write_of_steady {bs : Bytes} {s : Sink} (h : s.Steady) (hbs : bs ≠ []) :
    (∃ k, (s.write bs).1 = .ok (k + 1)) ∨ ∃ f, (s.write bs).1 = .error f ∧ f.kind = .interrupted := by
  have hpos : 0 < bs.length := List.length_pos_iff.2 hbs
  unfold write
  split
  next f plan hp => exact .inr ⟨f, rfl, h.plan (.fails f) (hp ▸ List.mem_cons_self)⟩
  next n plan hp =>
    have hn : n ≠ 0 := h.plan (.atMost n) (hp ▸ List.mem_cons_self)
    refine .inl ⟨min n bs.length - 1, congrArg Except.ok ?_⟩
    omega
  next hp => exact .inl ⟨bs.length - 1, congrArg Except.ok (by omega)⟩

/-- A steady sink takes all bytes, and stays steady. -/
theorem writeAll_steady (bs : Bytes) {s : Sink} (h : s.Steady) :
    (s.writeAll bs).1 = .ok () ∧ (s.writeAll bs).2.Steady := by
  fun_induction writeAll bs s with
  | case1 s => exact ⟨rfl, h⟩
  | case2 bs s hne s' hw =>
    rcases write_of_steady h hne with ⟨k, hk⟩ | ⟨f, hf, -⟩
    · rw [hw] at hk
      cases hk
    · rw [hw] at hf
      cases hf
  | case3 bs s hne k s' hw ih =>
    have hs := steady_write bs h
    rw [hw] at hs
    exact ih hs
  | case4 bs s hne f s' hw hf ih =>
    have hs := steady_write bs h
    rw [hw] at hs
    exact ih hs
  | case5 bs s hne f s' hw hf =>
    rcases write_of_steady h hne with ⟨k, hk⟩ | ⟨f', hf', hi⟩
    · rw [hw] at hk
      cases hk
    · rw [hw] at hf'
      cases hf'
      exact absurd hi hf

theorem flush_steady {s : Sink} (h : s.Steady) : s.flush.1 = .ok () ∧ s.flush.2.Steady := by
  unfold flush
  split
  next f flushes hf => exact nomatch h.flushes (some f) (hf ▸ List.mem_cons_self)
  next flushes hf =>
    exact ⟨rfl, h.plan, fun f hmem => h.flushes f (hf ▸ List.mem_cons_of_mem _ hmem)⟩
  next => exact ⟨rfl, h⟩

end Sink

-- ---------------------------------------------------------------------------
-- One frame
-- ---------------------------------------------------------------------------

namespace Frame

theorem encode_eq_error {e : Envelope} {max : Nat} (h : max < e.size) :
    encode e max = .error (.messageTooLarge e.size max) := by
  rw [encode]
  exact if_pos h

theorem ofEnvelope_ne_nil (e : Envelope) : ofEnvelope e ≠ [] := by
  intro hnil
  have hlength := length_ofEnvelope e
  rw [hnil, List.length_nil, headerSize] at hlength
  omega

/-- How writing a frame may end, and what the sink has taken then. -/
inductive WriteEnd (max : Nat) (e : Envelope) (s : Sink) :
    Except NetworkError Nat → Sink → Prop where
  /-- It is not begun. -/
  | tooLarge (hmax : max < e.size) : WriteEnd max e s (.error (.messageTooLarge e.size max)) s
  /-- It ends before all of the frame is written. -/
  | cut (hmax : e.size ≤ max) (f : IoFailure) (s' : Sink) (part : Bytes)
      (hwrite : s.writeAll (ofEnvelope e) = (.error f, s')) (hpart : part <+: ofEnvelope e)
      (hne : part ≠ ofEnvelope e) (hwritten : s'.written = s.written ++ part) :
      WriteEnd max e s (.error (.ofIo f)) s'
  /-- Nothing but the flush fails. -/
  | unflushed (hmax : e.size ≤ max) (f : IoFailure) (t s' : Sink)
      (hwrite : s.writeAll (ofEnvelope e) = (.ok (), t)) (hflush : t.flush = (.error f, s'))
      (hwritten : s'.written = s.written ++ ofEnvelope e) : WriteEnd max e s (.error (.ofIo f)) s'
  | done (hmax : e.size ≤ max) (s' : Sink) (hwritten : s'.written = s.written ++ ofEnvelope e) :
      WriteEnd max e s (.ok e.size) s'

theorem write_end (max : Nat) (e : Envelope) (s : Sink) :
    WriteEnd max e s (write e max s).1 (write e max s).2 := by
  rcases Nat.lt_or_ge max e.size with hmax | hmax
  · rw [write, encode_eq_error hmax]
    exact .tooLarge hmax
  rw [write, encode_eq_ok hmax]
  dsimp only
  obtain ⟨part, hpart, hwritten, hok⟩ := s.writeAll_written (ofEnvelope e)
  cases hwrite : s.writeAll (ofEnvelope e) with
  | mk outcome t =>
    rw [hwrite] at hwritten hok
    cases outcome with
    | error f =>
      have hne : part ≠ ofEnvelope e := fun heq => nomatch hok.mpr heq
      exact .cut hmax f t part hwrite hpart hne hwritten
    | ok u =>
      -- the whole frame was taken, and the flush adds nothing
      have hfull : t.flush.2.written = s.written ++ ofEnvelope e := by
        rw [t.written_of_flush, ← hok.mp rfl]
        exact hwritten
      dsimp only
      cases hflush : t.flush with
      | mk last s' =>
        rw [hflush] at hfull
        cases last with
        | error f => exact .unflushed hmax f t s' hwrite hflush hfull
        | ok u' =>
          dsimp only
          rw [length_ofEnvelope, Nat.add_sub_cancel_left]
          exact .done hmax s' hfull

/-- A sink keeps what was written to it. -/
theorem written_write (max : Nat) (e : Envelope) (s : Sink) :
    s.written <+: (write e max s).2.written := by
  have hend := write_end max e s
  generalize (write e max s).1 = outcome, (write e max s).2 = s' at hend
  cases hend with
  | tooLarge hmax => exact List.prefix_rfl
  | cut hmax f s' part hwrite hpart hne hwritten => exact ⟨part, hwritten.symm⟩
  | unflushed hmax f t s' hwrite hflush hwritten => exact ⟨_, hwritten.symm⟩
  | done hmax s' hwritten => exact ⟨_, hwritten.symm⟩

/-- A write that succeeds adds the frame, and nothing else. -/
theorem written_write_ok {max size : Nat} {e : Envelope} {s : Sink}
    (h : (write e max s).1 = .ok size) :
    (write e max s).2.written = s.written ++ ofEnvelope e := by
  have hend := write_end max e s
  rw [h] at hend
  cases hend with
  | done hmax s' hwritten => exact hwritten

/-- The frame of an envelope that is small enough is written to a steady sink. -/
theorem write_steady {max : Nat} {e : Envelope} (hmax : e.size ≤ max) {s : Sink}
    (h : s.Steady) :
    (write e max s).1 = .ok e.size ∧ (write e max s).2.written = s.written ++ ofEnvelope e ∧
      (write e max s).2.Steady := by
  obtain ⟨hall, hs⟩ := s.writeAll_steady (ofEnvelope e) h
  obtain ⟨hflush, hs'⟩ := Sink.flush_steady hs
  have hwrite : write e max s = (.ok e.size, (s.writeAll (ofEnvelope e)).2.flush.2) := by
    rw [write, encode_eq_ok hmax]
    dsimp only
    generalize s.writeAll (ofEnvelope e) = w at hall hflush
    obtain ⟨outcome, t⟩ := w
    cases hall
    dsimp only at hflush ⊢
    generalize t.flush = f at hflush
    obtain ⟨last, t'⟩ := f
    cases hflush
    dsimp only
    rw [length_ofEnvelope, Nat.add_sub_cancel_left]
  have hok : (write e max s).1 = .ok e.size := by rw [hwrite]
  exact ⟨hok, written_write_ok hok, by rw [hwrite]; exact hs'⟩

-- ---------------------------------------------------------------------------
-- One frame after the other
-- ---------------------------------------------------------------------------

/-- Writes the frames of envelopes, going on after errors. -/
def writeEach (max : Nat) : List Envelope → Sink → List (Except NetworkError Nat) × Sink
  | [], s => ([], s)
  | e :: es, s =>
    let (outcome, s) := write e max s
    let (outcomes, s) := writeEach max es s
    (outcome :: outcomes, s)

/-- As long as every write succeeds, the sink has taken the frames, and each write has told the size
of its body. -/
theorem writeEach_of_ok {max : Nat} {es : List Envelope} {s : Sink}
    (h : ∀ outcome ∈ (writeEach max es s).1, ∃ n, outcome = .ok n) :
    (∀ e ∈ es, e.size ≤ max) ∧ (writeEach max es s).1 = es.map (fun e => .ok e.size) ∧
      (writeEach max es s).2.written = s.written ++ (es.map ofEnvelope).flatten := by
  induction es generalizing s with
  | nil => exact ⟨List.forall_mem_nil _, rfl, (List.append_nil _).symm⟩
  | cons e es ih =>
    rw [writeEach] at h ⊢
    have hend := write_end max e s
    cases hwrite : write e max s with
    | mk outcome s' =>
      rw [hwrite] at h hend
      obtain ⟨hmax, houtcomes, hwritten⟩ := ih fun o ho => h o (List.mem_cons_of_mem _ ho)
      obtain ⟨n, hn⟩ := h outcome (List.mem_cons_self ..)
      dsimp only at hn hend ⊢
      subst hn
      -- of the ways in which a write may end, one is a success
      cases hend with
      | done hfirst s' hfirstWritten =>
        refine ⟨List.forall_mem_cons.mpr ⟨hfirst, hmax⟩, ?_, ?_⟩
        · rw [houtcomes]
          rfl
        · rw [hwritten, hfirstWritten, List.append_assoc]
          rfl

-- ---------------------------------------------------------------------------
-- Reading it back
-- ---------------------------------------------------------------------------

/-- What is read from a part of a frame: nothing, the envelope, or a stream that ends too early. -/
def partOutcome (e : Envelope) (part : Bytes) : Except NetworkError (Option Received) :=
  if part = [] then .ok none
  else if part = ofEnvelope e then .ok (some ⟨e, e.size⟩)
  else .error .connectionClosed

/-- A part of a frame that is neither nothing nor all of it ends too early. -/
theorem parse_part {max : Nat} {e : Envelope} {part : Bytes} (hmax : e.size ≤ max)
    (hsize : e.size < UInt32.size) (hpart : part <+: ofEnvelope e) (hne : part ≠ [])
    (hproper : part ≠ ofEnvelope e) :
    parse max part = (.error .connectionClosed, part.length) := by
  have hshort : part.length < headerSize + e.size := by
    have hle := hpart.length_le
    rw [length_ofEnvelope] at hle
    refine Nat.lt_of_le_of_ne hle fun heq => hproper ?_
    exact hpart.eq_of_length (heq.trans (length_ofEnvelope e).symm)
  rcases Nat.lt_or_ge part.length headerSize with hheader | hheader
  · rw [parse_of_short_header hne hheader]
  · -- the header is whole, so that it is the body that ends too early
    have hlength : (Bytes.bigEndian headerSize e.size).length = headerSize :=
      Bytes.length_bigEndian _ _
    have hsplit : part = Bytes.bigEndian headerSize e.size ++
        e.toBytes.take (part.length - headerSize) := by
      have htake := List.prefix_iff_eq_take.mp hpart
      rwa [ofEnvelope, List.take_append, hlength, List.take_of_length_le (by omega)] at htake
    have hbody : (e.toBytes.take (part.length - headerSize)).length < e.size := by
      rw [List.length_take]
      omega
    rw [hsplit, parse_append hlength, ofBigEndian_size hsize, if_neg (by omega), if_pos hbody,
      List.length_append, hlength]

/-- Behind whole frames and a part of one, reading yields the envelopes, and then what the part is
worth. -/
theorem readTimes_part {max : Nat} {es : List Envelope} {e : Envelope} {part : Bytes}
    (hmax : ∀ e' ∈ es, e'.size ≤ max) (hsize : ∀ e' ∈ e :: es, e'.size < UInt32.size)
    (hversion : ∀ e' ∈ e :: es, e'.version = protocolVersion) (hpart : part <+: ofEnvelope e)
    (hpartMax : part ≠ [] → e.size ≤ max) {s : Source} (hs : s.Steady) (hdry : s.dry = .ended)
    (hdata : s.data = (es.map ofEnvelope).flatten ++ part) :
    (readTimes max (es.length + 1) s).1 =
      es.map (fun e' => .ok (some ⟨e', e'.size⟩)) ++ [partOutcome e part] := by
  obtain ⟨hsizeLast, hsizes⟩ := List.forall_mem_cons.mp hsize
  obtain ⟨hversionLast, hversions⟩ := List.forall_mem_cons.mp hversion
  obtain ⟨plan, hplan, hframes⟩ := readTimes_append hmax hsizes hs hdata (Nat.le_refl es.length)
  rw [List.take_length, List.drop_of_length_le (Nat.le_of_eq (List.length_map _)),
    List.flatten_nil, List.nil_append, hdry, map_outcome_of_version hversions] at hframes
  have hs' : (⟨part, plan, .ended⟩ : Source).Steady := hs.of_suffix part .ended hplan
  -- one more read, of the part alone
  have hlast : (read max ⟨part, plan, .ended⟩).1 = partOutcome e part := by
    rw [partOutcome]
    split_ifs with hnil hwhole
    · subst hnil
      obtain ⟨plan', -, hread⟩ := read_ended max hs' rfl rfl
      rw [hread]
    · subst hwhole
      obtain ⟨plan', -, hread⟩ := read_append (hpartMax hnil) hsizeLast hs'
        (List.append_nil _).symm
      rw [hread, outcome, if_pos hversionLast]
    · obtain ⟨plan', -, hread⟩ := read_steady max hs' rfl
      rw [hread]
      exact congrArg Prod.fst (parse_part (hpartMax hnil) hsizeLast hpart hnil hwhole)
  rw [readTimes_add, hframes]
  dsimp only
  rw [← hlast]
  rfl

/-- **A failed write leaves whole what was written before.** Where the frames of some envelopes are
written and that of the next one fails, however the sink behaves: every success has told the size of
its body; a frame that is too large is not begun; and what the sink has taken is the whole frames
and a part of the failed one, which is all of it just when nothing but the flush failed. Read back,
this is the envelopes in order, and then the end of the stream, a stream that ends too early, or the
envelope that was not flushed. -/
theorem failed_write_keeps_frames {max : Nat} {es : List Envelope} {e : Envelope} {s s' : Sink}
    {err : NetworkError} (hversion : ∀ e' ∈ e :: es, e'.version = protocolVersion)
    (hsize : ∀ e' ∈ e :: es, e'.size < UInt32.size)
    (hok : ∀ outcome ∈ (writeEach max es s).1, ∃ n, outcome = .ok n)
    (herror : write e max (writeEach max es s).2 = (.error err, s')) :
    (writeEach max es s).1 = es.map (fun e' => .ok e'.size) ∧
      (max < e.size → err = .messageTooLarge e.size max ∧ s' = (writeEach max es s).2) ∧
      ∃ part, part <+: ofEnvelope e ∧
        s'.written = s.written ++ (es.map ofEnvelope).flatten ++ part ∧
        (part = ofEnvelope e ↔ e.size ≤ max ∧ ∃ f t,
          (writeEach max es s).2.writeAll (ofEnvelope e) = (.ok (), t) ∧
            t.flush = (.error f, s') ∧ err = .ofIo f) ∧
        ∀ source : Source, source.Steady → source.dry = .ended →
          source.data = (es.map ofEnvelope).flatten ++ part →
          (readTimes max (es.length + 1) source).1 =
            es.map (fun e' => .ok (some ⟨e', e'.size⟩)) ++ [partOutcome e part] := by
  obtain ⟨hmax, houtcomes, hwritten⟩ := writeEach_of_ok hok
  have hend := write_end max e (writeEach max es s).2
  rw [herror] at hend
  refine ⟨houtcomes, ?_⟩
  have hread : ∀ part, part <+: ofEnvelope e → (part ≠ [] → e.size ≤ max) → ∀ source : Source,
      source.Steady → source.dry = .ended → source.data = (es.map ofEnvelope).flatten ++ part →
      (readTimes max (es.length + 1) source).1 =
        es.map (fun e' => .ok (some ⟨e', e'.size⟩)) ++ [partOutcome e part] :=
    fun part hpart hpartMax source hs hdry hdata =>
      readTimes_part hmax hsize hversion hpart hpartMax hs hdry hdata
  cases hend with
  | tooLarge hlarge =>
    refine ⟨fun _ => ⟨rfl, rfl⟩, [], List.nil_prefix, ?_, ?_, hread [] List.nil_prefix ?_⟩
    · rw [hwritten, List.append_nil]
    · exact iff_of_false (ofEnvelope_ne_nil e).symm fun h => absurd h.1 (Nat.not_le.mpr hlarge)
    · exact fun h => absurd rfl h
  | cut hle f s' part hwrite hpart hne hpartWritten =>
    refine ⟨fun hlarge => absurd hle (Nat.not_le.mpr hlarge), part, hpart, ?_, ?_,
      hread part hpart fun _ => hle⟩
    · rw [hpartWritten, hwritten]
    · refine iff_of_false hne ?_
      rintro ⟨-, f', t, hall, -⟩
      rw [hwrite] at hall
      cases hall
  | unflushed hle f t s' hwrite hflush hfull =>
    refine ⟨fun hlarge => absurd hle (Nat.not_le.mpr hlarge), ofEnvelope e, List.prefix_rfl, ?_, ?_,
      hread (ofEnvelope e) List.prefix_rfl fun _ => hle⟩
    · rw [hfull, hwritten]
    · exact iff_of_true rfl ⟨hle, f, t, hwrite, hflush, rfl⟩

/-- The second of two frames is cut by a connection that breaks, after short and interrupted
writes. -/
theorem failed_write_keeps_frames_sample :
    let es : List Envelope := [⟨1, .ping ⟨7⟩⟩]
    let e : Envelope := ⟨1, .pong ⟨9⟩⟩
    let s : Sink := ⟨[], [.atMost 5, .fails (.ofKind .interrupted), .atMost 12, .atMost 6,
      .fails (.ofKind .brokenPipe)], []⟩
    let s' : Sink := ⟨ofEnvelope ⟨1, .ping ⟨7⟩⟩ ++ [0, 0, 0, 13, 1, 2], [], []⟩
    (∀ e' ∈ e :: es, e'.version = protocolVersion) ∧ (∀ e' ∈ e :: es, e'.size < UInt32.size) ∧
      (∀ outcome ∈ (writeEach 64 es s).1, ∃ n, outcome = .ok n) ∧
      write e 64 (writeEach 64 es s).2 = (.error .connectionClosed, s') ∧
      (writeEach 64 es s).1 = [.ok 13] ∧
      (readTimes 64 2 (.ofBytes s'.written)).1 =
        [.ok (some ⟨⟨1, .ping ⟨7⟩⟩, 13⟩), .error .connectionClosed] := by
  intro es e s s'
  have hversion : ∀ e' ∈ e :: es, e'.version = protocolVersion := by decide
  have hsize : ∀ e' ∈ e :: es, e'.size < UInt32.size := by decide +kernel
  have hfirst : (writeEach 64 es s).1 = [.ok 13] := by decide +kernel
  have hok : ∀ outcome ∈ (writeEach 64 es s).1, ∃ n, outcome = .ok n := by
    rw [hfirst]
    intro outcome houtcome
    exact ⟨13, List.mem_singleton.mp houtcome⟩
  have herror : write e 64 (writeEach 64 es s).2 = (.error .connectionClosed, s') := by
    decide +kernel
  obtain ⟨-, -, part, -, hwritten, -, hread⟩ :=
    failed_write_keeps_frames hversion hsize hok herror
  refine ⟨hversion, hsize, hok, herror, hfirst, ?_⟩
  have hpart : part = [0, 0, 0, 13, 1, 2] := (List.append_cancel_left hwritten).symm
  subst hpart
  exact (hread (.ofBytes s'.written) (Source.steady_ofBytes _) rfl rfl).trans (by decide +kernel)

end Frame
end Courier
