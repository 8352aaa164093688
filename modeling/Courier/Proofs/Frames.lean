import Courier.Envelope.Frame
import Courier.Proofs.Envelopes
import Courier.Proofs.Streams

/-!
# Courier — frames, one after the other

A stream that begins with the frames of some envelopes is read frame by frame: each read takes the
bytes of one frame, no more and no less, and yields its envelope. An envelope of another version is
refused, and still its frame alone is taken, so that reading goes on behind it.

* `Frame.read_append` — one frame at the front of a steady stream;
* `Frame.readTimes_append` — any number of them;
* `Frame.readTimes_encoded_frames` — the frames that `Frame.encode` yields;
* `Frame.header_tells_size` — which of them tell their size.
-/

namespace Courier.Frame

/-- The frame of an envelope that is small enough. -/
def ofEnvelope (e : Envelope) : Bytes := Bytes.bigEndian headerSize e.size ++ e.toBytes

/-- What reading the frame of an envelope yields. -/
def outcome (e : Envelope) : Except NetworkError (Option Received) :=
  if e.version = protocolVersion then .ok (some ⟨e, e.size⟩)
  else .error (.invalidMessage (Envelope.Fault.version e.version).message)

/-- A frame is the header and the body. -/
theorem length_ofEnvelope (e : Envelope) : (ofEnvelope e).length = headerSize + e.size := by
  rw [ofEnvelope, List.length_append, Bytes.length_bigEndian]
  rfl

/-- A frame begins with the length of its body. -/
theorem take_ofEnvelope (e : Envelope) (rest : Bytes) :
    (ofEnvelope e ++ rest).take headerSize = Bytes.bigEndian headerSize e.size := by
  rw [ofEnvelope, List.append_assoc]
  exact List.take_left' (Bytes.length_bigEndian _ _)

/-- The header of a frame tells the size of its body. -/
theorem ofBigEndian_size {e : Envelope} (h : e.size < UInt32.size) :
    Bytes.ofBigEndian (Bytes.bigEndian headerSize e.size) = e.size := by
  rw [Bytes.ofBigEndian_bigEndian, Nat.mod_eq_of_lt]
  exact h

/-- `encode_frame` makes a frame of what is small enough. -/
theorem encode_eq_ok {e : Envelope} {max : Nat} (h : e.size ≤ max) :
    encode e max = .ok (ofEnvelope e) := by
  have hle : ¬ max < e.toBytes.length := Nat.not_lt.mpr h
  rw [encode, if_neg hle]
  rfl

/-- A frame is only made of an envelope that is small enough. -/
theorem eq_ofEnvelope_of_encode {e : Envelope} {max : Nat} {frame : Bytes}
    (h : encode e max = .ok frame) : e.size ≤ max ∧ frame = ofEnvelope e := by
  rw [encode] at h
  split_ifs at h with hlarge
  cases h
  exact ⟨Nat.le_of_not_lt hlarge, rfl⟩

/-- A body is read as its envelope, or refused for its version. -/
theorem ofBody_toBytes {e : Envelope} (h : e.Fits) : ofBody e.toBytes = outcome e := by
  have hread := Envelope.ofBytes_append h []
  rw [List.append_nil] at hread
  rw [ofBody, hread, outcome]
  split_ifs <;> rfl

/-! ## One frame -/

/-- `read` takes as many bytes as the header of a frame holds, which are the body if the header tells
its size. -/
theorem read_ofEnvelope {max : Nat} {e : Envelope} (hmax : e.size % UInt32.size ≤ max) {s : Source}
    (hs : s.Steady) {rest : Bytes} (hdata : s.data = ofEnvelope e ++ rest) :
    ∃ plan, plan <:+ s.plan ∧ read max s =
      (ofBody ((e.toBytes ++ rest).take (e.size % UInt32.size)),
        ⟨(e.toBytes ++ rest).drop (e.size % UInt32.size), plan, s.dry⟩) := by
  have hheader : (Bytes.bigEndian headerSize e.size).length = headerSize :=
    Bytes.length_bigEndian _ _
  have hheld : Bytes.ofBigEndian (Bytes.bigEndian headerSize e.size) = e.size % UInt32.size :=
    Bytes.ofBigEndian_bigEndian _ _
  rw [ofEnvelope, List.append_assoc] at hdata
  -- the header
  obtain ⟨plan, hplan, hfill⟩ := Source.fill_steady headerSize hs
  rw [if_pos (by rw [hdata, List.length_append, hheader]; omega), hdata,
    List.take_left' hheader, List.drop_left' hheader] at hfill
  -- the body
  have hs' := hs.of_suffix (e.toBytes ++ rest) s.dry hplan
  obtain ⟨plan', hplan', hfill'⟩ := Source.fill_steady (e.size % UInt32.size) hs'
  have hbody : e.size % UInt32.size ≤ (e.toBytes ++ rest).length := by
    rw [List.length_append]
    exact Nat.le_add_right_of_le (Nat.mod_le _ _)
  dsimp only at hfill' hplan'
  rw [if_pos hbody] at hfill'
  refine ⟨plan', hplan'.trans hplan, ?_⟩
  rw [read, hfill]
  dsimp only
  rw [hheld, if_neg (Nat.not_lt.mpr hmax), hfill']

/-- A frame at the front of a steady stream is read whole, and what follows is left. -/
theorem read_append {max : Nat} {e : Envelope} (hmax : e.size ≤ max) (hsize : e.size < UInt32.size)
    {s : Source} (hs : s.Steady) {rest : Bytes} (hdata : s.data = ofEnvelope e ++ rest) :
    ∃ plan, plan <:+ s.plan ∧ read max s = (outcome e, ⟨rest, plan, s.dry⟩) := by
  have hfits : e.Fits := Envelope.fits_of_size_lt (by
    have : UInt32.size ≤ UInt64.size := by decide
    omega)
  have hheld : e.size % UInt32.size = e.size := Nat.mod_eq_of_lt hsize
  have hbody : e.toBytes.length = e.size := rfl
  obtain ⟨plan, hplan, hread⟩ := read_ofEnvelope (Nat.le_trans (Nat.le_of_eq hheld) hmax) hs hdata
  rw [hheld, List.take_left' hbody, List.drop_left' hbody, ofBody_toBytes hfits] at hread
  exact ⟨plan, hplan, hread⟩

/-- A steady stream without data is at its end. -/
theorem read_ended (max : Nat) {s : Source} (hs : s.Steady) (hdata : s.data = [])
    (hdry : s.dry = .ended) :
    ∃ plan, plan <:+ s.plan ∧ read max s = (.ok none, ⟨[], plan, .ended⟩) := by
  obtain ⟨plan, hplan, hfill⟩ := Source.fill_steady headerSize hs
  rw [hdata, hdry, if_neg (by decide)] at hfill
  refine ⟨plan, hplan, ?_⟩
  rw [read, hfill]
  rfl

/-! ## One frame after the other -/

/-- Reading goes on where it was left. -/
theorem readTimes_add (max j k : Nat) (s : Source) :
    readTimes max (j + k) s =
      ((readTimes max j s).1 ++ (readTimes max k (readTimes max j s).2).1,
        (readTimes max k (readTimes max j s).2).2) := by
  induction j generalizing s with
  | zero => rw [Nat.zero_add]; rfl
  | succ j ih =>
    rw [Nat.add_right_comm, readTimes]
    dsimp only
    rw [ih]
    rfl

/-- The frames at the front of a steady stream are read one by one, whatever their versions. -/
theorem readTimes_append {max : Nat} {es : List Envelope} (hmax : ∀ e ∈ es, e.size ≤ max)
    (hsize : ∀ e ∈ es, e.size < UInt32.size) {tail : Bytes} {s : Source} (hs : s.Steady)
    (hdata : s.data = (es.map ofEnvelope).flatten ++ tail) {k : Nat} (hk : k ≤ es.length) :
    ∃ plan, plan <:+ s.plan ∧ readTimes max k s =
      ((es.take k).map outcome, ⟨((es.map ofEnvelope).drop k).flatten ++ tail, plan, s.dry⟩) := by
  induction es generalizing s k with
  | nil =>
    obtain rfl : k = 0 := Nat.le_zero.mp hk
    refine ⟨s.plan, List.suffix_rfl, ?_⟩
    rw [readTimes, List.drop_zero, ← hdata]
    rfl
  | cons e es ih =>
    cases k with
    | zero =>
      refine ⟨s.plan, List.suffix_rfl, ?_⟩
      rw [readTimes, List.drop_zero, ← hdata]
      rfl
    | succ k =>
      rw [List.map_cons, List.flatten_cons, List.append_assoc] at hdata
      -- the first frame, and then the others from where it ends
      obtain ⟨plan, hplan, hread⟩ := read_append (hmax e (List.mem_cons_self ..))
        (hsize e (List.mem_cons_self ..)) hs hdata
      obtain ⟨plan', hplan', hreads⟩ := ih (fun e he => hmax e (List.mem_cons_of_mem _ he))
        (fun e he => hsize e (List.mem_cons_of_mem _ he)) (hs.of_suffix _ s.dry hplan) rfl
        (Nat.le_of_succ_le_succ hk)
      refine ⟨plan', hplan'.trans hplan, ?_⟩
      rw [readTimes, hread]
      dsimp only
      rw [hreads]
      rfl

/-- `encode_frame` makes frames of all envelopes that are small enough. -/
theorem mapM_encode {max : Nat} {es : List Envelope} (hmax : ∀ e ∈ es, e.size ≤ max) :
    es.mapM (encode · max) = .ok (es.map ofEnvelope) := by
  induction es with
  | nil => rfl
  | cons e es ih =>
    rw [List.mapM_cons, encode_eq_ok (hmax e (List.mem_cons_self ..)),
      ih fun e he => hmax e (List.mem_cons_of_mem _ he)]
    rfl

/-- Envelopes of this version are read as they are. -/
theorem map_outcome_of_version {es : List Envelope}
    (h : ∀ e ∈ es, e.version = protocolVersion) :
    es.map outcome = es.map fun e => .ok (some ⟨e, e.size⟩) :=
  List.map_congr_left fun e he => if_pos (h e he)

/-- The frames of envelopes of any versions, with anything behind them, are read back from a steady
stream one by one: every read takes its frame alone and yields its envelope with the size of its
body, or refuses the version. Behind the last frame the reader is where the frames end. -/
theorem readTimes_encoded_frames {max : Nat} {es : List Envelope} (tail : Bytes)
    (hmax : ∀ e ∈ es, e.size ≤ max) (hsize : ∀ e ∈ es, e.size < UInt32.size) :
    ∃ frames, es.mapM (encode · max) = .ok frames ∧ frames.length = es.length ∧
      ∀ s : Source, s.Steady → s.data = frames.flatten ++ tail →
        (∀ k ≤ es.length, ∃ plan, plan <:+ s.plan ∧
          readTimes max k s =
            ((es.take k).map outcome, ⟨(frames.drop k).flatten ++ tail, plan, s.dry⟩)) ∧
        ((∀ e ∈ es, e.version = protocolVersion) → ∃ plan, plan <:+ s.plan ∧
          readTimes max es.length s =
            (es.map fun e => .ok (some ⟨e, e.size⟩), ⟨tail, plan, s.dry⟩)) ∧
        (tail = [] → s.dry = .ended → ∃ plan, plan <:+ s.plan ∧
          readTimes max (es.length + 1) s =
            (es.map outcome ++ [.ok none], ⟨[], plan, .ended⟩)) := by
  refine ⟨es.map ofEnvelope, mapM_encode hmax, List.length_map _, fun s hs hdata => ?_⟩
  obtain ⟨plan, hplan, hall⟩ := readTimes_append hmax hsize hs hdata (Nat.le_refl es.length)
  rw [List.take_length, List.drop_of_length_le (Nat.le_of_eq (List.length_map _)),
    List.flatten_nil, List.nil_append] at hall
  refine ⟨fun k hk => readTimes_append hmax hsize hs hdata hk, fun hversion => ?_,
    fun htail hdry => ?_⟩
  · rw [map_outcome_of_version hversion] at hall
    exact ⟨plan, hplan, hall⟩
  -- one more read, where the frames end
  · obtain ⟨plan', hplan', hread⟩ :=
      read_ended max (hs.of_suffix tail s.dry hplan) htail hdry
    have hlast : readTimes max 1 ⟨tail, plan, s.dry⟩ = ([.ok none], ⟨[], plan', .ended⟩) := by
      rw [readTimes, hread]
      rfl
    refine ⟨plan', hplan'.trans hplan, ?_⟩
    rw [readTimes_add, hall, hlast]

/-- A frame of another version between two that are read; the stream comes in short pieces. -/
theorem readTimes_encoded_frames_sample :
    let es : List Envelope := [⟨1, .ping ⟨7⟩⟩, ⟨2, .pong ⟨7⟩⟩, ⟨1, .pong ⟨9⟩⟩]
    (∀ e ∈ es, e.size ≤ 64) ∧ (∀ e ∈ es, e.size < UInt32.size) ∧
      ∃ frames, es.mapM (encode · 64) = .ok frames ∧ frames.length = es.length ∧
        ∃ plan, plan <:+ [.fails (.ofKind .interrupted), .atMost 3] ∧
          readTimes 64 (es.length + 1)
              ⟨frames.flatten, [.fails (.ofKind .interrupted), .atMost 3], .ended⟩ =
            (es.map outcome ++ [.ok none], ⟨[], plan, .ended⟩) := by
  intro es
  have hmax : ∀ e ∈ es, e.size ≤ 64 := by decide +kernel
  have hsize : ∀ e ∈ es, e.size < UInt32.size := by decide +kernel
  obtain ⟨frames, hframes, hlength, hread⟩ := readTimes_encoded_frames [] hmax hsize
  refine ⟨hmax, hsize, frames, hframes, hlength, ?_⟩
  have hsteady : (⟨frames.flatten, [.fails (.ofKind .interrupted), .atMost 3], .ended⟩ :
      Source).Steady := by
    intro step hstep
    rcases List.mem_cons.mp hstep with rfl | hstep
    · exact rfl
    · obtain rfl := List.mem_singleton.mp hstep
      exact Nat.succ_ne_zero 2
  exact (hread _ hsteady (List.append_nil _).symm).2.2 rfl rfl

/-! ## What a header tells -/

/-- The header of a frame tells the number of bytes behind it. -/
def Tells (frame : Bytes) : Prop :=
  Bytes.ofBigEndian (frame.take headerSize) = (frame.drop headerSize).length

instance (frame : Bytes) : Decidable (Tells frame) :=
  inferInstanceAs (Decidable (_ = _))

/-- Behind the header stands the envelope. -/
theorem drop_ofEnvelope (e : Envelope) : (ofEnvelope e).drop headerSize = e.toBytes :=
  List.drop_left' (Bytes.length_bigEndian _ _)

/-- The four bytes of a header hold the size of the envelope without its high part. -/
theorem header_ofEnvelope (e : Envelope) :
    Bytes.ofBigEndian ((ofEnvelope e).take headerSize) = e.size % UInt32.size := by
  have htake : (ofEnvelope e).take headerSize = Bytes.bigEndian headerSize e.size :=
    List.take_left' (Bytes.length_bigEndian _ _)
  rw [htake, Bytes.ofBigEndian_bigEndian]
  rfl

/-- A header is right just when there is no high part. -/
theorem tells_ofEnvelope_iff (e : Envelope) : Tells (ofEnvelope e) ↔ e.size < UInt32.size := by
  have hpos : 0 < UInt32.size := by decide
  rw [Tells, header_ofEnvelope, drop_ofEnvelope]
  show e.size % UInt32.size = e.size ↔ e.size < UInt32.size
  exact Nat.mod_eq_iff_lt (Nat.ne_of_gt hpos)

/-- An application message that is nothing but a body of so many bytes. -/
def bulk (n : Nat) : Envelope :=
  ⟨protocolVersion, .application (.direct "" "" (List.replicate n 0))⟩

/-- Everything around the body takes 31 bytes. -/
theorem size_bulk (n : Nat) : (bulk n).size = 31 + n := by
  have htext : (Binary.encodeText "").length = 8 := by decide
  rw [Envelope.size, Envelope.toBytes, bulk]
  simp only [AppMessage.direct, Envelope.schema, Payload.schema, AppMessage.schema,
    Fields.required, Fields.optional, Schema.encode, Fields.encode, Cases.encode, htext,
    Binary.encodeOctets, Bytes.length_littleEndian, List.length_append, List.length_replicate,
    List.length_cons, List.length_nil]
  omega

/-- **A frame is its header and the envelope, and the header holds the size of the envelope modulo
2 ^ 32.** So it tells the size of all that stands behind it just when the envelope is smaller than
that; and of all frames that may be made it does so just when the largest size allowed is smaller
than that. -/
theorem header_tells_size (max : Nat) :
    (∀ (e : Envelope) (frame : Bytes), encode e max = .ok frame →
      frame.drop headerSize = e.toBytes ∧
      Bytes.ofBigEndian (frame.take headerSize) = e.size % UInt32.size ∧
      (Tells frame ↔ e.size < UInt32.size)) ∧
    ((∀ (e : Envelope) (frame : Bytes), encode e max = .ok frame → Tells frame) ↔
      max < UInt32.size) := by
  refine ⟨fun e frame h => ?_, fun htells => ?_, fun hmax e frame h => ?_⟩
  · obtain ⟨-, rfl⟩ := eq_ofEnvelope_of_encode h
    exact ⟨drop_ofEnvelope e, header_ofEnvelope e, tells_ofEnvelope_iff e⟩
  · -- Otherwise an envelope of exactly 2 ^ 32 bytes is admitted.
    rw [← Nat.not_le]
    intro hmax
    have hsize : (bulk (UInt32.size - 31)).size = UInt32.size := by
      rw [size_bulk, Nat.add_sub_cancel' (by decide)]
    have hlarge := htells _ _ (encode_eq_ok (Nat.le_trans (Nat.le_of_eq hsize) hmax))
    rw [tells_ofEnvelope_iff, hsize] at hlarge
    exact Nat.lt_irrefl _ hlarge
  · obtain ⟨hle, rfl⟩ := eq_ofEnvelope_of_encode h
    exact (tells_ofEnvelope_iff e).mpr (Nat.lt_of_le_of_lt hle hmax)

/-- A probe, within a bound that a header can tell. -/
theorem header_tells_size_sample :
    let frame := ofEnvelope ⟨1, .ping ⟨7⟩⟩
    encode ⟨1, .ping ⟨7⟩⟩ 512 = .ok frame ∧ Bytes.ofBigEndian (frame.take headerSize) = 13 ∧
      Tells frame := by
  intro frame
  have hframe : encode ⟨1, .ping ⟨7⟩⟩ 512 = .ok frame := encode_eq_ok (by decide +kernel)
  obtain ⟨-, hheader, -⟩ := (header_tells_size 512).1 _ _ hframe
  exact ⟨hframe, hheader, (header_tells_size 512).2.mpr (by decide) _ _ hframe⟩

/-- Not every size that can be set keeps headers right: without a bound, the header of an envelope
of 2 ^ 32 bytes is zero. -/
theorem not_header_tells_any_size :
    ¬ ∀ (e : Envelope) (max : UInt64) (frame : Bytes), encode e max.toNat = .ok frame →
      Tells frame ∧ (frame.drop headerSize).length = e.size := by
  intro htells
  have hsize : (bulk 4294967265).size = 4294967296 := size_bulk 4294967265
  have hmax : (bulk 4294967265).size ≤ (18446744073709551615 : UInt64).toNat := by
    rw [hsize]
    decide
  have hlarge := (htells (bulk 4294967265) 18446744073709551615 _ (encode_eq_ok hmax)).1
  rw [tells_ofEnvelope_iff, hsize] at hlarge
  exact absurd hlarge (by decide)

end Courier.Frame
