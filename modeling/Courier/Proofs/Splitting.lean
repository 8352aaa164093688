import Courier.Proofs.Frames

/-!
# Courier — frames, however the stream is split

What a reader gets from a stream that comes in short reads and interruptions is laid down by its
bytes alone. `Frame.parse` takes what stands at the front of the whole data, and `Frame.read` does
just that on every steady source, whatever the bytes are: frames, broken frames or anything else.

* `Frame.parse`, `Frame.parseTimes` — reading from the bytes themselves;
* `Frame.read_honest`, `Frame.read_steady` — one read of a stream;
* `Frame.readTimes_eq_parseTimes` — any number of them, going on after errors.
-/

namespace Courier.Frame

-- ---------------------------------------------------------------------------
-- Reading from the bytes themselves
-- ---------------------------------------------------------------------------

/-- What stands at the front of the whole data, and the number of bytes that are taken for it. -/
def parse (max : Nat) (data : Bytes) : Except NetworkError (Option Received) × Nat :=
  if data = [] then (.ok none, 0)
  else if data.length < headerSize then (.error .connectionClosed, data.length)
  else
    let size := Bytes.ofBigEndian (data.take headerSize)
    if max < size then (.error (.messageTooLarge size max), headerSize)
    else if data.length < headerSize + size then (.error .connectionClosed, data.length)
    else
      match Envelope.ofBytes ((data.drop headerSize).take size) with
      | .ok e => (.ok (some ⟨e, size⟩), headerSize + size)
      | .error fault => (.error (.invalidMessage fault.message), headerSize + size)

/-- What so many parses yield, each of which begins where the one before has ended, also after an
error, and the number of bytes that they take together. -/
def parseTimes (max : Nat) : Nat → Bytes → List (Except NetworkError (Option Received)) × Nat
  | 0, _ => ([], 0)
  | k + 1, data =>
    let (outcome, taken) := parse max data
    let (outcomes, more) := parseTimes max k (data.drop taken)
    (outcome :: outcomes, taken + more)

/-- Nothing is read from no data. -/
theorem parse_nil (max : Nat) : parse max [] = (.ok none, 0) := rfl

/-- Too little data for the length of a frame. -/
theorem parse_of_short_header {max : Nat} {data : Bytes} (hne : data ≠ [])
    (h : data.length < headerSize) : parse max data = (.error .connectionClosed, data.length) := by
  rw [parse, if_neg hne, if_pos h]

/-- The data of a frame, taken apart. -/
theorem parse_append {max : Nat} {header rest : Bytes} (h : header.length = headerSize) :
    parse max (header ++ rest) =
      if max < Bytes.ofBigEndian header then
        (.error (.messageTooLarge (Bytes.ofBigEndian header) max), headerSize)
      else if rest.length < Bytes.ofBigEndian header then
        (.error .connectionClosed, headerSize + rest.length)
      else
        (ofBody (rest.take (Bytes.ofBigEndian header)),
          headerSize + Bytes.ofBigEndian header) := by
  have hne : header ++ rest ≠ [] := by
    intro hnil
    have hlen := congrArg List.length hnil
    rw [List.length_append, h] at hlen
    exact absurd hlen (by simp [headerSize])
  have hlength : (header ++ rest).length = headerSize + rest.length := by
    rw [List.length_append, h]
  rw [parse, if_neg hne, if_neg (by omega), List.take_left' h, List.drop_left' h, hlength]
  dsimp only
  by_cases hmax : max < Bytes.ofBigEndian header
  · rw [if_pos hmax, if_pos hmax]
  · rw [if_neg hmax, if_neg hmax]
    by_cases hbody : rest.length < Bytes.ofBigEndian header
    · rw [if_pos hbody, if_pos (by omega)]
    · have htake : (rest.take (Bytes.ofBigEndian header)).length = Bytes.ofBigEndian header := by
        rw [List.length_take]
        omega
      rw [if_neg hbody, if_neg (by omega), ofBody, htake]
      cases Envelope.ofBytes (rest.take (Bytes.ofBigEndian header)) <;> rfl

/-- No more is taken than there is. -/
theorem parse_taken_le (max : Nat) (data : Bytes) : (parse max data).2 ≤ data.length := by
  by_cases hnil : data = []
  · subst hnil
    exact Nat.le_refl 0
  by_cases hheader : data.length < headerSize
  · exact Nat.le_of_eq (congrArg Prod.snd (parse_of_short_header hnil hheader))
  · have hlength : (data.take headerSize).length = headerSize := by
      rw [List.length_take]
      omega
    have hrest : (data.drop headerSize).length = data.length - headerSize := List.length_drop
    rw [← List.take_append_drop headerSize data, parse_append hlength, List.length_append, hlength]
    split_ifs <;> dsimp only <;> omega

/-- No more is taken than there is. -/
theorem parseTimes_taken_le (max k : Nat) (data : Bytes) :
    (parseTimes max k data).2 ≤ data.length := by
  induction k generalizing data with
  | zero => exact Nat.zero_le _
  | succ k ih =>
    have hfirst := parse_taken_le max data
    have hmore := ih (data.drop (parse max data).2)
    rw [List.length_drop] at hmore
    rw [parseTimes]
    dsimp only
    omega

-- ---------------------------------------------------------------------------
-- Reading from a stream
-- ---------------------------------------------------------------------------

/-- One read of an honest stream takes what stands at the front of its data, or fails as planned;
then the bytes that it had taken are gone. -/
theorem read_honest (max : Nat) {s : Source} (hs : s.Honest) (hdry : s.dry = .ended) :
    ∃ plan, plan <:+ s.plan ∧
      (read max s = ((parse max s.data).1, ⟨s.data.drop (parse max s.data).2, plan, .ended⟩) ∨
        ∃ f k, .fails f ∈ s.plan ∧ f.kind ≠ .interrupted ∧ plan.length < s.plan.length ∧
          k ≤ s.data.length ∧ read max s = (.error (.ofIo f), ⟨s.data.drop k, plan, .ended⟩)) := by
  obtain ⟨plan, hplan, hfill⟩ := Source.fill_honest headerSize hs
  rw [hdry] at hfill
  rcases hfill with hfill | ⟨f, k, hmem, hf, hlt, hk, hfill⟩
  · by_cases hheader : headerSize ≤ s.data.length
    · -- the header is complete
      rw [if_pos hheader] at hfill
      have hlength : (s.data.take headerSize).length = headerSize := by
        rw [List.length_take]
        omega
      have hparse : parse max (s.data.take headerSize ++ s.data.drop headerSize) = _ :=
        parse_append hlength
      rw [List.take_append_drop] at hparse
      rw [hparse, read, hfill]
      dsimp only
      by_cases hmax : max < Bytes.ofBigEndian (s.data.take headerSize)
      · exact ⟨plan, hplan, .inl (by rw [if_pos hmax, if_pos hmax])⟩
      -- and the body may be read
      obtain ⟨plan', hplan', hfill'⟩ := Source.fill_honest
        (Bytes.ofBigEndian (s.data.take headerSize))
        (hs.of_suffix (s.data.drop headerSize) .ended hplan)
      dsimp only at hplan' hfill'
      refine ⟨plan', hplan'.trans hplan, ?_⟩
      rw [if_neg hmax, if_neg hmax]
      rcases hfill' with hfill' | ⟨f, k, hmem, hf, hlt, hk, hfill'⟩
      · left
        rw [hfill']
        by_cases hbody :
            (s.data.drop headerSize).length < Bytes.ofBigEndian (s.data.take headerSize)
        · have hall : s.data.length ≤ headerSize + (s.data.drop headerSize).length := by
            rw [List.length_drop]
            omega
          rw [if_pos hbody, if_neg (by omega)]
          dsimp only
          rw [List.drop_of_length_le hall]
          rfl
        · rw [if_neg hbody, if_pos (by omega), List.drop_drop]
      · rw [List.length_drop] at hk
        refine .inr ⟨f, headerSize + k, hplan.subset hmem, hf,
          Nat.lt_of_lt_of_le hlt hplan.length_le, by omega, ?_⟩
        rw [hfill', List.drop_drop]
    · -- the data ends before the header is complete, or before it has begun
      rw [if_neg hheader] at hfill
      refine ⟨plan, hplan, .inl ?_⟩
      rw [read, hfill]
      by_cases hnil : s.data = []
      · rw [hnil]
        rfl
      · rw [parse_of_short_header hnil (by omega), List.drop_length]
        simp only [Dry.stop, if_neg hnil]
  · exact ⟨plan, hplan, .inr ⟨f, k, hmem, hf, hlt, hk, by rw [read, hfill]⟩⟩

/-- One read of a steady stream takes what stands at the front of its data. -/
theorem read_steady (max : Nat) {s : Source} (hs : s.Steady) (hdry : s.dry = .ended) :
    ∃ plan, plan <:+ s.plan ∧ read max s =
      ((parse max s.data).1, ⟨s.data.drop (parse max s.data).2, plan, .ended⟩) := by
  obtain ⟨plan, hplan, hread | ⟨f, k, hmem, hf, -⟩⟩ := read_honest max hs.honest hdry
  · exact ⟨plan, hplan, hread⟩
  · exact absurd (hs _ hmem) hf

/-- `read_frame`, called time after time, does what the parser does on the data. -/
theorem readTimes_steady (max k : Nat) {s : Source} (hs : s.Steady) (hdry : s.dry = .ended) :
    ∃ plan, plan <:+ s.plan ∧ readTimes max k s =
      ((parseTimes max k s.data).1, ⟨s.data.drop (parseTimes max k s.data).2, plan, .ended⟩) := by
  induction k generalizing s with
  | zero =>
    refine ⟨s.plan, List.suffix_rfl, ?_⟩
    rw [← hdry]
    rfl
  | succ k ih =>
    obtain ⟨plan, hplan, hread⟩ := read_steady max hs hdry
    -- the next reads go on where this one has ended
    obtain ⟨plan', hplan', hreads⟩ :=
      ih (hs.of_suffix (s.data.drop (parse max s.data).2) .ended hplan) rfl
    refine ⟨plan', hplan'.trans hplan, ?_⟩
    rw [readTimes, hread]
    dsimp only
    rw [hreads, parseTimes]
    dsimp only
    rw [List.drop_drop]

/-- **Reading does not depend on how the stream is split.** Any number of reads, going on after
errors, yield what the same number of parses yield from the whole data and take the same number of
bytes, for data of any kind and whatever short reads and interruptions it comes in. -/
theorem readTimes_eq_parseTimes (max k : Nat) {s : Source} (hs : s.Steady)
    (hdry : s.dry = .ended) :
    (readTimes max k s).1 = (parseTimes max k s.data).1 ∧
      (readTimes max k s).2.data = s.data.drop (parseTimes max k s.data).2 ∧
      (parseTimes max k s.data).2 ≤ s.data.length := by
  obtain ⟨plan, -, hreads⟩ := readTimes_steady max k hs hdry
  rw [hreads]
  exact ⟨rfl, rfl, parseTimes_taken_le max k s.data⟩

/-- A frame, a frame that is too large, a frame of another version and the beginning of a frame, in
short pieces. -/
theorem readTimes_eq_parseTimes_sample :
    let data : Bytes := ofEnvelope ⟨1, .ping ⟨7⟩⟩ ++ [0, 0, 0, 200] ++ ofEnvelope ⟨2, .pong ⟨7⟩⟩ ++
      [0, 0, 0, 5, 1, 2]
    let s : Source := ⟨data, [.fails (.ofKind .interrupted), .atMost 3, .atMost 9,
      .fails (.ofKind .interrupted), .atMost 1], .ended⟩
    s.Steady ∧ s.dry = .ended ∧
      (readTimes 64 5 s).1 =
        [.ok (some ⟨⟨1, .ping ⟨7⟩⟩, 13⟩), .error (.messageTooLarge 200 64),
          .error (.invalidMessage "Unsupported protocol version: 2 (expected 1)"),
          .error .connectionClosed, .ok none] ∧
      (readTimes 64 5 s).2.data = [] := by
  intro data s
  have hsteady : s.Steady := by
    intro step hstep
    simp only [s, List.mem_cons, List.not_mem_nil, or_false] at hstep
    rcases hstep with rfl | rfl | rfl | rfl | rfl <;> simp [ReadStep.IsSteady, IoFailure.ofKind]
  obtain ⟨houtcomes, hdata, -⟩ := readTimes_eq_parseTimes 64 5 hsteady rfl
  refine ⟨hsteady, rfl, houtcomes.trans ?_, hdata.trans ?_⟩
  · rfl
  · rfl

end Courier.Frame
