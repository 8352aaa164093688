import Courier.Bytes
import Courier.IoFailure

/-!
# Courier — byte streams

A source is a stream to read from, a sink a stream to write to. How much a single read or write
moves, and whether it fails, is laid down by a plan, so that whatever is said of readers and writers
holds however the stream is split and interrupted.

* `Source.fill` — reads until a number of bytes is complete, going on after interruptions;
* `Sink.writeAll` — writes until all bytes are out, likewise.
-/

namespace Courier

/-! ## Sources -/

/-- What a single read does. -/
inductive ReadStep where
  /-- It yields at most this many bytes; none at all means the end. -/
  | atMost (n : Nat)
  | fails (f : IoFailure)
deriving DecidableEq, Repr

/-- What a read meets when all data has been read. -/
inductive Dry where
  /-- The end of the stream. -/
  | ended
  /-- Nothing yet, for longer than a read may wait. -/
  | stalled
deriving DecidableEq, Repr, Inhabited

/-- A stream to read from. -/
structure Source where
  data : Bytes
  /-- What the next reads do; later ones yield all they can. -/
  plan : List ReadStep
  dry : Dry
deriving DecidableEq, Repr, Inhabited

/-- Why a buffer was not filled. -/
inductive Stop where
  | ended
  | failed (f : IoFailure)
deriving DecidableEq, Repr

namespace Source

/-- A stream of these bytes, read without interruption. -/
def ofBytes (data : Bytes) : Source := ⟨data, [], .ended⟩

/-- The outcome of reading when there is no data. -/
def whenDry : Dry → Except IoFailure Bytes
  | .ended => .ok []
  | .stalled => .error (.ofKind .wouldBlock)

/-- One read of at most `want` bytes; no bytes mean the end. -/
def read (want : Nat) (s : Source) : Except IoFailure Bytes × Source :=
  match s.plan with
  | .fails f :: plan => (.error f, { s with plan })
  | .atMost n :: plan =>
    if n = 0 then (.ok [], { s with plan })
    else if s.data = [] then (whenDry s.dry, { s with plan })
    else (.ok (s.data.take (min want n)), { s with data := s.data.drop (min want n), plan })
  | [] =>
    if s.data = [] then (whenDry s.dry, s)
    else (.ok (s.data.take want), { s with data := s.data.drop want })

/-- A read takes at most one step from the plan. -/
theorem length_plan_read_le (want : Nat) (s : Source) :
    (s.read want).2.plan.length ≤ s.plan.length := by
  unfold read
  split <;> simp_all only [List.length_cons]
  · omega
  · split
    · simp
    · split <;> simp
  · split <;> simp_all

/-- An interruption is always planned. -/
theorem length_plan_read_lt_of_interrupted {want : Nat} {s s' : Source} {f : IoFailure}
    (h : s.read want = (.error f, s')) (hf : f.kind = .interrupted) :
    s'.plan.length < s.plan.length := by
  unfold read at h
  split at h
  next f' plan hp =>
    cases h
    simp [hp]
  next n plan hp =>
    split at h
    · cases h
    · split at h
      · cases hd : s.dry <;> simp only [hd, whenDry] at h
        · cases h
        · cases h
          simp [IoFailure.ofKind] at hf
      · cases h
  next hp =>
    split at h
    · cases hd : s.dry <;> simp only [hd, whenDry] at h
      · cases h
      · cases h
        simp [IoFailure.ofKind] at hf
    · cases h

/-- Reads until `n` bytes have been read: the bytes that were read, why there are not `n` of them,
and the rest of the stream. An interrupted read is repeated. -/
def fill (n : Nat) (s : Source) : Bytes × Option Stop × Source :=
  if n = 0 then ([], none, s)
  else
    match _h : s.read n with
    | (.ok [], s') => ([], some .ended, s')
    | (.ok (b :: bs), s') =>
      let (more, stop, s'') := fill (n - (b :: bs).length) s'
      (b :: bs ++ more, stop, s'')
    | (.error f, s') =>
      if f.kind = .interrupted then fill n s' else ([], some (.failed f), s')
termination_by n + s.plan.length
decreasing_by
  · have hle : s'.plan.length ≤ s.plan.length := by simpa [_h] using length_plan_read_le n s
    simp only [List.length_cons]
    omega
  · have hlt := length_plan_read_lt_of_interrupted _h (by assumption)
    omega

end Source

/-! ## Sinks -/

/-- What a single write does. -/
inductive WriteStep where
  /-- It takes at most this many bytes. -/
  | atMost (n : Nat)
  | fails (f : IoFailure)
deriving DecidableEq, Repr

/-- A stream to write to. -/
structure Sink where
  written : Bytes
  /-- What the next writes do; later ones take everything. -/
  plan : List WriteStep
  /-- The failures of the next flushes; later ones succeed. -/
  flushes : List (Option IoFailure)
deriving DecidableEq, Repr, Inhabited

namespace Sink

/-- A stream that takes everything. -/
def unlimited : Sink := ⟨[], [], []⟩

/-- One write: the number of bytes taken. -/
def write (bs : Bytes) (s : Sink) : Except IoFailure Nat × Sink :=
  match s.plan with
  | .fails f :: plan => (.error f, { s with plan })
  | .atMost n :: plan =>
    let k := min n bs.length
    (.ok k, { s with written := s.written ++ bs.take k, plan })
  | [] => (.ok bs.length, { s with written := s.written ++ bs })

/-- A write takes at most one step from the plan. -/
theorem length_plan_write_le (bs : Bytes) (s : Sink) :
    (s.write bs).2.plan.length ≤ s.plan.length := by
  unfold write
  split <;> simp_all

/-- A failure is always planned. -/
theorem length_plan_write_lt_of_failed {bs : Bytes} {s s' : Sink} {f : IoFailure}
    (h : s.write bs = (.error f, s')) : s'.plan.length < s.plan.length := by
  unfold write at h
  split at h
  next f' plan hp =>
    cases h
    simp [hp]
  · cases h
  · cases h

/-- Writes all bytes. An interrupted write is repeated, and one that takes nothing is a failure. -/
def writeAll (bs : Bytes) (s : Sink) : Except IoFailure Unit × Sink :=
  if bs = [] then (.ok (), s)
  else
    match h : s.write bs with
    | (.ok 0, s') => (.error .nothingWritten, s')
    | (.ok (k + 1), s') => writeAll (bs.drop (k + 1)) s'
    | (.error f, s') => if f.kind = .interrupted then writeAll bs s' else (.error f, s')
termination_by bs.length + s.plan.length
decreasing_by
  · have hle : s'.plan.length ≤ s.plan.length := by simpa [h] using length_plan_write_le bs s
    have hpos : 0 < bs.length := List.length_pos_iff.2 (by assumption)
    simp only [List.length_drop]
    omega
  · have hlt := length_plan_write_lt_of_failed h
    omega

/-- Passes on what was written. -/
def flush (s : Sink) : Except IoFailure Unit × Sink :=
  match s.flushes with
  | some f :: flushes => (.error f, { s with flushes })
  | none :: flushes => (.ok (), { s with flushes })
  | [] => (.ok (), s)

end Sink

end Courier
