import Courier.Proofs.Splitting
import Mathlib.Control.Monad.Basic

/-!
# Courier — reads that have waited too long

A source is patient when its plan holds, beside short reads and interruptions, reads that fail
because they have waited too long. A caller may read again after such a timeout. What it gets then
is decided by where the timeout has struck: between two frames it costs nothing, but inside a frame
the bytes that were read before it are gone, and the next read takes the middle of the frame for the
beginning of one.

* `Frame.read_patient` — one read of a patient stream;
* `Frame.retries_between_frames` — timeouts between frames lose nothing;
* `Frame.not_retries_lose_nothing` — a timeout inside a frame does.
-/

namespace Courier

/-- The read moves on, is to be repeated, or has waited too long. -/
def ReadStep.IsPatient : ReadStep → Prop
  | .atMost n => n ≠ 0
  | .fails f => f.kind = .interrupted ∨ f.kind = .timedOut ∨ f.kind = .wouldBlock

/-- Only short reads, interruptions and timeouts are planned. -/
def Source.Patient (s : Source) : Prop := ∀ step ∈ s.plan, step.IsPatient

/-- A patient stream does not claim to end before it does. -/
theorem Source.Patient.honest {s : Source} (h : s.Patient) : s.Honest := fun hzero => h _ hzero rfl

/-- It stays patient as its plan goes on. -/
theorem Source.Patient.of_suffix {s : Source} (h : s.Patient) (data : Bytes) (dry : Dry)
    {plan : List ReadStep} (hplan : plan <:+ s.plan) : (⟨data, plan, dry⟩ : Source).Patient :=
  fun step hstep => h step (hplan.subset hstep)

/-- What fails for good in a patient plan is a timeout. -/
theorem Source.Patient.ofIo_eq {s : Source} (h : s.Patient) {f : IoFailure}
    (hmem : .fails f ∈ s.plan) (hf : f.kind ≠ .interrupted) : NetworkError.ofIo f = .timeout := by
  rcases h _ hmem with hkind | hkind | hkind
  · exact absurd hkind hf
  · rw [NetworkError.ofIo, hkind]
  · rw [NetworkError.ofIo, hkind]

namespace Frame

/-- The read has waited too long. -/
def isTimeout : Except NetworkError (Option Received) → Bool
  | .error .timeout => true
  | _ => false

/-- What so many reads yield to a caller that reads again after every timeout. -/
def retry (max k : Nat) (s : Source) : List (Except NetworkError (Option Received)) :=
  (readTimes max k s).1.filter fun outcome => !isTimeout outcome

/-- Among so many reads no timeout strikes inside a frame: each leaves the data as it was. -/
def StruckBetween (max : Nat) : Nat → Source → Prop
  | 0, _ => True
  | k + 1, s =>
    (isTimeout (read max s).1 = false ∨ (read max s).2.data = s.data) ∧
      StruckBetween max k (read max s).2

instance decidableStruckBetween (max : Nat) : ∀ k s, Decidable (StruckBetween max k s)
  | 0, _ => inferInstanceAs (Decidable True)
  | k + 1, s =>
    have := decidableStruckBetween max k (read max s).2
    inferInstanceAs (Decidable (_ ∧ _))

/-- Data never waits. -/
theorem isTimeout_parse (max : Nat) (data : Bytes) : isTimeout (parse max data).1 = false := by
  unfold parse
  split_ifs
  · rfl
  · rfl
  · dsimp only
    split_ifs
    · rfl
    · rfl
    · split <;> rfl

/-- One read of a patient stream takes what stands at the front of its data, or it is a timeout and
some bytes of the data are gone. -/
theorem read_patient (max : Nat) {s : Source} (hs : s.Patient) (hdry : s.dry = .ended) :
    ∃ plan, plan <:+ s.plan ∧
      (read max s = ((parse max s.data).1, ⟨s.data.drop (parse max s.data).2, plan, .ended⟩) ∨
        ∃ lost, plan.length < s.plan.length ∧ lost ≤ s.data.length ∧
          read max s = (.error .timeout, ⟨s.data.drop lost, plan, .ended⟩)) := by
  obtain ⟨plan, hplan, hread | ⟨f, k, hmem, hf, hlt, hk, hread⟩⟩ := read_honest max hs.honest hdry
  · exact ⟨plan, hplan, .inl hread⟩
  · rw [hs.ofIo_eq hmem hf] at hread
    exact ⟨plan, hplan, .inr ⟨k, hlt, hk, hread⟩⟩

/-- Timeouts that strike between frames leave the caller what it would have got without them, and
there are no more of them than the plan holds. -/
theorem retry_eq_parseTimes (max k : Nat) {s : Source} (hs : s.Patient) (hdry : s.dry = .ended)
    (hbetween : StruckBetween max k s) :
    retry max k s = (parseTimes max (retry max k s).length s.data).1 ∧
      k ≤ (retry max k s).length + s.plan.length := by
  induction k generalizing s with
  | zero => exact ⟨rfl, Nat.zero_le _⟩
  | succ k ih =>
    obtain ⟨hhere, hlater⟩ := hbetween
    obtain ⟨plan, hplan, hread | ⟨lost, hlt, -, hread⟩⟩ := read_patient max hs hdry
    · rw [hread] at hlater
      obtain ⟨hmore, hcount⟩ := ih (hs.of_suffix (s.data.drop (parse max s.data).2) .ended hplan)
        rfl hlater
      have hretry : retry max (k + 1) s = (parse max s.data).1 ::
          retry max k ⟨s.data.drop (parse max s.data).2, plan, .ended⟩ := by
        rw [retry, readTimes, hread]
        dsimp only
        rw [List.filter_cons_of_pos (by rw [isTimeout_parse]; rfl), retry]
      have hle := hplan.length_le
      rw [hretry, List.length_cons, parseTimes]
      dsimp only at hcount ⊢
      exact ⟨by rw [← hmore], by omega⟩
    · -- the timeout is not seen, and the next read begins where this one has begun
      rw [hread] at hhere hlater
      have hdata : s.data.drop lost = s.data := hhere.resolve_left (by simp [isTimeout])
      rw [hdata] at hlater hread
      have hretry : retry max (k + 1) s = retry max k ⟨s.data, plan, .ended⟩ := by
        rw [retry, readTimes, hread]
        dsimp only
        rw [List.filter_cons_of_neg (by simp [isTimeout]), retry]
      obtain ⟨hmore, hcount⟩ := ih (hs.of_suffix s.data .ended hplan) rfl hlater
      rw [hretry]
      dsimp only at hcount
      exact ⟨hmore, by omega⟩

-- ---------------------------------------------------------------------------
-- Streams of frames
-- ---------------------------------------------------------------------------

/-- A frame at the front of some data is taken whole. -/
theorem parse_ofEnvelope {max : Nat} {e : Envelope} (hmax : e.size ≤ max)
    (hsize : e.size < UInt32.size) (rest : Bytes) :
    parse max (ofEnvelope e ++ rest) = (outcome e, headerSize + e.size) := by
  have hbody : e.toBytes.length = e.size := rfl
  have hfits : e.Fits := Envelope.fits_of_size_lt (by
    have : UInt32.size ≤ UInt64.size := by decide
    omega)
  rw [ofEnvelope, List.append_assoc, parse_append (Bytes.length_bigEndian _ _),
    ofBigEndian_size hsize, if_neg (by omega), if_neg (by rw [List.length_append]; omega),
    List.take_left' hbody, ofBody_toBytes hfits]

/-- From frames so many parses take what the frames hold, and then find the end. -/
theorem parseTimes_frames {max : Nat} {es : List Envelope} (hmax : ∀ e ∈ es, e.size ≤ max)
    (hsize : ∀ e ∈ es, e.size < UInt32.size) {k m : Nat} (hk : k ≤ m) :
    (parseTimes max k (es.map ofEnvelope).flatten).1 =
      (es.map outcome ++ List.replicate m (Except.ok none)).take k := by
  induction k generalizing es m with
  | zero => rfl
  | succ k ih =>
    cases es with
    | nil =>
      obtain ⟨m, rfl⟩ : ∃ m', m = m' + 1 := ⟨m - 1, by omega⟩
      have hmore := ih hmax hsize (Nat.le_of_succ_le_succ hk)
      rw [List.map_nil, List.flatten_nil, List.map_nil, List.nil_append] at hmore ⊢
      rw [parseTimes, parse_nil, List.replicate_succ, List.take_succ_cons, ← hmore]
      rfl
    | cons e es =>
      have hmaxes : ∀ e ∈ es, e.size ≤ max := fun e he => hmax e (List.mem_cons_of_mem _ he)
      have hsizes : ∀ e ∈ es, e.size < UInt32.size := fun e he =>
        hsize e (List.mem_cons_of_mem _ he)
      have hmore := ih hmaxes hsizes (Nat.le_of_succ_le hk)
      rw [List.map_cons, List.flatten_cons, parseTimes,
        parse_ofEnvelope (hmax e (List.mem_cons_self ..)) (hsize e (List.mem_cons_self ..))]
      dsimp only
      rw [List.drop_left' (length_ofEnvelope e), hmore]
      rfl

/-- Each call has its answer. -/
theorem length_readTimes (max k : Nat) (s : Source) : (readTimes max k s).1.length = k := by
  induction k generalizing s with
  | zero => rfl
  | succ k ih =>
    rw [readTimes]
    dsimp only
    rw [List.length_cons, ih]

/-- **Timeouts between frames lose nothing.** A caller that reads again after every timeout gets the
envelopes of a stream of frames, in order and each once, and then the end of the stream, as long as
no timeout strikes inside a frame; when it reads often enough, it gets all of them. -/
theorem retries_between_frames {max k : Nat} {es : List Envelope} (hmax : ∀ e ∈ es, e.size ≤ max)
    (hsize : ∀ e ∈ es, e.size < UInt32.size) (hversion : ∀ e ∈ es, e.version = protocolVersion)
    {s : Source} (hs : s.Patient) (hdry : s.dry = .ended)
    (hdata : s.data = (es.map ofEnvelope).flatten) (hbetween : StruckBetween max k s) :
    retry max k s <+:
        es.map (fun e => .ok (some ⟨e, e.size⟩)) ++ List.replicate k (Except.ok none) ∧
      (es.length + s.plan.length ≤ k →
        es.map (fun e => .ok (some ⟨e, e.size⟩)) <+: retry max k s) := by
  obtain ⟨hretry, hcount⟩ := retry_eq_parseTimes max k hs hdry hbetween
  have hle : (retry max k s).length ≤ k := by
    have hfilter := List.length_filter_le (fun o => !isTimeout o) (readTimes max k s).1
    rwa [length_readTimes] at hfilter
  rw [hdata, parseTimes_frames hmax hsize hle, map_outcome_of_version hversion] at hretry
  have hfront : retry max k s <+:
      es.map (fun e => .ok (some ⟨e, e.size⟩)) ++ List.replicate k (Except.ok none) := by
    rw [hretry]
    exact List.take_prefix _ _
  refine ⟨hfront, fun hk => ?_⟩
  -- both are at the front of the same list, and the envelopes are not more than what was got
  refine List.prefix_of_prefix_length_le (List.prefix_append _ _) hfront ?_
  rw [List.length_map]
  omega

/-- Two frames in short pieces, with a timeout before either of them and one behind. -/
theorem retries_between_frames_sample :
    let es : List Envelope := [⟨1, .ping ⟨1⟩⟩, ⟨1, .pong ⟨2⟩⟩]
    let plan : List ReadStep := [.fails (.ofKind .timedOut), .atMost 3, .atMost 9, .atMost 13,
      .fails (.ofKind .wouldBlock), .fails (.ofKind .interrupted)]
    let s : Source := ⟨(es.map ofEnvelope).flatten, plan, .ended⟩
    (∀ e ∈ es, e.size ≤ 64) ∧ (∀ e ∈ es, e.size < UInt32.size) ∧
      (∀ e ∈ es, e.version = protocolVersion) ∧ s.Patient ∧ s.dry = .ended ∧
      s.data = (es.map ofEnvelope).flatten ∧ StruckBetween 64 8 s ∧
      es.map (fun e => .ok (some ⟨e, e.size⟩)) <+: retry 64 8 s := by
  intro es plan s
  have hmax : ∀ e ∈ es, e.size ≤ 64 := by decide +kernel
  have hsize : ∀ e ∈ es, e.size < UInt32.size := by decide +kernel
  have hversion : ∀ e ∈ es, e.version = protocolVersion := by decide
  have hs : s.Patient := by
    intro step hstep
    simp only [s, plan, List.mem_cons, List.not_mem_nil, or_false] at hstep
    rcases hstep with rfl | rfl | rfl | rfl | rfl | rfl <;>
      simp [ReadStep.IsPatient, IoFailure.ofKind]
  have hbetween : StruckBetween 64 8 s := by decide +kernel
  exact ⟨hmax, hsize, hversion, hs, rfl, rfl, hbetween,
    (retries_between_frames hmax hsize hversion hs rfl rfl hbetween).2 (by decide)⟩

/-- Where timeouts strike does matter: one that strikes after two bytes of the first of two frames
has the next read take the middle of the frame for a length. -/
theorem not_retries_lose_nothing :
    ¬ ∀ (max k : Nat) (es : List Envelope) (s : Source), (∀ e ∈ es, e.size ≤ max) →
      (∀ e ∈ es, e.size < UInt32.size) → (∀ e ∈ es, e.version = protocolVersion) → s.Patient →
      s.dry = .ended → s.data = (es.map ofEnvelope).flatten →
      retry max k s <+:
        es.map (fun e => .ok (some ⟨e, e.size⟩)) ++ List.replicate k (Except.ok none) := by
  intro h
  let es : List Envelope := [⟨1, .ping ⟨1⟩⟩, ⟨1, .ping ⟨2⟩⟩]
  let s : Source := ⟨(es.map ofEnvelope).flatten, [.atMost 2, .fails (.ofKind .timedOut)], .ended⟩
  have hs : s.Patient := by
    intro step hstep
    simp only [s, List.mem_cons, List.not_mem_nil, or_false] at hstep
    rcases hstep with rfl | rfl <;> simp [ReadStep.IsPatient, IoFailure.ofKind]
  have hretry : retry 64 2 s = [.error (.messageTooLarge 852225 64)] := by decide +kernel
  have hfront := h 64 2 es s (by decide +kernel) (by decide +kernel) (by decide) hs rfl rfl
  rw [hretry] at hfront
  obtain ⟨rest, hrest⟩ := hfront
  cases hrest

end Frame
end Courier
