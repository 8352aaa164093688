import Courier.Proofs.Splitting
import Mathlib.Data.List.Forall2

/-!
# Courier — whole frames at the front

Whatever the bytes of a stream are, they begin with some number of whole frames that are not too
large and hold envelopes of this protocol, and go on with something else, or end there. The frames
are what a reader gets before anything else.

* `Frame.BeginsWith` — the data begins with a whole frame;
* `Frame.read_eq_some_iff` — what a read has to find to yield an envelope;
* `Frame.whole` — the whole frames at the front of some data, and what comes behind them;
* `Frame.whole_spec` — no more of the data is whole frames;
* `Frame.Refused` — what comes next is refused, even if the stream goes on.
-/

namespace Courier.Frame

/-- The data begins with a whole frame, which is not too large, and in which there is an envelope of
this protocol. -/
def BeginsWith (max : Nat) (data : Bytes) (r : Received) : Prop :=
  ∃ body rest, data = Bytes.bigEndian headerSize body.length ++ body ++ rest ∧
    body.length ≤ max ∧ body.length < UInt32.size ∧ r.size = body.length ∧
    Envelope.ofBytes body = .ok r.envelope

/-- A body is read if it begins with an envelope of this version. -/
theorem ofBody_eq_some_iff {body : Bytes} {r : Received} :
    ofBody body = .ok (some r) ↔
      Envelope.ofBytes body = .ok r.envelope ∧ r.size = body.length := by
  unfold ofBody
  split
  · rename_i e he
    rw [he]
    constructor
    · intro h
      cases h
      exact ⟨rfl, rfl⟩
    · rintro ⟨henvelope, hsize⟩
      cases henvelope
      rw [← hsize]
  · rename_i fault he
    rw [he]
    exact iff_of_false (fun h => nomatch h) fun h => nomatch h.1

/-- The length in front tells whether there is a whole frame, and what is to be read as its body. -/
theorem beginsWith_iff {max : Nat} {data : Bytes} {r : Received} :
    BeginsWith max data r ↔
      headerSize ≤ data.length ∧ Bytes.ofBigEndian (data.take headerSize) ≤ max ∧
        headerSize + Bytes.ofBigEndian (data.take headerSize) ≤ data.length ∧
        ofBody ((data.drop headerSize).take (Bytes.ofBigEndian (data.take headerSize))) =
          .ok (some r) := by
  constructor
  · rintro ⟨body, rest, rfl, hmax, hlt, hsize, hbody⟩
    have hheader : (Bytes.bigEndian headerSize body.length).length = headerSize :=
      Bytes.length_bigEndian _ _
    have hback : Bytes.ofBigEndian (Bytes.bigEndian headerSize body.length) = body.length := by
      rw [Bytes.ofBigEndian_bigEndian, Nat.mod_eq_of_lt]
      exact hlt
    rw [List.append_assoc, List.take_left' hheader, List.drop_left' hheader, hback,
      List.take_left, List.length_append, List.length_append, hheader, ofBody_eq_some_iff]
    exact ⟨by omega, hmax, by omega, hbody, hsize⟩
  · rintro ⟨hheader, hmax, hlength, hbody⟩
    have htake : (data.take headerSize).length = headerSize := by
      rw [List.length_take]
      omega
    have hback := Bytes.bigEndian_ofBigEndian (data.take headerSize)
    have hlt := Bytes.ofLittleEndian_lt (data.take headerSize).reverse
    rw [List.length_reverse, htake] at hlt
    rw [htake] at hback
    generalize hsize : Bytes.ofBigEndian (data.take headerSize) = size at hmax hlength hbody hback
    have hlen : ((data.drop headerSize).take size).length = size := by
      rw [List.length_take, List.length_drop]
      omega
    obtain ⟨henvelope, hr⟩ := ofBody_eq_some_iff.mp hbody
    refine ⟨(data.drop headerSize).take size, data.drop (headerSize + size), ?_, by rwa [hlen], ?_,
      hr, henvelope⟩
    · rw [hlen, hback, List.append_assoc, ← List.drop_drop, List.take_append_drop,
        List.take_append_drop]
    · rw [hlen, ← hsize]
      exact hlt

/-- Data begins with one frame only. -/
theorem BeginsWith.unique {max : Nat} {data : Bytes} {r r' : Received}
    (h : BeginsWith max data r) (h' : BeginsWith max data r') : r = r' := by
  obtain ⟨-, -, -, hbody⟩ := beginsWith_iff.mp h
  obtain ⟨-, -, -, hbody'⟩ := beginsWith_iff.mp h'
  exact Option.some.inj (Except.ok.inj (hbody.symm.trans hbody'))

/-- **What a read has to find to yield an envelope**: a whole frame at the front of the data,
however the stream comes in and goes on. -/
theorem read_eq_some_iff {max : Nat} {s : Source} (hs : s.Steady) {r : Received} :
    (read max s).1 = .ok (some r) ↔ BeginsWith max s.data r := by
  rw [beginsWith_iff]
  obtain ⟨plan, hplan, hheader⟩ := Source.fill_steady headerSize hs
  by_cases hlength : headerSize ≤ s.data.length
  · rw [if_pos hlength] at hheader
    rw [read, hheader]
    dsimp only
    by_cases hmax : max < Bytes.ofBigEndian (s.data.take headerSize)
    · rw [if_pos hmax]
      refine iff_of_false (fun h => ?_) fun h => absurd h.2.1 (Nat.not_le.mpr hmax)
      cases h
    rw [if_neg hmax]
    -- the header is there, and a body may be read
    obtain ⟨plan', hplan', hbody⟩ := Source.fill_steady
      (Bytes.ofBigEndian (s.data.take headerSize))
      (hs.of_suffix (s.data.drop headerSize) s.dry hplan)
    dsimp only at hbody
    rw [List.length_drop] at hbody
    rw [hbody]
    by_cases hwhole : Bytes.ofBigEndian (s.data.take headerSize) ≤ s.data.length - headerSize
    · rw [if_pos hwhole]
      dsimp only
      constructor
      · exact fun h => ⟨hlength, Nat.le_of_not_lt hmax, by omega, h⟩
      · exact fun h => h.2.2.2
    · rw [if_neg hwhole]
      refine iff_of_false (fun h => ?_) fun h => hwhole (by omega)
      cases hdry : s.dry <;> rw [hdry] at h <;> cases h
  · -- the data ends inside the header
    rw [if_neg hlength] at hheader
    rw [read, hheader]
    refine iff_of_false (fun h => ?_) fun h => hlength h.1
    cases hdry : s.dry with
    | stalled =>
      rw [hdry] at h
      cases h
    | ended =>
      rw [hdry] at h
      dsimp only [Dry.stop] at h
      split at h <;> cases h

-- ---------------------------------------------------------------------------
-- All whole frames
-- ---------------------------------------------------------------------------

/-- Up to so many whole frames at the front of the data, and what comes behind them. -/
def wholeUpTo (max : Nat) : Nat → Bytes → List Received × Bytes
  | 0, data => ([], data)
  | k + 1, data =>
    match parse max data with
    | (.ok (some r), taken) =>
      let (frames, rest) := wholeUpTo max k (data.drop taken)
      (r :: frames, rest)
    | _ => ([], data)

/-- The whole frames at the front of the data, none of which is shorter than a byte, and what comes
behind them. -/
def whole (max : Nat) (data : Bytes) : List Received × Bytes := wholeUpTo max data.length data

/-- What is read at the front is the whole frame that the data begins with. -/
theorem parse_eq_some_iff {max : Nat} {data : Bytes} {r : Received} :
    (parse max data).1 = .ok (some r) ↔ BeginsWith max data r := by
  obtain ⟨plan, -, hread⟩ := read_steady max (Source.steady_ofBytes data) rfl
  have hiff : (read max (Source.ofBytes data)).1 = .ok (some r) ↔ BeginsWith max data r :=
    read_eq_some_iff (Source.steady_ofBytes data)
  rwa [hread] at hiff

/-- A whole frame is taken with its header. -/
theorem parse_taken {max taken : Nat} {data : Bytes} {r : Received}
    (h : parse max data = (.ok (some r), taken)) :
    taken = headerSize + r.size ∧ taken ≤ data.length := by
  have hle := parse_taken_le max data
  rw [h] at hle
  refine ⟨?_, hle⟩
  unfold parse at h
  split at h
  · cases h
  split at h
  · cases h
  dsimp only at h
  split at h
  · cases h
  split at h
  · cases h
  · split at h <;> cases h
    rfl

/-- A frame takes some bytes at least. -/
theorem drop_taken_lt {max taken : Nat} {data : Bytes} {r : Received}
    (h : parse max data = (.ok (some r), taken)) : (data.drop taken).length < data.length := by
  obtain ⟨htaken, hle⟩ := parse_taken h
  rw [List.length_drop, htaken] at *
  unfold headerSize at *
  omega

/-- A read takes the whole frame that is at the front of a steady stream, whether that has ended or
not. -/
theorem read_of_parse {max taken : Nat} {s : Source} (hs : s.Steady) {r : Received}
    (h : parse max s.data = (.ok (some r), taken)) :
    ∃ plan, plan <:+ s.plan ∧
      read max s = (.ok (some r), ⟨s.data.drop taken, plan, s.dry⟩) := by
  obtain ⟨htaken, -⟩ := parse_taken h
  obtain ⟨hheader, hmax, hlength, hbody⟩ :=
    beginsWith_iff.mp (parse_eq_some_iff.mp (congrArg Prod.fst h))
  have hsize : r.size = Bytes.ofBigEndian (s.data.take headerSize) := by
    rw [(ofBody_eq_some_iff.mp hbody).2, List.length_take, List.length_drop]
    omega
  obtain ⟨plan, hplan, hfill⟩ := Source.fill_steady headerSize hs
  obtain ⟨plan', hplan', hfill'⟩ := Source.fill_steady
    (Bytes.ofBigEndian (s.data.take headerSize))
    (hs.of_suffix (s.data.drop headerSize) s.dry hplan)
  dsimp only at hplan' hfill'
  rw [if_pos (by rw [List.length_drop]; omega)] at hfill'
  refine ⟨plan', hplan'.trans hplan, ?_⟩
  rw [read, hfill, if_pos hheader]
  dsimp only
  rw [if_neg (Nat.not_lt.mpr hmax), hfill']
  dsimp only
  rw [hbody, List.drop_drop, htaken, hsize]

/-- The data begins with a frame that is refused whatever comes behind it: it is announced as too
large, or its body is there and holds no envelope of this protocol. -/
def Refused (max : Nat) (data : Bytes) : Prop :=
  headerSize ≤ data.length ∧
    let size := Bytes.ofBigEndian (data.take headerSize)
    (max < size ∨ headerSize + size ≤ data.length ∧
      ∃ e, ofBody ((data.drop headerSize).take size) = .error e)

/-- What is refused is not the end of the stream. -/
theorem Refused.ne_nil {max : Nat} {data : Bytes} (h : Refused max data) : data ≠ [] := by
  rintro rfl
  exact absurd h.1 (by decide)

/-- A read fails where a frame is refused, whether the steady stream has ended or not. -/
theorem read_of_refused {max : Nat} {s : Source} (hs : s.Steady) (h : Refused max s.data) :
    ∃ e k plan, plan <:+ s.plan ∧ read max s = (.error e, ⟨s.data.drop k, plan, s.dry⟩) := by
  obtain ⟨hheader, hrefused⟩ := h
  obtain ⟨plan, hplan, hfill⟩ := Source.fill_steady headerSize hs
  rw [if_pos hheader] at hfill
  by_cases hmax : max < Bytes.ofBigEndian (s.data.take headerSize)
  · refine ⟨.messageTooLarge (Bytes.ofBigEndian (s.data.take headerSize)) max, headerSize, plan,
      hplan, ?_⟩
    rw [read, hfill]
    dsimp only
    rw [if_pos hmax]
  · obtain ⟨hlength, e, hbody⟩ := hrefused.resolve_left hmax
    obtain ⟨plan', hplan', hfill'⟩ := Source.fill_steady
      (Bytes.ofBigEndian (s.data.take headerSize))
      (hs.of_suffix (s.data.drop headerSize) s.dry hplan)
    dsimp only at hplan' hfill'
    rw [if_pos (by rw [List.length_drop]; omega)] at hfill'
    refine ⟨e, headerSize + Bytes.ofBigEndian (s.data.take headerSize), plan',
      hplan'.trans hplan, ?_⟩
    rw [read, hfill]
    dsimp only
    rw [if_neg hmax, hfill']
    dsimp only
    rw [hbody, List.drop_drop]

/-- As long as there may be enough of them, it does not matter how many frames there may be. -/
theorem wholeUpTo_eq {max j k : Nat} {data : Bytes} (hj : data.length ≤ j)
    (hk : data.length ≤ k) : wholeUpTo max j data = wholeUpTo max k data := by
  have hnone (i : Nat) : wholeUpTo max i [] = ([], []) := by cases i <;> rfl
  induction j generalizing k data with
  | zero =>
    obtain rfl := List.eq_nil_of_length_eq_zero (Nat.le_zero.mp hj)
    rw [hnone, hnone]
  | succ j ih =>
    cases k with
    | zero =>
      obtain rfl := List.eq_nil_of_length_eq_zero (Nat.le_zero.mp hk)
      rw [hnone, hnone]
    | succ k =>
      rw [wholeUpTo, wholeUpTo]
      split
      · rename_i r taken h
        have hlt := drop_taken_lt h
        rw [ih (k := k) (by omega) (by omega)]
      · rfl

/-- A frame, and then those behind it. -/
theorem whole_of_some {max taken : Nat} {data : Bytes} {r : Received}
    (h : parse max data = (.ok (some r), taken)) :
    whole max data =
      (r :: (whole max (data.drop taken)).1, (whole max (data.drop taken)).2) := by
  have hlt := drop_taken_lt h
  obtain ⟨k, hk⟩ : ∃ k, data.length = k + 1 := ⟨data.length - 1, by omega⟩
  have hrest : wholeUpTo max k (data.drop taken) = whole max (data.drop taken) :=
    wholeUpTo_eq (by omega) (Nat.le_refl _)
  rw [whole, hk, wholeUpTo, h]
  dsimp only
  rw [hrest]

/-- No whole frame comes next. -/
theorem whole_of_none {max : Nat} {data : Bytes}
    (h : ∀ r, (parse max data).1 ≠ .ok (some r)) : whole max data = ([], data) := by
  unfold whole
  cases data.length with
  | zero => rfl
  | succ k =>
    rw [wholeUpTo]
    split
    · rename_i r taken heq
      exact absurd (congrArg Prod.fst heq) (h r)
    · rfl

/-- The first frame is what is parsed next. -/
theorem parse_of_whole_cons {max : Nat} {data rest : Bytes} {r : Received}
    {frames : List Received} (h : whole max data = (r :: frames, rest)) :
    ∃ taken, parse max data = (.ok (some r), taken) ∧
      whole max (data.drop taken) = (frames, rest) := by
  by_cases hsome : ∃ r', (parse max data).1 = .ok (some r')
  · obtain ⟨r', hr'⟩ := hsome
    have hparse : parse max data = (.ok (some r'), (parse max data).2) := Prod.ext hr' rfl
    rw [whole_of_some hparse] at h
    obtain ⟨hcons, hrest⟩ := Prod.mk.inj h
    obtain ⟨rfl, hframes⟩ := List.cons.inj hcons
    exact ⟨_, hparse, Prod.ext hframes hrest⟩
  · rw [whole_of_none fun r' hr' => hsome ⟨r', hr'⟩] at h
    cases h

/-- Where there is no frame any more, there is nothing at all, or it is refused. -/
theorem parse_of_whole_nil {max : Nat} {data rest : Bytes} (h : whole max data = ([], rest)) :
    rest = data ∧ (rest = [] ∧ (parse max data).1 = .ok none ∨
      rest ≠ [] ∧ ∃ e, (parse max data).1 = .error e) := by
  have hnot (r : Received) : (parse max data).1 ≠ .ok (some r) := by
    intro hr
    rw [whole_of_some (Prod.ext hr rfl)] at h
    cases h
  rw [whole_of_none hnot] at h
  obtain ⟨-, rfl⟩ := Prod.mk.inj h
  refine ⟨rfl, ?_⟩
  by_cases hnil : data = []
  · subst hnil
    exact .inl ⟨rfl, rfl⟩
  · refine .inr ⟨hnil, ?_⟩
    rw [parse, if_neg hnil] at hnot ⊢
    split_ifs at hnot ⊢ with hheader
    · exact ⟨_, rfl⟩
    dsimp only at hnot ⊢
    split_ifs at hnot ⊢ with hmax hbody
    · exact ⟨_, rfl⟩
    · exact ⟨_, rfl⟩
    · split at hnot
      · exact absurd rfl (hnot _)
      · exact ⟨_, rfl⟩

/-- **The longest part of the data that is whole frames**: the bodies that these hold, each behind
its length, and then something that does not begin with another one. -/
theorem whole_spec (max : Nat) (data : Bytes) :
    ∃ bodies : List Bytes,
      data = (bodies.map fun body => Bytes.bigEndian headerSize body.length ++ body).flatten ++
        (whole max data).2 ∧
      List.Forall₂ (fun body r => body.length ≤ max ∧ body.length < UInt32.size ∧
        ofBody body = .ok (some r)) bodies (whole max data).1 ∧
      ∀ r, ¬ BeginsWith max (whole max data).2 r := by
  -- every frame that is taken leaves less of the data
  induction hm : data.length using Nat.strongRecOn generalizing data with
  | _ m ih =>
    by_cases hsome : ∃ r, (parse max data).1 = .ok (some r)
    · obtain ⟨r, hr⟩ := hsome
      have hparse : parse max data = (.ok (some r), (parse max data).2) := Prod.ext hr rfl
      have htaken := (parse_taken hparse).1
      obtain ⟨body, rest, hdata, hmax, hlt, hsize, hbody⟩ := parse_eq_some_iff.mp hr
      have hframe : (Bytes.bigEndian headerSize body.length ++ body).length =
          (parse max data).2 := by
        rw [htaken, hsize, List.length_append, Bytes.length_bigEndian]
      have hdrop : data.drop (parse max data).2 = rest := by
        rw [← hframe]
        exact hdata ▸ List.drop_left
      obtain ⟨bodies, hrest, hbodies, hno⟩ := ih _ (hm ▸ drop_taken_lt hparse) _ rfl
      rw [hdrop] at hrest hbodies hno
      rw [whole_of_some hparse, hdrop]
      refine ⟨body :: bodies, ?_, .cons ⟨hmax, hlt, ofBody_eq_some_iff.mpr ⟨hbody, hsize⟩⟩ hbodies,
        hno⟩
      rw [List.map_cons, List.flatten_cons, List.append_assoc, ← hrest]
      exact hdata
    · have hnot (r : Received) : (parse max data).1 ≠ .ok (some r) := fun hr => hsome ⟨r, hr⟩
      rw [whole_of_none hnot]
      exact ⟨[], rfl, .nil, fun r hr => hnot r (parse_eq_some_iff.mpr hr)⟩

end Courier.Frame
