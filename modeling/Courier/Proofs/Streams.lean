import Courier.Envelope.Stream

/-!
# Courier — reading a stream in pieces

A source is honest when no read is planned to pretend that it is at its end. A buffer is filled from
an honest source as from the bare bytes, however the reads are split, unless a read fails; the bytes
that were read before the failure are then gone from the source. A source is steady when its plan
holds short reads and interruptions only, so that no read fails for good.

* `Source.read_cases` — what one read of an honest source can do;
* `Source.fill_honest` — what filling a buffer from an honest source yields;
* `Source.fill_steady` — from a steady one.
-/

namespace Courier

/-- The read moves on, or is to be repeated. -/
def ReadStep.IsSteady : ReadStep → Prop
  | .atMost n => n ≠ 0
  | .fails f => f.kind = .interrupted

/-- Why a buffer is not full when there is no more data. -/
def Dry.stop : Dry → Stop
  | .ended => .ended
  | .stalled => .failed (.ofKind .wouldBlock)

namespace Source

/-- Only short reads and interruptions are planned. -/
def Steady (s : Source) : Prop := ∀ step ∈ s.plan, step.IsSteady

/-- A stream without a plan is steady. -/
theorem steady_ofBytes (data : Bytes) : (ofBytes data).Steady := by
  intro step hstep
  cases hstep

/-- What is left of a steady plan is steady. -/
theorem Steady.of_suffix {s : Source} (h : s.Steady) (data : Bytes) (dry : Dry)
    {plan : List ReadStep} (hplan : plan <:+ s.plan) : (⟨data, plan, dry⟩ : Source).Steady :=
  fun step hstep => h step (hplan.subset hstep)

/-- No read is planned to pretend that the stream is at its end. -/
def Honest (s : Source) : Prop := .atMost 0 ∉ s.plan

/-- A steady stream does not claim to end before it does. -/
theorem Steady.honest {s : Source} (h : s.Steady) : s.Honest := fun hzero => h _ hzero rfl

/-- What is left of an honest plan is honest. -/
theorem Honest.of_suffix {s : Source} (h : s.Honest) (data : Bytes) (dry : Dry)
    {plan : List ReadStep} (hplan : plan <:+ s.plan) : (⟨data, plan, dry⟩ : Source).Honest :=
  fun hzero => h (hplan.subset hzero)

/-- One read of an honest source fails as planned, meets no data, or yields some of the data. -/
theorem read_cases {want : Nat} (hwant : want ≠ 0) {s : Source} (h : s.Honest) :
    ∃ plan, plan <:+ s.plan ∧
      ((∃ f, .fails f ∈ s.plan ∧ plan.length < s.plan.length ∧
          s.read want = (.error f, ⟨s.data, plan, s.dry⟩)) ∨
        (s.data = [] ∧ s.read want = (whenDry s.dry, ⟨[], plan, s.dry⟩)) ∨
        (∃ k, k ≠ 0 ∧ k ≤ want ∧ k ≤ s.data.length ∧
          s.read want = (.ok (s.data.take k), ⟨s.data.drop k, plan, s.dry⟩))) := by
  obtain ⟨data, plan, dry⟩ := s
  -- some data is there: a read of at most `m` bytes yields `min m data.length` of them
  have hsome : ∀ m, m ≠ 0 → m ≤ want → data ≠ [] → ∃ k, k ≠ 0 ∧ k ≤ want ∧ k ≤ data.length ∧
      data.take m = data.take k ∧ data.drop m = data.drop k := by
    intro m hm hmw hdata
    have hpos : 0 < data.length := List.length_pos_iff.mpr hdata
    refine ⟨min m data.length, by omega, by omega, by omega, ?_, ?_⟩
    · rw [← List.take_take, List.take_of_length_le (Nat.le_refl data.length)]
    · rcases Nat.le_total m data.length with hle | hle
      · rw [Nat.min_eq_left hle]
      · rw [Nat.min_eq_right hle, List.drop_length, List.drop_of_length_le hle]
  match plan, h with
  | [], _ =>
    refine ⟨[], List.suffix_rfl, ?_⟩
    by_cases hdata : data = []
    · subst hdata
      exact .inr (.inl ⟨rfl, rfl⟩)
    · obtain ⟨k, hk, hkw, hkl, htake, hdrop⟩ := hsome want hwant (Nat.le_refl _) hdata
      exact .inr (.inr ⟨k, hk, hkw, hkl, by simp [read, hdata, htake, hdrop]⟩)
  | .fails f :: plan, _ =>
    exact ⟨plan, List.suffix_cons _ _, .inl ⟨f, List.mem_cons_self .., Nat.lt_succ_self _, rfl⟩⟩
  | .atMost n :: plan, h =>
    have hn : n ≠ 0 := by
      rintro rfl
      exact h (List.mem_cons_self ..)
    refine ⟨plan, List.suffix_cons _ _, ?_⟩
    by_cases hdata : data = []
    · subst hdata
      exact .inr (.inl ⟨rfl, by simp [read, hn]⟩)
    · obtain ⟨k, hk, hkw, hkl, htake, hdrop⟩ := hsome (min want n) (by omega) (by omega) hdata
      exact .inr (.inr ⟨k, hk, hkw, hkl, by simp [read, hn, hdata, htake, hdrop]⟩)

/-! ## Filling a buffer -/

/-- After an interruption reading goes on. -/
theorem fill_of_interrupted {n : Nat} {s s' : Source} {f : IoFailure} (hn : n ≠ 0)
    (h : s.read n = (.error f, s')) (hf : f.kind = .interrupted) : s.fill n = s'.fill n := by
  rw [fill, if_neg hn]
  split
  next heq => rw [h] at heq; cases heq
  next heq => rw [h] at heq; cases heq
  next heq => rw [h] at heq; cases heq; rw [if_pos hf]

/-- After any other failure it stops. -/
theorem fill_of_failed {n : Nat} {s s' : Source} {f : IoFailure} (hn : n ≠ 0)
    (h : s.read n = (.error f, s')) (hf : f.kind ≠ .interrupted) :
    s.fill n = ([], some (.failed f), s') := by
  rw [fill, if_neg hn]
  split
  next heq => rw [h] at heq; cases heq
  next heq => rw [h] at heq; cases heq
  next heq => rw [h] at heq; cases heq; rw [if_neg hf]

/-- It stops at the end of the stream. -/
theorem fill_of_end {n : Nat} {s s' : Source} (hn : n ≠ 0) (h : s.read n = (.ok [], s')) :
    s.fill n = ([], some .ended, s') := by
  rw [fill, if_neg hn]
  split
  next heq => rw [h] at heq; cases heq; rfl
  next heq => rw [h] at heq; cases heq
  next heq => rw [h] at heq; cases heq

/-- What one read yields is put before what the others do. -/
theorem fill_of_read {n : Nat} {s s' : Source} {bs : Bytes} (hn : n ≠ 0) (hbs : bs ≠ [])
    (h : s.read n = (.ok bs, s')) :
    s.fill n = (bs ++ (s'.fill (n - bs.length)).1, (s'.fill (n - bs.length)).2) := by
  rw [fill, if_neg hn]
  split
  next heq => rw [h] at heq; cases heq; exact absurd rfl hbs
  next heq => rw [h] at heq; cases heq; rfl
  next heq => rw [h] at heq; cases heq

/-- A buffer is filled from the front of the data of an honest source, or takes all of it when there
is too little, or a read fails and the bytes read before are gone. -/
theorem fill_honest (n : Nat) {s : Source} (h : s.Honest) :
    ∃ plan, plan <:+ s.plan ∧
      ((s.fill n =
          if n ≤ s.data.length then (s.data.take n, none, ⟨s.data.drop n, plan, s.dry⟩)
          else (s.data, some s.dry.stop, ⟨[], plan, s.dry⟩)) ∨
        ∃ f k, .fails f ∈ s.plan ∧ f.kind ≠ .interrupted ∧ plan.length < s.plan.length ∧
          k ≤ s.data.length ∧
          s.fill n = (s.data.take k, some (.failed f), ⟨s.data.drop k, plan, s.dry⟩)) := by
  -- every read shortens the buffer or, when it is interrupted, the plan
  induction hm : n + s.plan.length using Nat.strongRecOn generalizing n s with
  | _ m ih =>
    by_cases hn : n = 0
    · subst hn
      exact ⟨s.plan, List.suffix_rfl, .inl (by simp [fill])⟩
    · obtain ⟨plan, hplan, hcases⟩ := read_cases hn h
      have hle : plan.length ≤ s.plan.length := hplan.length_le
      -- an interrupted read is tried again, one that fails or meets no data is the last one, and
      -- what a read yields is followed by what fills the rest of the buffer
      rcases hcases with ⟨f, hmem, hlt, hread⟩ | ⟨hdata, hread⟩ | ⟨k, hk, hkn, hkl, hread⟩
      · by_cases hf : f.kind = .interrupted
        · obtain ⟨plan', hplan', hfill⟩ := ih (n + plan.length) (by omega) n
            (h.of_suffix s.data s.dry hplan) rfl
          rw [fill_of_interrupted hn hread hf]
          refine ⟨plan', hplan'.trans hplan, hfill.imp_right ?_⟩
          rintro ⟨f', k, hmem', hf', hlt', hrest⟩
          exact ⟨f', k, hplan.subset hmem', hf', Nat.lt_trans hlt' hlt, hrest⟩
        · exact ⟨plan, hplan,
            .inr ⟨f, 0, hmem, hf, hlt, Nat.zero_le _, fill_of_failed hn hread hf⟩⟩
      · refine ⟨plan, hplan, .inl ?_⟩
        have hlen : ¬ n ≤ s.data.length := by
          rw [hdata, List.length_nil]
          omega
        rw [if_neg hlen, hdata]
        cases hdry : s.dry with
        | ended =>
          rw [hdry] at hread
          exact fill_of_end hn hread
        | stalled =>
          rw [hdry] at hread
          exact fill_of_failed hn hread (by decide)
      · have htake : (s.data.take k).length = k := by rw [List.length_take]; omega
        have hne : s.data.take k ≠ [] := by
          intro hnil
          rw [hnil, List.length_nil] at htake
          exact hk htake.symm
        obtain ⟨plan', hplan', hfill⟩ := ih (n - k + plan.length) (by omega) (n - k)
          (h.of_suffix (s.data.drop k) s.dry hplan) rfl
        refine ⟨plan', hplan'.trans hplan, ?_⟩
        rw [fill_of_read hn hne hread, htake]
        rcases hfill with hfill | ⟨f, j, hmem, hf, hlt, hjl, hfill⟩
        · left
          rw [hfill]
          dsimp only
          rw [List.length_drop]
          by_cases hlen : n ≤ s.data.length
          · rw [if_pos hlen, if_pos (by omega), List.drop_drop, ← List.take_add,
              show k + (n - k) = n by omega]
          · rw [if_neg hlen, if_neg (by omega), List.take_append_drop]
        · dsimp only at hjl hfill
          rw [List.length_drop] at hjl
          refine .inr ⟨f, k + j, hplan.subset hmem, hf, Nat.lt_of_lt_of_le hlt hle, by omega, ?_⟩
          rw [hfill, List.drop_drop, ← List.take_add]

/-- A buffer is filled from the front of the data of a steady source, or takes all of it when there
is too little. -/
theorem fill_steady (n : Nat) {s : Source} (h : s.Steady) :
    ∃ plan, plan <:+ s.plan ∧ s.fill n =
      if n ≤ s.data.length then (s.data.take n, none, ⟨s.data.drop n, plan, s.dry⟩)
      else (s.data, some s.dry.stop, ⟨[], plan, s.dry⟩) := by
  obtain ⟨plan, hplan, hfill | ⟨f, k, hmem, hf, -⟩⟩ := fill_honest n h.honest
  · exact ⟨plan, hplan, hfill⟩
  -- whatever fails in a steady plan is an interruption
  · exact absurd (h _ hmem) hf

end Source

end Courier
