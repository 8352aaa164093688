import Courier.Link.Metrics
import Mathlib.Algebra.GroupWithZero.Nat
import Mathlib.Data.Finset.Sort

/-!
# Courier — counters are sums over what was counted

However long a connection lives and in whatever order its traffic is counted, its counters are sums
over a history of samples: the totals over all samples of a direction, and those of the last minutes
over all samples of the last minutes that saw traffic. A minute that was forgotten may come once
more, when a sample is late: it is counted anew and forgotten at once, because there are still
enough later ones. That makes forgetting early as good as forgetting at the end
(`take_countIn_take`), and what nobody forgets is easily told (`Series.Complete`).

* `Sample`, `Metrics.ofSamples` — a history and what is counted of it;
* `Sample.total`, `Sample.largest` — sums over samples, and the largest of some numbers;
* `Metrics.sums_over_history` — what all counters are.
-/

namespace Courier

/-- Whether a message was sent or received. -/
inductive Way where
  | sent
  | received
deriving DecidableEq, Repr

/-- A message to be counted: its size, when it was sent or received, and how long that took. -/
structure Sample where
  way : Way
  bytes : Nat
  spentUs : Nat
  /-- In milliseconds since the connection began. -/
  atMs : Int
deriving DecidableEq, Repr

namespace Metrics

/-- The traffic of one direction. -/
def series : Way → Metrics → Series
  | .sent, m => m.sent
  | .received, m => m.received

def count (r : Sample) (m : Metrics) : Metrics :=
  match r.way with
  | .sent => m.recordSent r.bytes r.spentUs r.atMs
  | .received => m.recordReceived r.bytes r.spentUs r.atMs

/-- The counters after a history, told in the order in which it was counted. -/
def ofSamples (rs : List Sample) : Metrics := rs.foldl (fun m r => m.count r) .empty

end Metrics

-- ---------------------------------------------------------------------------
-- Sums over samples
-- ---------------------------------------------------------------------------

namespace Sample

/-- The minute of the connection, the first one for what comes before its beginning. -/
def minute (r : Sample) : Nat := Metrics.age r.atMs / Metrics.minuteMs

def timeMs (r : Sample) : Nat := r.spentUs / 1000

/-- The samples of a direction. -/
def going (way : Way) (rs : List Sample) : List Sample := rs.filter fun r => r.way = way

/-- The sums over some samples. -/
def total (rs : List Sample) : Counters :=
  ⟨(rs.map bytes).sum, rs.length, (rs.map timeMs).sum⟩

/-- The minutes with traffic. -/
def busyMinutes (rs : List Sample) : Finset Nat := (rs.map minute).toFinset

/-- The `k` largest of some numbers, the largest one first. -/
def largest (k : Nat) (s : Finset Nat) : List Nat := (s.sort (· ≥ ·)).take k

/-- Totals are added up. -/
theorem total_append (rs rs' : List Sample) : total (rs ++ rs') = (total rs).add (total rs') := by
  simp [total, Counters.add]

/-- A further sample is counted in. -/
theorem total_concat (rs : List Sample) (r : Sample) :
    total (rs ++ [r]) = (total rs).count r.bytes r.timeMs := by
  simp [total, Counters.count]

/-- The order does not matter to a total. -/
theorem total_perm {rs rs' : List Sample} (h : rs.Perm rs') : total rs = total rs' := by
  rw [total, total, (h.map bytes).sum_nat, h.length_eq, (h.map timeMs).sum_nat]

/-- The samples of a minute, and those of other minutes, together. -/
theorem total_filter_cons {m : Nat} {ms : List Nat} (h : m ∉ ms) (rs : List Sample) :
    total (rs.filter fun r => r.minute ∈ m :: ms) =
      (total (rs.filter fun r => r.minute = m)).add (total (rs.filter fun r => r.minute ∈ ms)) := by
  rw [← total_append]
  apply total_perm
  induction rs with
  | nil => exact .nil
  | cons r rs ih =>
    by_cases hm : r.minute = m
    · simpa [hm, h] using ih
    · by_cases hms : r.minute ∈ ms
      · simpa [hm, hms] using (ih.cons r).trans List.perm_middle.symm
      · simpa [hm, hms] using ih

end Sample

open Sample

-- ---------------------------------------------------------------------------
-- Forgetting early
-- ---------------------------------------------------------------------------

namespace Series

/-- What is forgotten before a sample is counted would be forgotten afterwards. -/
theorem take_countIn_take (minute bytes timeMs : Nat) (k : Nat) (l : List (Nat × Counters)) :
    (countIn minute bytes timeMs (l.take k)).take k = (countIn minute bytes timeMs l).take k := by
  induction l generalizing k with
  | nil => rw [List.take_nil]
  | cons e l ih =>
    cases k with
    | zero => rw [List.take_zero, List.take_zero]
    | succ k =>
      obtain ⟨m, c⟩ := e
      rw [List.take_succ_cons, countIn, countIn]
      split
      · have hmin : (((m, c) :: l).take (k + 1)).take k = ((m, c) :: l).take k := by
          rw [List.take_take, Nat.min_eq_left (Nat.le_succ k)]
        exact congrArg (List.cons _) hmin
      · split
        · rw [List.take_succ_cons, List.take_succ_cons, List.take_take, Nat.min_self]
        · rw [List.take_succ_cons, List.take_succ_cons, ih]

/-- The minutes of a history if none of them was forgotten. -/
def remembered (rs : List Sample) : List (Nat × Counters) :=
  rs.foldl (fun l r => countIn r.minute r.bytes r.timeMs l) []

/-- Minutes that are dropped early would be dropped in the end. -/
theorem minutes_foldl_record (rs : List Sample) (s : Series) (l : List (Nat × Counters))
    (h : s.minutes = l.take maxMinutes) :
    (rs.foldl (fun s r => s.record r.minute r.bytes r.timeMs) s).minutes =
      (rs.foldl (fun l r => countIn r.minute r.bytes r.timeMs l) l).take maxMinutes := by
  induction rs generalizing s l with
  | nil => exact h
  | cons r rs ih =>
    rw [List.foldl_cons, List.foldl_cons]
    apply ih
    rw [record, h]
    exact take_countIn_take ..

/-- No total forgets what was recorded. -/
theorem totals_foldl_record (rs : List Sample) (s : Series) (rs' : List Sample)
    (h : s.totals = total rs') :
    (rs.foldl (fun s r => s.record r.minute r.bytes r.timeMs) s).totals = total (rs' ++ rs) := by
  induction rs generalizing s rs' with
  | nil => rw [List.append_nil]; exact h
  | cons r rs ih =>
    rw [List.foldl_cons, ih (s.record ..) (rs' ++ [r])]
    · rw [List.append_assoc, List.singleton_append]
    · rw [record, h, total_concat]

-- ---------------------------------------------------------------------------
-- What nobody forgets
-- ---------------------------------------------------------------------------

/-- The minutes of some samples, latest first, each with its sums. -/
structure Complete (rs : List Sample) (l : List (Nat × Counters)) : Prop where
  latestFirst : (l.map (·.1)).Pairwise (· > ·)
  mem_iff : ∀ m, m ∈ l.map (·.1) ↔ ∃ r ∈ rs, r.minute = m
  sums : ∀ e ∈ l, e.2 = total (rs.filter fun r => r.minute = e.1)

/-- A sample opens its minute, if it is not there. -/
theorem mem_keys_countIn {minute bytes timeMs m : Nat} {l : List (Nat × Counters)} :
    m ∈ (countIn minute bytes timeMs l).map (·.1) ↔ m = minute ∨ m ∈ l.map (·.1) := by
  induction l with
  | nil => simp [countIn]
  | cons e l ih =>
    obtain ⟨m', c⟩ := e
    rw [countIn]
    split
    · simp
    · split
      · rename_i heq
        simp [heq]
      · rw [List.map_cons, List.mem_cons, ih, List.map_cons, List.mem_cons]
        exact or_left_comm

/-- Minutes stay in order, the latest first. -/
theorem latestFirst_countIn {minute bytes timeMs : Nat} {l : List (Nat × Counters)}
    (h : (l.map (·.1)).Pairwise (· > ·)) :
    ((countIn minute bytes timeMs l).map (·.1)).Pairwise (· > ·) := by
  induction l with
  | nil => exact List.pairwise_singleton _ _
  | cons e l ih =>
    obtain ⟨m, c⟩ := e
    have htail := List.pairwise_cons.mp h
    rw [countIn]
    split
    · rename_i hlt
      refine List.pairwise_cons.mpr ⟨fun m' hm' => ?_, h⟩
      rcases List.mem_cons.mp hm' with rfl | hm'
      · exact hlt
      · exact Nat.lt_trans (htail.1 m' hm') hlt
    · split
      · exact h
      · refine List.pairwise_cons.mpr ⟨fun m' hm' => ?_, ih htail.2⟩
        rcases mem_keys_countIn.mp hm' with rfl | hm'
        · show m' < m
          omega
        · exact htail.1 m' hm'

/-- An entry that is there after a sample was counted was there before, unless it is that of the
minute of the sample, which counts one message more. -/
theorem mem_countIn {minute bytes timeMs : Nat} {l : List (Nat × Counters)}
    (h : (l.map (·.1)).Pairwise (· > ·)) {e : Nat × Counters}
    (he : e ∈ countIn minute bytes timeMs l) :
    (e ∈ l ∧ e.1 ≠ minute) ∨
      (e.1 = minute ∧ ((∃ c, (minute, c) ∈ l ∧ e.2 = c.count bytes timeMs) ∨
        (minute ∉ l.map (·.1) ∧ e.2 = Counters.zero.count bytes timeMs))) := by
  induction l with
  | nil =>
    obtain rfl := List.mem_singleton.mp he
    exact .inr ⟨rfl, .inr ⟨List.not_mem_nil, rfl⟩⟩
  | cons e' l ih =>
    obtain ⟨m, c⟩ := e'
    have htail := List.pairwise_cons.mp h
    rw [countIn] at he
    split at he
    · rename_i hlt
      -- all minutes are earlier than that of the sample
      have hearlier : ∀ x ∈ (m, c) :: l, x.1 < minute := by
        intro x hx
        rcases List.mem_cons.mp hx with rfl | hx
        · exact hlt
        · exact Nat.lt_trans (htail.1 x.1 (List.mem_map_of_mem hx)) hlt
      rcases List.mem_cons.mp he with rfl | he
      · refine .inr ⟨rfl, .inr ⟨fun hmem => ?_, rfl⟩⟩
        obtain ⟨x, hx, hxm⟩ := List.mem_map.mp hmem
        exact absurd hxm (Nat.ne_of_lt (hearlier x hx))
      · exact .inl ⟨he, Nat.ne_of_lt (hearlier e he)⟩
    · split at he
      · rename_i heq
        subst heq
        rcases List.mem_cons.mp he with rfl | he
        · exact .inr ⟨rfl, .inl ⟨c, List.mem_cons_self .., rfl⟩⟩
        · exact .inl ⟨List.mem_cons_of_mem _ he,
            Nat.ne_of_lt (htail.1 e.1 (List.mem_map_of_mem he))⟩
      · rename_i hge hne
        rcases List.mem_cons.mp he with rfl | he
        · exact .inl ⟨List.mem_cons_self .., hne⟩
        · rcases ih htail.2 he with ⟨he, hem⟩ | ⟨hem, ⟨c', hc', hec⟩ | ⟨hnew, hec⟩⟩
          · exact .inl ⟨List.mem_cons_of_mem _ he, hem⟩
          · exact .inr ⟨hem, .inl ⟨c', List.mem_cons_of_mem _ hc', hec⟩⟩
          · refine .inr ⟨hem, .inr ⟨fun hmem => ?_, hec⟩⟩
            rcases List.mem_cons.mp hmem with hmem | hmem
            · exact hne hmem.symm
            · exact hnew hmem

/-- One sample more. -/
theorem Complete.count {rs : List Sample} {l : List (Nat × Counters)} (h : Complete rs l)
    (r : Sample) : Complete (rs ++ [r]) (countIn r.minute r.bytes r.timeMs l) where
  latestFirst := latestFirst_countIn h.latestFirst
  mem_iff m := by
    rw [mem_keys_countIn, h.mem_iff]
    simp only [List.mem_append, List.mem_singleton, or_and_right, exists_or, exists_eq_left,
      eq_comm (a := m)]
    exact or_comm
  sums e he := by
    rw [List.filter_append]
    rcases mem_countIn h.latestFirst he with ⟨he, hem⟩ | ⟨hem, ⟨c, hc, hec⟩ | ⟨hnew, hec⟩⟩
    · rw [h.sums e he, List.filter_cons_of_neg (by simpa using Ne.symm hem), List.filter_nil,
        List.append_nil]
    · have hsums : c = total (rs.filter fun r' => r'.minute = r.minute) := h.sums _ hc
      rw [hec, hsums, hem, List.filter_cons_of_pos (by simp), List.filter_nil, total_concat]
    · -- there was no sample of this minute before
      have hnone : (rs.filter fun r' => r'.minute = r.minute) = [] := by
        refine List.filter_eq_nil_iff.mpr fun r' hr' hm => hnew ?_
        exact (h.mem_iff r.minute).mpr ⟨r', hr', of_decide_eq_true hm⟩
      rw [hec, hem, hnone, List.filter_cons_of_pos (by simp), List.filter_nil]
      exact (total_concat [] r).symm

/-- A series that drops nothing has every minute with what was counted in it. -/
theorem remembered_complete (rs : List Sample) : Complete rs (remembered rs) := by
  induction rs using List.reverseRecOn with
  | nil => exact ⟨List.Pairwise.nil, fun m => by simp [remembered], fun _ h => nomatch h⟩
  | append_singleton rs r ih =>
    rw [remembered, List.foldl_append]
    exact ih.count r

/-- The samples leave nothing open. -/
theorem Complete.eq {rs : List Sample} {l : List (Nat × Counters)} (h : Complete rs l) :
    l = ((busyMinutes rs).sort (· ≥ ·)).map fun m =>
      (m, total (rs.filter fun r => r.minute = m)) := by
  have hkeys : (busyMinutes rs).sort (· ≥ ·) = l.map (·.1) := by
    have hset : busyMinutes rs = (l.map (·.1)).toFinset := by
      ext m
      rw [busyMinutes, List.mem_toFinset, List.mem_toFinset, h.mem_iff, List.mem_map]
    rw [hset, List.toFinset_sort (· ≥ ·) (h.latestFirst.imp Nat.ne_of_gt)]
    exact h.latestFirst.imp Nat.le_of_lt
  rw [hkeys, List.map_map]
  conv_lhs => rw [← List.map_id l]
  exact List.map_congr_left fun e he => Prod.ext rfl (h.sums e he)

/-- Sums of different minutes add up to the sums over all of them. -/
theorem foldl_add_sums (rs : List Sample) {ms : List Nat} (h : ms.Nodup) (c : Counters) :
    (ms.map fun m => (m, total (rs.filter fun r => r.minute = m))).foldl
        (fun sum e => sum.add e.2) c =
      c.add (total (rs.filter fun r => r.minute ∈ ms)) := by
  induction ms generalizing c with
  | nil => simp [total, Counters.add]
  | cons m ms ih =>
    obtain ⟨hm, hms⟩ := List.nodup_cons.mp h
    rw [List.map_cons, List.foldl_cons, ih hms, total_filter_cons hm]
    simp [Counters.add, Nat.add_assoc]

end Series

-- ---------------------------------------------------------------------------
-- All counters
-- ---------------------------------------------------------------------------

namespace Metrics

/-- Either direction counts its own samples. -/
theorem series_foldl_count (way : Way) (rs : List Sample) (m : Metrics) :
    (rs.foldl (fun m r => m.count r) m).series way =
      (going way rs).foldl (fun s r => s.record r.minute r.bytes r.timeMs) (m.series way) := by
  induction rs generalizing m with
  | nil => rfl
  | cons r rs ih =>
    rw [List.foldl_cons, ih, going, going, List.filter_cons]
    obtain ⟨way', bytes, spentUs, atMs⟩ := r
    cases way <;> cases way' <;> rfl

/-- A series is the latest minutes of what it would remember, and the total of all. -/
theorem series_ofSamples (way : Way) (rs : List Sample) :
    (ofSamples rs).series way =
      ⟨(Series.remembered (going way rs)).take Series.maxMinutes, total (going way rs)⟩ := by
  have hempty : Metrics.empty.series way = Series.empty := by cases way <;> rfl
  rw [ofSamples, series_foldl_count, hempty]
  have hminutes := Series.minutes_foldl_record (going way rs) .empty [] rfl
  have htotals := Series.totals_foldl_record (going way rs) .empty [] rfl
  rw [List.nil_append] at htotals
  rw [Series.remembered, ← hminutes, ← htotals]

/-- The last update is the latest one. -/
theorem lastUpdateMs_foldl_count (rs : List Sample) (m : Metrics) :
    (rs.foldl (fun m r => m.count r) m).lastUpdateMs =
      max m.lastUpdateMs ((rs.map fun r => age r.atMs).foldr max 0) := by
  induction rs generalizing m with
  | nil => simp
  | cons r rs ih =>
    have hcount : (m.count r).lastUpdateMs = max m.lastUpdateMs (age r.atMs) := by
      obtain ⟨way, bytes, spentUs, atMs⟩ := r
      cases way <;> rfl
    rw [List.foldl_cons, ih, hcount, List.map_cons, List.foldr_cons, Nat.max_assoc]

/-- Samples of traffic are no round trips. -/
theorem roundTrips_foldl_count (rs : List Sample) (m : Metrics) :
    (rs.foldl (fun m r => m.count r) m).roundTrips = m.roundTrips := by
  induction rs generalizing m with
  | nil => rfl
  | cons r rs ih =>
    obtain ⟨way, bytes, spentUs, atMs⟩ := r
    rw [List.foldl_cons, ih]
    cases way <;> rfl

/-- The counters of the last minutes with traffic. -/
theorem last_ofSamples (way : Way) (n : Nat) (rs : List Sample) :
    ((ofSamples rs).series way).last n =
      total ((going way rs).filter fun r =>
        r.minute ∈ largest (min n Series.maxMinutes) (busyMinutes (going way rs))) := by
  have hnodup : (largest (min n Series.maxMinutes) (busyMinutes (going way rs))).Nodup :=
    (Finset.sort_nodup _ _).sublist (List.take_sublist ..)
  rw [series_ofSamples, Series.last, (Series.remembered_complete _).eq, List.take_take,
    ← List.map_take, ← largest, Series.foldl_add_sums _ hnodup]
  simp [Counters.add, Counters.zero]

/-- The order of the samples does not matter to a series. -/
theorem series_congr {way : Way} {rs rs' : List Sample} (h : (going way rs).Perm (going way rs')) :
    (ofSamples rs).series way = (ofSamples rs').series way := by
  have hminutes : busyMinutes (going way rs) = busyMinutes (going way rs') :=
    List.toFinset_eq_of_perm _ _ (h.map minute)
  rw [series_ofSamples, series_ofSamples, (Series.remembered_complete _).eq,
    (Series.remembered_complete _).eq, hminutes, total_perm h]
  simp only [total_perm (h.filter _)]

/-- Counters tell nothing of the order in which samples were counted. -/
theorem ofSamples_perm {rs rs' : List Sample} (h : rs.Perm rs') : ofSamples rs = ofSamples rs' := by
  have hway (way : Way) : (ofSamples rs).series way = (ofSamples rs').series way :=
    series_congr (h.filter _)
  have hsent : (ofSamples rs).sent = (ofSamples rs').sent := hway .sent
  have hreceived : (ofSamples rs).received = (ofSamples rs').received := hway .received
  have hlast : (ofSamples rs).lastUpdateMs = (ofSamples rs').lastUpdateMs := by
    rw [ofSamples, ofSamples, lastUpdateMs_foldl_count, lastUpdateMs_foldl_count,
      (h.map fun r => age r.atMs).foldr_eq]
  have htrips : (ofSamples rs).roundTrips = (ofSamples rs').roundTrips := by
    rw [ofSamples, ofSamples, roundTrips_foldl_count, roundTrips_foldl_count]
  show (⟨(ofSamples rs).sent, (ofSamples rs).received, (ofSamples rs).lastUpdateMs,
    (ofSamples rs).roundTrips⟩ : Metrics) = _
  rw [hsent, hreceived, hlast, htrips]

/-- **Counters are sums over the history of a connection**: the totals over all that went in a
direction, and those of the last minutes over all that went there in the largest minutes that were
ever counted, however late it was counted. The last traffic is the latest of all. So the order in
which samples are counted does not matter, nor do samples of the other direction. -/
theorem sums_over_history (rs : List Sample) :
    (∀ way, ((ofSamples rs).series way).totals = total (going way rs)) ∧
    (∀ way n, ((ofSamples rs).series way).last n =
      total ((going way rs).filter fun r =>
        r.minute ∈ largest (min n Series.maxMinutes) (busyMinutes (going way rs)))) ∧
    (ofSamples rs).lastUpdateMs = (rs.map fun r => age r.atMs).foldr max 0 ∧
    (∀ rs', rs.Perm rs' → ofSamples rs = ofSamples rs') ∧
    (∀ way rs', (going way rs).Perm (going way rs') →
      (ofSamples rs).series way = (ofSamples rs').series way) := by
  refine ⟨fun way => ?_, fun way n => last_ofSamples way n rs, ?_, fun rs' h => ofSamples_perm h,
    fun way rs' h => series_congr h⟩
  · rw [series_ofSamples]
  · rw [ofSamples, lastUpdateMs_foldl_count]
    exact Nat.zero_max _

/-- A message from before the beginning, one from the second minute, and one the other way, told in
two orders. -/
theorem sums_over_history_sample :
    let early : Sample := ⟨.sent, 10, 1500, -5⟩
    let late : Sample := ⟨.sent, 20, 2999, 60000⟩
    let answer : Sample := ⟨.received, 7, 0, 61000⟩
    [early, late, answer].Perm [answer, late, early] ∧
      ofSamples [early, late, answer] = ofSamples [answer, late, early] ∧
      ((ofSamples [early, late, answer]).series .sent).totals = ⟨30, 2, 3⟩ ∧
      ((ofSamples [early, late, answer]).series .sent).last 1 = ⟨20, 1, 2⟩ ∧
      (ofSamples [early, late, answer]).lastUpdateMs = 61000 := by
  intro early late answer
  have hperm : [early, late, answer].Perm [answer, late, early] := by decide
  obtain ⟨htotals, -, hlast, hany, -⟩ := sums_over_history [early, late, answer]
  exact ⟨hperm, hany _ hperm, (htotals .sent).trans (by decide), by decide, hlast.trans (by decide)⟩

end Metrics

end Courier
