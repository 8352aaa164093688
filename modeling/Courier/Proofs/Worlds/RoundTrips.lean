import Courier.Proofs.Worlds.Traffic
import Mathlib.Data.List.Induction
import Mathlib.Data.List.Nodup

/-!
# Courier — round trips

Whatever peers answer, and however often, a round trip is measured just where a probe was waiting for
its answer. Who looks on from outside can tell which probes those are: they were written, and since
then neither were they answered nor was the connection closed. The table of outstanding probes holds
nothing else, although a probe enters it before it is written.

* `Step`, `history` — what can be done on a connection, and what is seen of it;
* `Awaited` — a probe waits for its answer;
* `samples` — the answers that are measured, as the history tells;
* `Accounts.step` — the account of one step;
* `round_trips_accounted` — the samples and the outstanding probes after any steps;
* `World.connection_steps` — the connections of a world are what such steps make of fresh ones.
-/

namespace Courier

namespace Connection

-- ---------------------------------------------------------------------------
-- Steps, and what is seen of them
-- ---------------------------------------------------------------------------

/-- What can be done on a connection. -/
inductive Step where
  | probe (t : Timing) (nonce : UInt64)
  /-- The answer to a probe comes in, or what pretends to be one. -/
  | answer (t : Timing) (p : Pong)
  | close (reason : CloseReason)
  | send (t : Timing) (payload : Payload)
  | receive (t : Timing)

/-- The connection after a step. -/
def after : Step → Connection → Connection
  | .probe t nonce, c => (c.ping t nonce).2
  | .answer t p, c => c.onPong t p
  | .close reason, c => (c.markClosed reason).2
  | .send t payload, c => (c.send t payload).2
  | .receive t, c => (c.receive t).2

/-- The connection after some steps. -/
def run (steps : List Step) (c : Connection) : Connection :=
  steps.foldl (fun c step => after step c) c

/-- The nonces of the probes among some steps. -/
def Step.nonces (steps : List Step) : List UInt64 :=
  steps.filterMap fun step => match step with
    | .probe _ nonce => some nonce
    | _ => none

/-- What is seen of a step. -/
inductive Moment where
  /-- A probe was sent; its frame was written, or was not. -/
  | probed (nonce : UInt64) (written : Bool)
  | answered (nonce : UInt64) (spentUs : Nat)
  | closed
  /-- Something that has to do with no probe. -/
  | other
deriving DecidableEq, Repr

/-- The frame of a probe is written now. -/
def Writes (nonce : UInt64) (c : Connection) : Prop :=
  c.isClosed = false ∧ (c.socket.send (.ofPayload (.ping ⟨nonce⟩))).1.isOk = true

instance (nonce : UInt64) (c : Connection) : Decidable (c.Writes nonce) :=
  inferInstanceAs (Decidable (_ ∧ _))

def seen : Step → Connection → Moment
  | .probe _ nonce, c => .probed nonce (decide (c.Writes nonce))
  | .answer t p, _ => .answered p.requestNonce t.spentUs
  | .close _, _ => .closed
  | .send .., _ => .other
  | .receive _, _ => .other

/-- What is seen of some steps, in their order. -/
def history : List Step → Connection → List Moment
  | [], _ => []
  | step :: steps, c => seen step c :: history steps (after step c)

-- ---------------------------------------------------------------------------
-- What a history tells
-- ---------------------------------------------------------------------------

/-- The nonces of the probes in a history, written or not. -/
def Moment.nonces (past : List Moment) : List UInt64 :=
  past.filterMap fun m => match m with
    | .probed nonce _ => some nonce
    | _ => none

/-- A probe waits no longer: this is an answer to it, or the end of the connection. -/
def Moment.Settles (nonce : UInt64) : Moment → Prop
  | .answered n _ => n = nonce
  | .closed => True
  | _ => False

instance (nonce : UInt64) : DecidablePred (Moment.Settles nonce)
  | .answered n _ => inferInstanceAs (Decidable (n = nonce))
  | .closed => inferInstanceAs (Decidable True)
  | .probed .. => inferInstanceAs (Decidable False)
  | .other => inferInstanceAs (Decidable False)

/-- **A probe is awaited**: it was written, and nothing that came since then settles it. -/
def Awaited (nonce : UInt64) (past : List Moment) : Prop :=
  ∃ before since, past = before ++ .probed nonce true :: since ∧ ∀ m ∈ since, ¬ m.Settles nonce

theorem not_awaited_nil (nonce : UInt64) : ¬ Awaited nonce [] := by
  rintro ⟨before, since, h, -⟩
  exact absurd h.symm (by simp)

/-- An awaited probe is the first moment, or a later one. -/
theorem awaited_cons {nonce : UInt64} {m : Moment} {past : List Moment} :
    Awaited nonce (m :: past) ↔
      (m = .probed nonce true ∧ ∀ m ∈ past, ¬ m.Settles nonce) ∨ Awaited nonce past := by
  constructor
  · rintro ⟨before, since, h, hquiet⟩
    rcases List.cons_eq_append_iff.mp h with ⟨-, h⟩ | ⟨before, -, h⟩
    · obtain ⟨rfl, rfl⟩ := List.cons.inj h
      exact .inl ⟨rfl, hquiet⟩
    · exact .inr ⟨before, since, h, hquiet⟩
  · rintro (⟨rfl, hquiet⟩ | ⟨before, since, rfl, hquiet⟩)
    · exact ⟨[], past, rfl, hquiet⟩
    · exact ⟨m :: before, since, rfl, hquiet⟩

/-- One moment more. -/
theorem awaited_concat {nonce : UInt64} {past : List Moment} {m : Moment} :
    Awaited nonce (past ++ [m]) ↔
      m = .probed nonce true ∨ (Awaited nonce past ∧ ¬ m.Settles nonce) := by
  induction past with
  | nil => simp [awaited_cons, not_awaited_nil]
  | cons m' past ih =>
    simp only [List.cons_append, awaited_cons, ih, List.forall_mem_append,
      List.forall_mem_singleton]
    tauto

instance (nonce : UInt64) : (past : List Moment) → Decidable (Awaited nonce past)
  | [] => isFalse (not_awaited_nil nonce)
  | _ :: past =>
    have : Decidable (Awaited nonce past) := instDecidableAwaited nonce past
    decidable_of_iff' _ awaited_cons

/-- A measured round trip. -/
structure RoundTrip where
  nonce : UInt64
  timeMs : Nat
deriving DecidableEq, Repr

/-- What is measured at a moment. -/
def measured (past : List Moment) : Moment → Option RoundTrip
  | .answered nonce spentUs => if Awaited nonce past then some ⟨nonce, spentUs / 1000⟩ else none
  | _ => none

/-- The answers in a history that came when they were awaited. -/
def samples (past : List Moment) : List Moment → List RoundTrip
  | [] => []
  | m :: rest => (measured past m).toList ++ samples (past ++ [m]) rest

theorem samples_concat (past ms : List Moment) (m : Moment) :
    samples past (ms ++ [m]) = samples past ms ++ (measured (past ++ ms) m).toList := by
  induction ms generalizing past with
  | nil => simp [samples]
  | cons m' ms ih => simp [samples, ih]

/-- A probe that is awaited is one of those in the history. -/
theorem Awaited.written {nonce : UInt64} {past : List Moment} (h : Awaited nonce past) :
    .probed nonce true ∈ past := by
  obtain ⟨before, since, rfl, -⟩ := h
  exact List.mem_append_right _ List.mem_cons_self

theorem Moment.mem_nonces {nonce : UInt64} {written : Bool} {past : List Moment}
    (h : .probed nonce written ∈ past) : nonce ∈ Moment.nonces past :=
  List.mem_filterMap.mpr ⟨_, h, rfl⟩

theorem Moment.nonces_append (past more : List Moment) :
    Moment.nonces (past ++ more) = Moment.nonces past ++ Moment.nonces more :=
  List.filterMap_append

/-- Where no nonce is used twice, a probe was either written or not. -/
theorem Moment.probed_once {nonce : UInt64} {written written' : Bool} {told : List Moment}
    (honce : (Moment.nonces told).Nodup) (h : .probed nonce written ∈ told)
    (h' : .probed nonce written' ∈ told) : written = written' := by
  induction told with
  | nil => exact absurd h List.not_mem_nil
  | cons m rest ih =>
    rw [show m :: rest = [m] ++ rest from rfl, Moment.nonces_append] at honce
    have hapart := List.disjoint_of_nodup_append honce
    rcases List.mem_cons.mp h with rfl | hrest <;>
      rcases List.mem_cons.mp h' with heq | hrest'
    · exact (Moment.probed.inj heq).2.symm
    · exact absurd (Moment.mem_nonces hrest') (hapart (List.mem_singleton_self _))
    · subst heq
      exact absurd (Moment.mem_nonces hrest) (hapart (List.mem_singleton_self _))
    · exact ih honce.of_append_right hrest hrest'

/-- What is measured at a moment was awaited until then. -/
theorem measured_eq_some {past : List Moment} {m : Moment} {r : RoundTrip}
    (h : measured past m = some r) : Awaited r.nonce past ∧ m.Settles r.nonce := by
  unfold measured at h
  split at h
  · split at h
    · rename_i hawaited
      cases h
      exact ⟨hawaited, rfl⟩
    · cases h
  · cases h

/-- **A probe yields one sample at most**: it was written before, and when it was answered it is
awaited no longer. -/
theorem samples_once {told : List Moment} (h : (Moment.nonces told).Nodup) :
    ((samples [] told).map (·.nonce)).Nodup ∧
      ∀ r ∈ samples [] told, .probed r.nonce true ∈ told ∧ ¬ Awaited r.nonce told := by
  induction told using List.reverseRecOn with
  | nil => exact ⟨List.nodup_nil, fun _ h => nomatch h⟩
  | append_singleton past m ih =>
    rw [Moment.nonces_append] at h
    obtain ⟨honce, hsettled⟩ := ih h.of_append_left
    rw [samples_concat, List.nil_append]
    -- what was measured before is not awaited again, because no probe has the same nonce
    have hbefore : ∀ r ∈ samples [] past, ¬ Awaited r.nonce (past ++ [m]) := by
      intro r hr hawaited
      obtain ⟨hwritten, hnot⟩ := hsettled r hr
      rcases awaited_concat.mp hawaited with rfl | ⟨hawaited, -⟩
      · exact (List.disjoint_of_nodup_append h) (Moment.mem_nonces hwritten)
          (Moment.mem_nonces (List.mem_singleton_self _))
      · exact hnot hawaited
    cases hm : measured past m with
    | none =>
      rw [Option.toList_none, List.append_nil]
      exact ⟨honce, fun r hr => ⟨List.mem_append_left _ (hsettled r hr).1, hbefore r hr⟩⟩
    | some r =>
      obtain ⟨hawaited, hsettles⟩ := measured_eq_some hm
      rw [Option.toList_some, List.map_append, List.map_singleton]
      constructor
      · refine List.nodup_append.mpr
          ⟨honce, List.nodup_singleton _, fun nonce hnonce n hn heq => ?_⟩
        obtain ⟨r', hr', rfl⟩ := List.mem_map.mp hnonce
        obtain rfl := List.mem_singleton.mp hn
        exact (hsettled r' hr').2 (heq ▸ hawaited)
      · intro r' hr'
        rcases List.mem_append.mp hr' with hr' | hr'
        · exact ⟨List.mem_append_left _ (hsettled r' hr').1, hbefore r' hr'⟩
        · obtain rfl := List.mem_singleton.mp hr'
          refine ⟨List.mem_append_left _ hawaited.written, fun hstill => ?_⟩
          rcases awaited_concat.mp hstill with rfl | ⟨-, hnot⟩
          · cases hm
          · exact hnot hsettles

-- ---------------------------------------------------------------------------
-- What a step does
-- ---------------------------------------------------------------------------

/-- Nothing that has to do with probes. -/
structure SameProbes (c c' : Connection) : Prop where
  outstanding : c'.outstanding = c.outstanding
  roundTrips : c'.metrics.roundTrips = c.metrics.roundTrips
  isClosed : c'.isClosed = c.isClosed

theorem sameProbes_send (t : Timing) (payload : Payload) (c : Connection) :
    SameProbes c (c.send t payload).2 := by
  unfold Connection.send
  split
  · exact ⟨rfl, rfl, rfl⟩
  · split <;> exact ⟨rfl, rfl, rfl⟩

theorem sameProbes_receive (t : Timing) (c : Connection) : SameProbes c (c.receive t).2 := by
  unfold Connection.receive
  split <;> exact ⟨rfl, rfl, rfl⟩

/-- Sending a probe succeeds just when its frame is written. -/
theorem send_isOk (t : Timing) (nonce : UInt64) (c : Connection) :
    (c.send t (.ping ⟨nonce⟩)).1.isOk = true ↔ c.Writes nonce := by
  unfold Connection.send Writes
  by_cases hclosed : c.isClosed = true
  · rw [if_pos hclosed]
    exact iff_of_false Bool.false_ne_true fun h => Bool.false_ne_true (h.1.symm.trans hclosed)
  · rw [if_neg hclosed, Bool.not_eq_true] at *
    rw [hclosed, eq_self_iff_true, true_and]
    split
    all_goals
      rename_i heq
      rw [heq]
      exact Iff.rfl

/-- **A probe stays in the table just when it was written**, and who sends it learns of that. -/
theorem ping_spec (t : Timing) (nonce : UInt64) (c : Connection) :
    ((c.ping t nonce).1 = .ok nonce ↔ c.Writes nonce) ∧
      (c.ping t nonce).2.outstanding = (if c.Writes nonce then [nonce] else []) ++
        c.outstanding.filter (· ≠ nonce) ∧
      (c.ping t nonce).2.metrics.roundTrips = c.metrics.roundTrips ∧
      (c.ping t nonce).2.isClosed = c.isClosed := by
  let probing := { c with outstanding := nonce :: c.outstanding.filter (· ≠ nonce) }
  have hsame := sameProbes_send t (.ping ⟨nonce⟩) probing
  have hwrites : (probing.send t (.ping ⟨nonce⟩)).1.isOk = true ↔ c.Writes nonce :=
    send_isOk t nonce probing
  unfold Connection.ping
  dsimp only
  split
  · rename_i c' heq
    rw [show probing.send t _ = _ from heq] at hsame hwrites
    have hwritten : c.Writes nonce := hwrites.mp rfl
    rw [if_pos hwritten]
    exact ⟨iff_of_true rfl hwritten, hsame.outstanding, hsame.roundTrips, hsame.isClosed⟩
  · rename_i e c' heq
    rw [show probing.send t _ = _ from heq] at hsame hwrites
    have hwritten : ¬ c.Writes nonce := fun h => Bool.false_ne_true (hwrites.mpr h)
    rw [if_neg hwritten]
    refine ⟨iff_of_false (by simp) hwritten, ?_, hsame.roundTrips, hsame.isClosed⟩
    show c'.outstanding.filter (· ≠ nonce) = _
    rw [show c'.outstanding = _ from hsame.outstanding]
    simp [probing]

/-- What the connection has to do with the history of its probes. -/
structure Accounts (past : List Moment) (c : Connection) : Prop where
  outstanding : ∀ nonce, nonce ∈ c.outstanding ↔ Awaited nonce past
  once : c.outstanding.Nodup
  roundTrips : c.metrics.roundTrips = (samples [] past).map (·.timeMs)
  closed : c.isClosed = true → c.outstanding = []

theorem Accounts.fresh (id nodeId : String) (peerAddress : Address) (peerNode : Option String)
    (direction : Direction) (socket : Socket) :
    Accounts [] (.fresh id nodeId peerAddress peerNode direction socket) where
  outstanding nonce := iff_of_false List.not_mem_nil (not_awaited_nil nonce)
  once := List.nodup_nil
  roundTrips := rfl
  closed _ := rfl

variable {past : List Moment} {c : Connection}

/-- Nothing that has to do with probes has happened. -/
theorem Accounts.other (h : Accounts past c) {c' : Connection} (hsame : SameProbes c c') :
    Accounts (past ++ [.other]) c' where
  outstanding nonce := by
    rw [hsame.outstanding, h.outstanding, awaited_concat]
    simp [Moment.Settles]
  once := hsame.outstanding ▸ h.once
  roundTrips := by
    rw [hsame.roundTrips, h.roundTrips, samples_concat]
    exact congrArg _ (List.append_nil _).symm
  closed hclosed := by
    rw [hsame.outstanding]
    exact h.closed (hsame.isClosed ▸ hclosed)

/-- **A probe is sent.** It is awaited if its frame was written; if not, it leaves nothing behind,
because no probe before it had the same nonce. -/
theorem Accounts.probe (h : Accounts past c) (t : Timing) {nonce : UInt64}
    (hnew : nonce ∉ Moment.nonces past) :
    Accounts (past ++ [.probed nonce (decide (c.Writes nonce))]) (c.ping t nonce).2 := by
  obtain ⟨-, houtstanding, hroundTrips, hclosed⟩ := ping_spec t nonce c
  have hfresh : nonce ∉ c.outstanding := fun hmem =>
    hnew (Moment.mem_nonces ((h.outstanding nonce).mp hmem).written)
  have hothers : c.outstanding.filter (· ≠ nonce) = c.outstanding :=
    List.filter_eq_self.mpr fun n hn => decide_eq_true fun heq => hfresh (heq ▸ hn)
  rw [hothers] at houtstanding
  refine ⟨fun n => ?_, ?_, ?_, fun hend => ?_⟩
  · rw [houtstanding, awaited_concat, ← h.outstanding]
    by_cases hwrites : c.Writes nonce
    · simp [hwrites, Moment.Settles, eq_comm]
    · simp [hwrites, Moment.Settles]
  · rw [houtstanding]
    split
    · exact List.nodup_cons.mpr ⟨hfresh, h.once⟩
    · exact h.once
  · rw [hroundTrips, h.roundTrips, samples_concat]
    exact congrArg _ (List.append_nil _).symm
  · rw [hclosed] at hend
    rw [houtstanding, h.closed hend, List.append_nil]
    exact if_neg fun hwrites => Bool.false_ne_true (hwrites.1.symm.trans hend)

/-- **An answer comes in.** It is measured if its probe was awaited, and ignored otherwise. -/
theorem Accounts.answer (h : Accounts past c) (t : Timing) (p : Pong) :
    Accounts (past ++ [.answered p.requestNonce t.spentUs]) (c.onPong t p) := by
  have hawaited := h.outstanding p.requestNonce
  have hiff (n : UInt64) : Awaited n (past ++ [.answered p.requestNonce t.spentUs]) ↔
      n ∈ c.outstanding ∧ n ≠ p.requestNonce := by
    rw [awaited_concat, ← h.outstanding]
    simp [Moment.Settles, eq_comm]
  unfold Connection.onPong
  split
  · rename_i hcontains
    have hmem := List.contains_iff_mem.mp hcontains
    refine ⟨fun n => ?_, h.once.filter _, ?_, fun hclosed => ?_⟩
    · rw [hiff, List.mem_filter, decide_eq_true_iff]
    · have hmeasured : measured past (.answered p.requestNonce t.spentUs) =
          some ⟨p.requestNonce, t.spentUs / 1000⟩ := if_pos (hawaited.mp hmem)
      rw [samples_concat, List.nil_append, hmeasured, List.map_append, ← h.roundTrips]
      rfl
    · rw [h.closed hclosed] at hmem
      exact absurd hmem List.not_mem_nil
  · rename_i hcontains
    have hmem := mt List.contains_iff_mem.mpr hcontains
    refine ⟨fun n => ?_, h.once, ?_, h.closed⟩
    · rw [hiff]
      exact ⟨fun hn => ⟨hn, fun heq => hmem (heq ▸ hn)⟩, And.left⟩
    · have hmeasured : measured past (.answered p.requestNonce t.spentUs) = none :=
        if_neg (mt hawaited.mpr hmem)
      rw [samples_concat, List.nil_append, hmeasured, h.roundTrips]
      exact congrArg _ (List.append_nil _).symm

/-- **The connection is closed**, or was closed before. No probe is awaited any more. -/
theorem Accounts.close (h : Accounts past c) (reason : CloseReason) :
    Accounts (past ++ [.closed]) (c.markClosed reason).2 := by
  have hnone (n : UInt64) : ¬ Awaited n (past ++ [.closed]) := by
    rw [awaited_concat]
    simp [Moment.Settles]
  have hroundTrips : (samples [] past).map (·.timeMs) =
      (samples [] (past ++ [.closed])).map (·.timeMs) := by
    rw [samples_concat]
    exact congrArg _ (List.append_nil _).symm
  unfold Connection.markClosed
  split
  · rename_i hclosed
    refine ⟨fun n => iff_of_false ?_ (hnone n), h.once, h.roundTrips.trans hroundTrips, h.closed⟩
    rw [h.closed hclosed]
    exact List.not_mem_nil
  · exact ⟨fun n => iff_of_false List.not_mem_nil (hnone n), List.nodup_nil,
      h.roundTrips.trans hroundTrips, fun _ => rfl⟩

/-- **The account of one step.** A probe has another nonce than those before it. -/
theorem Accounts.step (h : Accounts past c) (step : Step)
    (hnew : ∀ nonce ∈ Step.nonces [step], nonce ∉ Moment.nonces past) :
    Accounts (past ++ [seen step c]) (Connection.after step c) := by
  cases step with
  | probe t nonce => exact h.probe t (hnew nonce (List.mem_singleton_self _))
  | answer t p => exact h.answer t p
  | close reason => exact h.close reason
  | send t payload => exact h.other (sameProbes_send t payload c)
  | receive t => exact h.other (sameProbes_receive t c)

theorem Step.nonces_cons (step : Step) (steps : List Step) :
    Step.nonces (step :: steps) = Step.nonces [step] ++ Step.nonces steps :=
  List.filterMap_append (l := [step])

theorem nonces_seen (step : Step) (c : Connection) :
    Moment.nonces [seen step c] = Step.nonces [step] := by
  cases step <;> rfl

theorem nonces_history (steps : List Step) (c : Connection) :
    Moment.nonces (history steps c) = Step.nonces steps := by
  induction steps generalizing c with
  | nil => rfl
  | cons step steps ih =>
    rw [history, Step.nonces_cons, ← ih, ← nonces_seen step c, ← Moment.nonces_append]
    rfl

/-- The account of some steps. -/
theorem Accounts.run (h : Accounts past c) (steps : List Step)
    (hnew : (Moment.nonces past ++ Step.nonces steps).Nodup) :
    Accounts (past ++ history steps c) (Connection.run steps c) := by
  induction steps generalizing past c with
  | nil =>
    rw [history, List.append_nil]
    exact h
  | cons step steps ih =>
    rw [Step.nonces_cons, ← List.append_assoc] at hnew
    have hstep := h.step step fun nonce hnonce hmem =>
      List.disjoint_of_nodup_append hnew.of_append_left hmem hnonce
    rw [history, List.append_cons]
    refine ih hstep ?_
    rwa [Moment.nonces_append, nonces_seen]

-- ---------------------------------------------------------------------------
-- All samples
-- ---------------------------------------------------------------------------

/-- **Round trips are those of awaited probes.** On a new connection, over any stream, whose writes
may fail at any place, probes are sent under different nonces and answers come in, whatever they
answer; it may be closed, and other things sent and received, in any order. Then a round trip was
measured for each answer that came when its probe was awaited, in their order, and for nothing else;
for each probe one at most, and for none that was not written before. The probes that are outstanding
are those that are awaited still: none that was not written, and none at all when the connection is
closed. -/
theorem round_trips_accounted (id nodeId : String) (peerAddress : Address)
    (peerNode : Option String) (direction : Direction) (socket : Socket) (steps : List Step)
    (hdistinct : (Step.nonces steps).Nodup) :
    let start : Connection := .fresh id nodeId peerAddress peerNode direction socket
    let told := history steps start
    let conn := run steps start
    conn.metrics.roundTrips = (samples [] told).map (·.timeMs) ∧
      conn.metrics.roundTrips.length = (samples [] told).length ∧
      ((samples [] told).map (·.nonce)).Nodup ∧
      (∀ r ∈ samples [] told, .probed r.nonce true ∈ told) ∧
      conn.outstanding.Nodup ∧ (∀ nonce, nonce ∈ conn.outstanding ↔ Awaited nonce told) ∧
      (∀ nonce, .probed nonce false ∈ told → nonce ∉ conn.outstanding) ∧
      (conn.isClosed = true → conn.outstanding = []) := by
  intro start told conn
  have haccounts : Accounts told conn :=
    (Accounts.fresh id nodeId peerAddress peerNode direction socket).run steps hdistinct
  have htold : (Moment.nonces told).Nodup := (nonces_history steps start) ▸ hdistinct
  obtain ⟨honce, hprobed⟩ := samples_once htold
  refine ⟨haccounts.roundTrips, ?_, honce, fun r hr => (hprobed r hr).1, haccounts.once,
    haccounts.outstanding, fun nonce hfailed hmem => ?_, haccounts.closed⟩
  · rw [haccounts.roundTrips, List.length_map]
  · have hwritten := ((haccounts.outstanding nonce).mp hmem).written
    exact Bool.false_ne_true (Moment.probed_once htold hfailed hwritten)

/-- The first probe cannot be written, the second is written in two pieces, and the third is not
answered before the connection is closed. -/
theorem round_trips_accounted_sample :
    let sink : Sink := ⟨[], [.fails (.ofKind .timedOut), .atMost 5], []⟩
    let socket : Socket := .onStream ⟨0, ⟨[], [], .stalled⟩, sink⟩ 1024
    let at0 : Timing := ⟨0, 2999⟩
    let steps : List Step := [.answer at0 ⟨2⟩, .probe at0 1, .answer at0 ⟨1⟩, .probe at0 2,
      .probe at0 3, .answer at0 ⟨2⟩, .answer at0 ⟨2⟩, .close .shutdown, .answer at0 ⟨3⟩,
      .probe at0 4, .answer at0 ⟨4⟩]
    let start : Connection := .fresh "c" "n" default none .inbound socket
    let told := history steps start
    let conn := run steps start
    (Step.nonces steps).Nodup ∧ samples [] told = [⟨2, 2⟩] ∧ conn.metrics.roundTrips = [2] ∧
      conn.isClosed = true ∧ conn.outstanding = [] := by
  intro sink socket at0 steps start told conn
  have hdistinct : (Step.nonces steps).Nodup := by decide
  have hsamples : samples [] told = [⟨2, 2⟩] := by decide +kernel
  have hend : conn.isClosed = true := by decide +kernel
  obtain ⟨hroundTrips, -, -, -, -, -, -, hclosed⟩ :=
    round_trips_accounted "c" "n" default none .inbound socket steps hdistinct
  refine ⟨hdistinct, hsamples, ?_, hend, hclosed hend⟩
  rw [hroundTrips, hsamples]
  rfl

end Connection

-- ---------------------------------------------------------------------------
-- Connections of a world
-- ---------------------------------------------------------------------------

namespace World

variable {L S : Type} {env : Surroundings L S} {may : Act L → World L S → Prop} {w : World L S}
  {n : NodeRef} {c : ConnectionRef} {conn conn' : Connection}

/-- Whatever is done with a connection is a step. -/
theorem Use.step {t : Timing} (h : Use may t c conn conn') :
    ∃ step, conn' = Connection.after step conn := by
  cases h with
  | send payload => exact ⟨.send t payload, rfl⟩
  | ping nonce => exact ⟨.probe t nonce, rfl⟩
  | receive hmay => exact ⟨.receive t, rfl⟩
  | pong p => exact ⟨.answer t p, rfl⟩
  | close reason => exact ⟨.close reason, rfl⟩

/-- A connection on which steps were made since it was new. -/
def MadeBySteps (conn : Connection) : Prop :=
  ∃ id nodeId peerAddress peerNode direction socket steps,
    conn = Connection.run steps (.fresh id nodeId peerAddress peerNode direction socket)

theorem MadeBySteps.after (h : MadeBySteps conn) (step : Connection.Step) :
    MadeBySteps (Connection.after step conn) := by
  obtain ⟨id, nodeId, peerAddress, peerNode, direction, socket, steps, rfl⟩ := h
  refine ⟨id, nodeId, peerAddress, peerNode, direction, socket, steps ++ [step], ?_⟩
  rw [Connection.run, Connection.run, List.foldl_append]
  rfl

/-- A connection that is taken up has exchanged handshakes, and nothing else. -/
theorem Admitted.madeBySteps (h : Admitted env may w n conn) : MadeBySteps conn := by
  have hfresh (id nodeId : String) (peerAddress : Address) (peerNode : Option String)
      (direction : Direction) (socket : Socket) :
      MadeBySteps (.fresh id nodeId peerAddress peerNode direction socket) :=
    ⟨id, nodeId, peerAddress, peerNode, direction, socket, [], rfl⟩
  cases h with
  | inbound hmay hgreet hsent =>
    obtain ⟨peerAddress, peerNode, rfl⟩ := greet_eq_receive hgreet
    exact ((hfresh ..).after (.receive env.timing)).after (.send env.timing _)
  | outbound s hopened hanswered =>
    obtain ⟨stream, peerNode, timeoutMs, -, rfl⟩ := answered_eq_receive hopened hanswered
    exact ((hfresh ..).after (.send env.timing _)).after (.receive env.timing)

/-- **The connections of nodes are made by steps**: whatever nodes, registries and listeners do in a
run, a connection that a node gets is at the end what some steps have made of a fresh one. -/
theorem connection_steps {depth : Nat} {acts : List (Act L)} {before : World L S}
    (hnew : .began n ∉ before.life c) (hbegan : .began n ∈ (run env depth acts before).2.life c) :
    MadeBySteps ((run env depth acts before).2.connection c) := by
  refine (run_story_free env depth acts before).keeps_connection hnew hbegan
    (fun hadmitted => hadmitted.madeBySteps) fun huse h => ?_
  obtain ⟨step, rfl⟩ := huse.step
  exact h.after step

end World

end Courier
