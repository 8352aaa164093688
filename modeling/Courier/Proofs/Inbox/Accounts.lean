import Courier.Proofs.Inbox.Stages

/-!
# Courier — what comes of the messages that come in

In whatever order the work of a service is done, and whatever happens to the service meanwhile, each
message of which it hears and in which something is found is handed to the listeners once, to those
that are registered at that moment, and nothing else is handed to anybody. An entry is removed for
each such message that came from the store, and every message has its one answer.

It is assumed that the workers are running, and of those that call listeners that they do what waits
for them at some time; nothing is assumed of the order.

* `Inbox.Accounts` — what has become of the messages after some steps;
* `Inbox.run_hands_each_once` — the accounts of any run of a new service;
* `Inbox.exists_quiet` — the work that waits can always be finished;
* `Inbox.receive_answers` — a message that is worked on at once is answered.
-/

namespace Courier

open scoped List

variable {M : Type} {keyPair? : String → Option KeyPair} {hasStore : Bool}

/-- What is found in the messages of which a service hears. -/
def InboxStep.found (keyPair? : String → Option KeyPair) (hasStore : Bool)
    (steps : List (InboxStep M)) : List Handover :=
  (arrivals true hasStore steps).filterMap fun a => (a.message.contents? keyPair?).map Prod.snd

/-- The entries that are removed for the messages of which a service hears. -/
def InboxStep.removals (keyPair? : String → Option KeyPair) (hasStore : Bool)
    (steps : List (InboxStep M)) : List (MailboxEntry × KeyPair) :=
  (arrivals true hasStore steps).filterMap (Arrival.removal? keyPair?)

/-- The answers to the messages of which a service hears. -/
def InboxStep.answers (keyPair? : String → Option KeyPair) (hasStore : Bool)
    (steps : List (InboxStep M)) : List (SealedMessage × Except MailError Bool) :=
  (arrivals true hasStore steps).map fun a => (a.message, a.message.answer keyPair?)

namespace Inbox

/-- What has become of the messages that arrived: `handed` and `handedFrom` are what was handed to
the listeners and to the confidential ones, each with the listeners of that moment. -/
structure Accounts (keyPair? : String → Option KeyPair) (hasStore : Bool)
    (steps : List (InboxStep M)) (b : Inbox M) (handed handedFrom : List (Handover × List M)) :
    Prop where
  /-- Something is handed to those listeners that were added before and not taken out since. -/
  listeners : ∀ d ∈ handed, ∃ pre i post, steps = pre ++ .handAt i :: post ∧
    d.2 = (InboxStep.registered .plain pre).map Prod.snd
  listenersFrom : ∀ d ∈ handedFrom, ∃ pre i post, steps = pre ++ .handFromAt i :: post ∧
    d.2 = (InboxStep.registered .confidential pre).map Prod.snd
  /-- Each of these listeners gets it once, and nobody gets anything else. -/
  delivered : b.delivered = handed.flatMap deliveries
  deliveredFrom : b.deliveredFrom = handedFrom.flatMap deliveriesFrom
  /-- What is found in the messages was handed over once, or waits. -/
  found : (handed.map Prod.fst ++ b.toHand ++ b.toOpen.filterMap Opening.handover?).Perm
    (InboxStep.found keyPair? hasStore steps)
  foundFrom : (handedFrom.map Prod.fst ++ b.toHandFrom ++ b.toHand ++
    b.toOpen.filterMap Opening.handover?).Perm (InboxStep.found keyPair? hasStore steps)
  /-- The entries of the messages that were opened were removed once, or wait. -/
  removed : (b.removed ++ b.toOpen.filterMap (Opening.removal? hasStore)).Perm
    (InboxStep.removals keyPair? hasStore steps)
  /-- Every message was answered once, or waits. -/
  answered : (b.answers ++ b.answersDue).Perm (InboxStep.answers keyPair? hasStore steps)
  /-- Nothing else is done. -/
  kinds : ∀ c ∈ b.calls, c.delivered?.isSome ∨ c.deliveredFrom?.isSome ∨ c.removed?.isSome

/-! ## The listeners of a moment -/

/-- The listeners of a service that began without any. -/
theorem snapshot_run {b : Inbox M} {circle : Circle} (h : (b.service.members circle).entries = [])
    (steps : List (InboxStep M)) :
    ((b.run steps).service.members circle).snapshot =
      (InboxStep.registered circle steps).map Prod.snd := by
  rw [Listeners.snapshot, entries_run, h]
  rfl

/-- Where steps of one kind hand something to the listeners of a set, these are the ones that were
added before such a step and not taken out since. -/
theorem listeners_of_along {f : Inbox M → InboxStep M → List (Handover × List M)}
    {act : Nat → InboxStep M} {circle : Circle}
    (hf : ∀ b st, ∀ d ∈ f b st, ∃ i, st = act i ∧ d.2 = (b.service.members circle).snapshot)
    {b : Inbox M} (h : (b.service.members circle).entries = []) {steps : List (InboxStep M)}
    {d : Handover × List M} (hd : d ∈ along f b steps) :
    ∃ pre i post, steps = pre ++ act i :: post ∧
      d.2 = (InboxStep.registered circle pre).map Prod.snd := by
  obtain ⟨pre, st, post, rfl, hst⟩ := mem_along hd
  obtain ⟨i, rfl, hlisteners⟩ := hf _ _ d hst
  exact ⟨pre, i, post, rfl, hlisteners.trans (snapshot_run h pre)⟩

/-- A payload is handed to the plain listeners that there are when its turn comes. -/
theorem mem_handedAt (b : Inbox M) (st : InboxStep M) (d : Handover × List M)
    (hd : d ∈ handedAt b st) :
    ∃ i, st = .handAt i ∧ d.2 = (b.service.members .plain).snapshot := by
  cases st with
  | handAt i =>
    obtain ⟨x, -, rfl⟩ := List.mem_map.mp hd
    exact ⟨i, rfl, rfl⟩
  | _ => cases hd

/-- Then it is handed with its sender to the others that there are. -/
theorem mem_handedFromAt (b : Inbox M) (st : InboxStep M) (d : Handover × List M)
    (hd : d ∈ handedFromAt b st) :
    ∃ i, st = .handFromAt i ∧ d.2 = (b.service.members .confidential).snapshot := by
  cases st with
  | handFromAt i =>
    obtain ⟨x, -, rfl⟩ := List.mem_map.mp hd
    exact ⟨i, rfl, rfl⟩
  | _ => cases hd

/-! ## Whole runs -/

/-- The accounts of a service to which nothing has come yet and that has no listeners yet. -/
theorem accounts_run {s : MailService M} (h : (of s).Serves keyPair? hasStore)
    (hplain : (s.members .plain).entries = [])
    (hconfidential : (s.members .confidential).entries = [])
    (hnodes : s.nodeHandle.isSome) (hstore : s.storeHandle.isSome = hasStore)
    (steps : List (InboxStep M)) :
    ((of s).run steps).Accounts keyPair? hasStore steps (along handedAt (of s) steps)
      (along handedFromAt (of s) steps) := by
  -- the service listens to the nodes and, if it has one, to its store from the beginning
  have harrived : along arrivedAt (of s) steps = InboxStep.arrivals true hasStore steps := by
    rw [arrivals_run, show (of s).service = s from rfl, hnodes, hstore]
  have hopened := openings_run h steps
  have hanswered := answered_run h steps
  rw [harrived] at hopened hanswered
  -- each stage gets what the one before it passes on
  have hfound := ((handed_run h steps).append_right _).trans (Arrival.handovers_perm hopened)
  have hfoundFrom := (((handedFrom_run h steps).append_right _).append_right _).trans hfound
  have hremoved := Arrival.removals_perm (fun a => InboxStep.entry_of_arrivals) hopened
  exact {
    listeners := fun _ => listeners_of_along mem_handedAt hplain
    listenersFrom := fun _ => listeners_of_along mem_handedFromAt hconfidential
    delivered := delivered_run h steps
    deliveredFrom := deliveredFrom_run h steps
    found := hfound
    foundFrom := hfoundFrom
    removed := by
      rw [removed_run h]
      exact hremoved
    answered := hanswered
    kinds := fun c hc => kinds_run h rfl hc }

/-- When no work waits, the accounts are complete. -/
theorem Accounts.of_quiet {steps : List (InboxStep M)} {b : Inbox M}
    {handed handedFrom : List (Handover × List M)}
    (h : b.Accounts keyPair? hasStore steps handed handedFrom) (hquiet : b.IsQuiet) :
    (handed.map Prod.fst).Perm (InboxStep.found keyPair? hasStore steps) ∧
      (handedFrom.map Prod.fst).Perm (InboxStep.found keyPair? hasStore steps) ∧
      b.removed.Perm (InboxStep.removals keyPair? hasStore steps) ∧
      b.answers.Perm (InboxStep.answers keyPair? hasStore steps) := by
  obtain ⟨hopen, hhand, hhandFrom⟩ := hquiet
  have hfound := h.found
  have hfoundFrom := h.foundFrom
  have hremoved := h.removed
  have hanswered := h.answered
  rw [hopen, hhand, List.filterMap_nil, List.append_nil, List.append_nil] at hfound
  rw [hopen, hhand, hhandFrom, List.filterMap_nil, List.append_nil, List.append_nil,
    List.append_nil] at hfoundFrom
  rw [hopen, List.filterMap_nil, List.append_nil] at hremoved
  rw [answersDue, hopen, List.map_nil, List.append_nil] at hanswered
  exact ⟨hfound, hfoundFrom, hremoved, hanswered⟩

/-- **Every message of which a service hears has its one outcome**, in whatever order the work is
done and whatever happens meanwhile: at any moment it is accounted for, and when no work waits its
outcome is there. Once the service has been shut down it hears of messages that come in by hand
only. -/
theorem run_hands_each_once (registry : RegistryRef) (keyPair? : String → Option KeyPair)
    (store : Option (MailboxEntry → Except StoreError Broadcast)) (hasTracker : Bool)
    (nodeHandle storeHandle : ListenerId) (steps : List (InboxStep M)) :
    let start : Inbox M :=
      of (.fresh registry keyPair? store hasTracker true nodeHandle storeHandle)
    let b := start.run steps
    let handed := along handedAt start steps
    let handedFrom := along handedFromAt start steps
    b.Accounts keyPair? store.isSome steps handed handedFrom ∧
      (b.IsQuiet →
        (handed.map Prod.fst).Perm (InboxStep.found keyPair? store.isSome steps) ∧
        (handedFrom.map Prod.fst).Perm (InboxStep.found keyPair? store.isSome steps) ∧
        b.removed.Perm (InboxStep.removals keyPair? store.isSome steps) ∧
        b.answers.Perm (InboxStep.answers keyPair? store.isSome steps)) ∧
      ∀ pre post, steps = pre ++ post → pre.any InboxStep.leavesNodes →
        pre.any InboxStep.leavesStore →
        InboxStep.arrivals true store.isSome steps =
          InboxStep.arrivals true store.isSome pre ++ post.filterMap InboxStep.byHand? := by
  intro start b handed handedFrom
  have hserves : start.Serves keyPair? store.isSome := ⟨rfl, rfl, rfl⟩
  have hstore : start.service.storeHandle.isSome = store.isSome := Option.isSome_map
  have h : b.Accounts keyPair? store.isSome steps handed handedFrom :=
    accounts_run hserves rfl rfl rfl hstore steps
  refine ⟨h, h.of_quiet, ?_⟩
  rintro pre post rfl hnodes hleft
  exact InboxStep.arrivals_of_left hnodes hleft _ _ post

/-! ## The work that waits -/

/-- The number of steps that it takes to finish the work that waits, at most. -/
def workload (b : Inbox M) : Nat :=
  3 * b.toOpen.length + 2 * b.toHand.length + b.toHandFrom.length

/-- Where work waits, some of it can be done. -/
theorem workload_lt (b : Inbox M) (h : ¬ b.IsQuiet) :
    ∃ st : InboxStep M, st.isWork ∧ (b.step st).workload < b.workload := by
  obtain ⟨s, toOpen, toHand, toHandFrom, calls, answers⟩ := b
  match toOpen, toHand, toHandFrom with
  -- a message that is opened counts three, and leaves work that counts two or nothing
  | o :: toOpen, toHand, toHandFrom =>
    refine ⟨.openAt 0, rfl, ?_⟩
    have hone : o.handover?.toList.length ≤ 1 := by cases o.handover? <;> simp
    have hstep : ((⟨s, o :: toOpen, toHand, toHandFrom, calls, answers⟩ : Inbox M).step
        (.openAt 0)).workload =
        3 * toOpen.length + 2 * (toHand ++ o.handover?.toList).length + toHandFrom.length := by
      simp [step, workload]
    rw [hstep, List.length_append]
    simp only [workload, List.length_cons]
    omega
  | [], x :: toHand, toHandFrom =>
    refine ⟨.handAt 0, rfl, ?_⟩
    simp only [step, workload, List.getElem?_cons_zero, List.eraseIdx_cons_zero, List.length_append,
      List.length_cons, List.length_nil]
    omega
  | [], [], x :: toHandFrom =>
    refine ⟨.handFromAt 0, rfl, ?_⟩
    simp [step, workload]
  | [], [], [] => exact absurd ⟨rfl, rfl, rfl⟩ h

/-- The work that waits can always be finished. -/
theorem exists_quiet (b : Inbox M) :
    ∃ steps : List (InboxStep M), (∀ st ∈ steps, st.isWork) ∧ (b.run steps).IsQuiet := by
  induction hn : b.workload using Nat.strongRecOn generalizing b with
  | _ n ih =>
    by_cases hquiet : b.IsQuiet
    · exact ⟨[], List.forall_mem_nil _, hquiet⟩
    · obtain ⟨st, hwork, hlt⟩ := workload_lt b hquiet
      obtain ⟨steps, hsteps, hrest⟩ := ih _ (hn ▸ hlt) (b.step st) rfl
      refine ⟨st :: steps, ?_, hrest⟩
      rintro st' (_ | ⟨_, hst'⟩)
      · exact hwork
      · exact hsteps st' hst'

/-! ## Work that is done at once -/

/-- What is to be opened is what has arrived. -/
theorem arrival_of_accept {s : MailService M} {a : Arrival} {o : Opening}
    (h : s.accept a = .inr o) : o.arrival = a := by
  unfold MailService.accept at h
  split at h
  · cases h
  · split at h
    · cases h
      rfl
    · cases h

/-- A message that comes in by hand has one answer once the work on it is done. -/
theorem receive_answers (s : MailService M) (m : SealedMessage) :
    ∃ answer, (receive s (.byHand m)).answers = [(m, answer)] := by
  have harrive : (of s).step (.incoming (.byHand m)) = (of s).arrive ⟨m, none⟩ := rfl
  unfold receive run
  dsimp only [List.foldl]
  rw [harrive]
  unfold arrive
  rw [show (of s).service = s from rfl]
  cases haccept : s.accept ⟨m, none⟩ with
  | inl answer => exact ⟨answer, rfl⟩
  | inr o =>
    have harrival := arrival_of_accept haccept
    cases ho : o.outcome with
    | error e => exact ⟨.error e, by simp [of, step, opened, ho, harrival]⟩
    | ok h => exact ⟨.ok true, by simp [of, step, opened, ho, harrival]⟩

end Inbox

end Courier
