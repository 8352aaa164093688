import Courier.Proofs.Inbox.Contents
import Courier.Proofs.Inbox.History

/-!
# Courier — the stages of an inbox

A message goes through an inbox in stages: it arrives, it is opened, what is found in it is handed
to the listeners, and then to the confidential ones. Each stage passes on what it got or keeps it
waiting. There is one law for each stage, first for a step and then for a run, and one for each kind
of call that is made on the way.

* `Inbox.openings_run`, `Inbox.handed_run`, `Inbox.handedFrom_run` — the stages;
* `Inbox.answered_run` — the answers;
* `Inbox.delivered_run`, `Inbox.deliveredFrom_run`, `Inbox.removed_run` — the calls.
-/

namespace Courier

open scoped List

variable {M α β : Type} {keyPair? : String → Option KeyPair} {hasStore : Bool}

namespace MailCall

def delivered? : MailCall M → Option (M × Payload)
  | .deliver listener payload => some (listener, payload)
  | _ => none

def deliveredFrom? : MailCall M → Option (M × Payload × VerifyingKey)
  | .deliverFrom listener payload sender => some (listener, payload, sender)
  | _ => none

def removed? : MailCall M → Option (MailboxEntry × KeyPair)
  | .remove entry owner => some (entry, owner)
  | _ => none

end MailCall

/-- The call that removes an entry is made for entries only, and only if there is a store. -/
theorem MailService.removal_eq (s : MailService M) (o : Opening) :
    s.removal o =
      if s.store.isSome then (o.arrival.entry.map (MailCall.remove · o.owner)).toList else [] := by
  unfold removal
  cases o.arrival.entry with
  | none => cases s.store <;> rfl
  | some entry => cases s.store <;> rfl

/-- What is seen of the call that removes an entry. -/
theorem MailService.filterMap_removal (view : MailCall M → Option β) (s : MailService M)
    (o : Opening) :
    (s.removal o).filterMap view =
      if s.store.isSome then
        (o.arrival.entry.bind fun entry => view (.remove entry o.owner)).toList
      else [] := by
  rw [removal_eq]
  split
  · cases o.arrival.entry with
    | none => rfl
    | some entry =>
      rw [Option.map_some, Option.toList_some, List.filterMap_cons, Option.bind_some]
      cases view (.remove entry o.owner) <;> rfl
  · rfl

namespace Inbox

/-! ## What happens in a step -/

/-- The message that arrives. -/
def arrivedAt (b : Inbox M) : InboxStep M → List Arrival
  | .incoming i => (b.service.arrival? i).toList
  | _ => []

/-- The message that is opened, or cannot be. -/
def openedAt (b : Inbox M) : InboxStep M → List Opening
  | .openAt i => b.toOpen[i]?.toList
  | _ => []

/-- What is handed to the listeners, with these listeners. -/
def handedAt (b : Inbox M) : InboxStep M → List (Handover × List M)
  | .handAt i => b.toHand[i]?.toList.map (·, b.service.listeners.snapshot)
  | _ => []

/-- What is handed to the confidential listeners, with these listeners. -/
def handedFromAt (b : Inbox M) : InboxStep M → List (Handover × List M)
  | .handFromAt i => b.toHandFrom[i]?.toList.map (·, b.service.confidentialListeners.snapshot)
  | _ => []

/-- The answers that are given. -/
def answersAt (b : Inbox M) : InboxStep M → List (SealedMessage × Except MailError Bool)
  | .incoming i =>
    match b.service.arrival? i with
    | none => []
    | some a =>
      match b.service.accept a with
      | .inl answer => [(a.message, answer)]
      | .inr _ => []
  | .openAt i => b.toOpen[i]?.toList.map fun o => (o.arrival.message, o.answer)
  | _ => []

/-- The calls that are made. -/
def callsAt (b : Inbox M) (st : InboxStep M) : List (MailCall M) :=
  (openedAt b st).flatMap (fun o => if o.handover?.isSome then b.service.removal o else []) ++
    ((handedAt b st).flatMap (fun d => d.2.map (.deliver · d.1.payload)) ++
      (handedFromAt b st).flatMap (fun d => d.2.map (.deliverFrom · d.1.payload d.1.sender)))

/-- What arrives is said by the step and by whom the service listens to. -/
theorem arrivedAt_eq (b : Inbox M) (st : InboxStep M) :
    arrivedAt b st = st.brings b.service.nodeHandle.isSome b.service.storeHandle.isSome := by
  cases st with
  | incoming i =>
    cases i with
    | nodePayload payload =>
      cases payload with
      | confidential message =>
        simp only [arrivedAt, MailService.arrival?, InboxStep.brings]
        split <;> rfl
      | _ => rfl
    | entryAdded entry =>
      simp only [arrivedAt, MailService.arrival?, InboxStep.brings]
      split <;> rfl
    | byHand message => rfl
  | _ => rfl

/-- The messages that arrive are those of which the service hears. -/
theorem arrivals_run (b : Inbox M) (steps : List (InboxStep M)) :
    along arrivedAt b steps =
      InboxStep.arrivals b.service.nodeHandle.isSome b.service.storeHandle.isSome steps := by
  induction steps generalizing b with
  | nil => rfl
  | cons st steps ih =>
    obtain ⟨hnodes, hstore⟩ := handles_step b st
    rw [along, ih, arrivedAt_eq, hnodes, hstore, InboxStep.arrivals]

/-- A message is taken up for opening if the key store has its key pair. -/
theorem accept_eq {b : Inbox M} (h : b.Serves keyPair? hasStore) (a : Arrival) :
    b.service.accept a =
      match a.opening? keyPair? with
      | none => .inl (.ok false)
      | some o => .inr o := by
  unfold MailService.accept Arrival.opening?
  rw [h.keys, h.workers]
  cases keyPair? a.message.receiverKeyId <;> rfl

/-- What is found waits to be handed over. -/
@[simp] theorem opened_eq (o : Opening) (b : Inbox M) :
    b.opened o =
      { b with
        toHand := b.toHand ++ o.handover?.toList
        calls := b.calls ++ if o.handover?.isSome then b.service.removal o else []
        answers := b.answers ++ [(o.arrival.message, o.answer)] } := by
  unfold opened Opening.handover? Opening.answer
  cases o.outcome with
  | error e => simp [Except.toOption, Except.map]
  | ok h => rfl

/-- A message that arrives is not handed over yet. -/
@[simp] theorem toHand_arrive (a : Arrival) (b : Inbox M) : (b.arrive a).toHand = b.toHand := by
  unfold arrive
  split <;> rfl

@[simp] theorem toHandFrom_arrive (a : Arrival) (b : Inbox M) :
    (b.arrive a).toHandFrom = b.toHandFrom := by
  unfold arrive
  split <;> rfl

/-- Nobody is called when a message arrives. -/
@[simp] theorem calls_arrive (a : Arrival) (b : Inbox M) : (b.arrive a).calls = b.calls := by
  unfold arrive
  split <;> rfl

/-- What is taken from a place and what is left. -/
theorem cons_eraseIdx_perm {l : List α} {i : Nat} {x : α} (h : l[i]? = some x) :
    (x :: l.eraseIdx i).Perm l := by
  obtain ⟨hi, rfl⟩ := List.getElem?_eq_some_iff.mp h
  exact List.getElem_cons_eraseIdx_perm hi

/-! ## Messages that wait to be opened -/

/-- What was opened and what is to be opened is what was to be opened before, and what has arrived.
-/
theorem openings_step (b : Inbox M) (st : InboxStep M) (h : b.Serves keyPair? hasStore) :
    (openedAt b st ++ (b.step st).toOpen).Perm
      (b.toOpen ++ (arrivedAt b st).filterMap (·.opening? keyPair?)) := by
  cases st with
  | incoming i =>
    -- a message for an own key pair joins those that wait
    simp only [openedAt, arrivedAt, step]
    cases b.service.arrival? i with
    | none => simp
    | some a =>
      simp only [arrive, accept_eq h]
      cases ho : a.opening? keyPair? <;> simp [ho]
  | change c => simp [openedAt, arrivedAt, step]
  | openAt i =>
    -- the message that is opened was one of those that wait
    simp only [openedAt, arrivedAt, step]
    cases ho : b.toOpen[i]? with
    | none => simp
    | some o => simpa using cons_eraseIdx_perm ho
  | handAt i =>
    simp only [openedAt, arrivedAt, step]
    cases b.toHand[i]? <;> simp
  | handFromAt i =>
    simp only [openedAt, arrivedAt, step]
    cases b.toHandFrom[i]? <;> simp

/-- The messages for own key pairs were opened once, or wait. -/
theorem openings_run {b : Inbox M} (h : b.Serves keyPair? hasStore) (steps : List (InboxStep M)) :
    (along openedAt b steps ++ (b.run steps).toOpen).Perm
      (b.toOpen ++ (along arrivedAt b steps).filterMap (·.opening? keyPair?)) := by
  rw [← along_hom (List.filterMap _) List.filterMap_nil fun _ _ => List.filterMap_append]
  exact conserved openings_step h steps

/-! ## What waits to be handed over -/

/-- Payloads are handed over that were found, each once. -/
theorem handed_step (b : Inbox M) (st : InboxStep M) :
    ((handedAt b st).map Prod.fst ++ (b.step st).toHand).Perm
      (b.toHand ++ (openedAt b st).filterMap Opening.handover?) := by
  cases st with
  | incoming i =>
    simp only [handedAt, openedAt, step]
    cases b.service.arrival? i <;> simp
  | change c => simp [handedAt, openedAt, step]
  | openAt i =>
    -- what cannot be opened leaves nothing to hand over
    simp only [handedAt, openedAt, step]
    cases b.toOpen[i]? with
    | none => simp
    | some o => cases hh : o.handover? <;> simp [hh]
  | handAt i =>
    simp only [handedAt, openedAt, step]
    cases hh : b.toHand[i]? with
    | none => simp
    | some h => simpa using cons_eraseIdx_perm hh
  | handFromAt i =>
    simp only [handedAt, openedAt, step]
    cases b.toHandFrom[i]? <;> simp

/-- What was found in messages was handed to the listeners once, or waits. -/
theorem handed_run {b : Inbox M} (h : b.Serves keyPair? hasStore) (steps : List (InboxStep M)) :
    ((along handedAt b steps).map Prod.fst ++ (b.run steps).toHand).Perm
      (b.toHand ++ (along openedAt b steps).filterMap Opening.handover?) := by
  rw [← along_hom (List.filterMap _) List.filterMap_nil fun _ _ => List.filterMap_append,
    ← along_hom (List.map _) List.map_nil fun _ _ => List.map_append]
  exact conserved (fun b st _ => handed_step b st) h steps

/-- Each is handed to plain listeners first and to the others then. -/
theorem handedFrom_step (b : Inbox M) (st : InboxStep M) :
    ((handedFromAt b st).map Prod.fst ++ (b.step st).toHandFrom).Perm
      (b.toHandFrom ++ (handedAt b st).map Prod.fst) := by
  cases st with
  | incoming i =>
    simp only [handedFromAt, handedAt, step]
    cases b.service.arrival? i <;> simp
  | change c => simp [handedFromAt, handedAt, step]
  | openAt i =>
    simp only [handedFromAt, handedAt, step]
    cases b.toOpen[i]? <;> simp
  | handAt i =>
    simp only [handedFromAt, handedAt, step]
    cases b.toHand[i]? <;> simp
  | handFromAt i =>
    simp only [handedFromAt, handedAt, step]
    cases hh : b.toHandFrom[i]? with
    | none => simp
    | some h => simpa using cons_eraseIdx_perm hh

/-- What the listeners got the confidential ones got once, or it waits. -/
theorem handedFrom_run {b : Inbox M} (h : b.Serves keyPair? hasStore)
    (steps : List (InboxStep M)) :
    ((along handedFromAt b steps).map Prod.fst ++ (b.run steps).toHandFrom).Perm
      (b.toHandFrom ++ (along handedAt b steps).map Prod.fst) := by
  rw [← along_hom (List.map _) List.map_nil fun _ _ => List.map_append,
    ← along_hom (List.map _) List.map_nil fun _ _ => List.map_append]
  exact conserved (fun b st _ => handedFrom_step b st) h steps

/-! ## Answers -/

/-- The answers that are given when what waits is opened. -/
def answersDue (b : Inbox M) : List (SealedMessage × Except MailError Bool) :=
  b.toOpen.map fun o => (o.arrival.message, o.answer)

/-- Answers are added to those that were given. -/
theorem answers_step (b : Inbox M) (st : InboxStep M) :
    (b.step st).answers = b.answers ++ answersAt b st := by
  cases st with
  | incoming i =>
    simp only [answersAt, step]
    cases b.service.arrival? i with
    | none => simp
    | some a =>
      simp only [arrive]
      cases b.service.accept a <;> simp
  | change c => simp [answersAt, step]
  | openAt i =>
    simp only [answersAt, step]
    cases b.toOpen[i]? <;> simp
  | handAt i =>
    simp only [answersAt, step]
    cases b.toHand[i]? <;> simp
  | handFromAt i =>
    simp only [answersAt, step]
    cases b.toHandFrom[i]? <;> simp

/-- Each message that arrives is answered once. -/
theorem answered_step (b : Inbox M) (st : InboxStep M) (h : b.Serves keyPair? hasStore) :
    (answersAt b st ++ (b.step st).answersDue).Perm
      (b.answersDue ++ (arrivedAt b st).map fun a => (a.message, a.message.answer keyPair?)) := by
  unfold answersDue
  cases st with
  | incoming i =>
    simp only [answersAt, arrivedAt, step]
    cases b.service.arrival? i with
    | none => simp
    | some a =>
      simp only [arrive, accept_eq h]
      cases ho : a.opening? keyPair? with
      -- answered at once, or the answer is due like that of the others
      | none => simpa [Arrival.answer_of_no_opening ho] using (List.perm_append_singleton _ _).symm
      | some o => simp [Arrival.answer_of_opening ho]
  | change c => simp [answersAt, arrivedAt, step]
  | openAt i =>
    simp only [answersAt, arrivedAt, step]
    cases ho : b.toOpen[i]? with
    | none => simp
    | some o => simpa using (cons_eraseIdx_perm ho).map fun o => (o.arrival.message, o.answer)
  | handAt i =>
    simp only [answersAt, arrivedAt, step]
    cases b.toHand[i]? <;> simp
  | handFromAt i =>
    simp only [answersAt, arrivedAt, step]
    cases b.toHandFrom[i]? <;> simp

/-- Every message was answered once, or its answer is due. -/
theorem answered_run {b : Inbox M} (h : b.Serves keyPair? hasStore) (steps : List (InboxStep M)) :
    ((b.run steps).answers ++ (b.run steps).answersDue).Perm
      (b.answers ++ (b.answersDue ++
        (along arrivedAt b steps).map fun a => (a.message, a.message.answer keyPair?))) := by
  rw [record_run (fun b st _ => answers_step b st) h, List.append_assoc,
    ← along_hom (List.map _) List.map_nil fun _ _ => List.map_append]
  exact (conserved answered_step h steps).append_left _

/-! ## Calls -/

/-- What the listeners got so far. -/
def delivered (b : Inbox M) : List (M × Payload) := b.calls.filterMap MailCall.delivered?

/-- What the confidential listeners got so far. -/
def deliveredFrom (b : Inbox M) : List (M × Payload × VerifyingKey) :=
  b.calls.filterMap MailCall.deliveredFrom?

/-- The entries that the store was told to remove so far, each with the key pair that opened it. -/
def removed (b : Inbox M) : List (MailboxEntry × KeyPair) := b.calls.filterMap MailCall.removed?

/-- What the listeners get when something is handed to them. -/
def deliveries : Handover × List M → List (M × Payload) := fun d => d.2.map (·, d.1.payload)

/-- What the confidential listeners get when something is handed to them. -/
def deliveriesFrom : Handover × List M → List (M × Payload × VerifyingKey) :=
  fun d => d.2.map (·, d.1.payload, d.1.sender)

/-- Calls are added to those that were made. -/
theorem calls_step (b : Inbox M) (st : InboxStep M) :
    (b.step st).calls = b.calls ++ callsAt b st := by
  unfold callsAt
  cases st with
  | incoming i =>
    simp only [openedAt, handedAt, handedFromAt, step]
    cases b.service.arrival? i <;> simp
  | change c => simp [openedAt, handedAt, handedFromAt, step]
  | openAt i =>
    simp only [openedAt, handedAt, handedFromAt, step]
    cases b.toOpen[i]? <;> simp
  | handAt i =>
    simp only [openedAt, handedAt, handedFromAt, step]
    cases b.toHand[i]? <;> simp [MailService.handPlain]
  | handFromAt i =>
    simp only [openedAt, handedAt, handedFromAt, step]
    cases b.toHandFrom[i]? <;> simp [MailService.handConfidential]

theorem flatMap_nothing (l : List α) : l.flatMap (fun _ => ([] : List β)) = [] :=
  List.flatMap_eq_nil_iff.mpr fun _ _ => rfl

/-- What is seen of the calls of a step. -/
theorem filterMap_calls_step (view : MailCall M → Option β) (b : Inbox M) (st : InboxStep M) :
    (b.step st).calls.filterMap view =
      b.calls.filterMap view ++
        ((openedAt b st).flatMap
            (fun o => if o.handover?.isSome then (b.service.removal o).filterMap view else []) ++
          ((handedAt b st).flatMap
              (fun d => d.2.filterMap fun m => view (.deliver m d.1.payload)) ++
            (handedFromAt b st).flatMap
              (fun d => d.2.filterMap fun m => view (.deliverFrom m d.1.payload d.1.sender)))) := by
  simp only [calls_step, callsAt, List.filterMap_append, List.filterMap_flatMap,
    List.filterMap_map, Function.comp_def, apply_ite (List.filterMap view), List.filterMap_nil]

/-- Plain listeners are called with the payloads that are handed over. -/
theorem delivered_step (b : Inbox M) (st : InboxStep M) :
    (b.step st).delivered = b.delivered ++ (handedAt b st).flatMap deliveries := by
  unfold delivered deliveries
  rw [filterMap_calls_step]
  simp [MailService.filterMap_removal, MailCall.delivered?, flatMap_nothing]

/-- The others are called with the sender, too. -/
theorem deliveredFrom_step (b : Inbox M) (st : InboxStep M) :
    (b.step st).deliveredFrom =
      b.deliveredFrom ++ (handedFromAt b st).flatMap deliveriesFrom := by
  unfold deliveredFrom deliveriesFrom
  rw [filterMap_calls_step]
  simp [MailService.filterMap_removal, MailCall.deliveredFrom?, flatMap_nothing]

/-- An entry is removed from the store when it was opened. -/
theorem removed_step (b : Inbox M) (st : InboxStep M) (h : b.Serves keyPair? hasStore) :
    (b.step st).removed = b.removed ++ (openedAt b st).filterMap (Opening.removal? hasStore) := by
  -- with or without a store, an entry, and something to hand over
  have hremoval : ∀ o, (if o.handover?.isSome then
      (b.service.removal o).filterMap MailCall.removed? else []) =
        (o.removal? hasStore).toList := by
    intro o
    rw [MailService.filterMap_removal, h.store]
    unfold Opening.removal?
    cases hasStore <;> cases o.handover?.isSome <;> cases o.arrival.entry <;> rfl
  unfold removed
  rw [filterMap_calls_step, List.filterMap_eq_flatMap_toList _ (openedAt b st)]
  simp [hremoval, MailCall.removed?, flatMap_nothing]

/-- Every listener got what was handed to the listeners while it was one of them, once. -/
theorem delivered_run {b : Inbox M} (h : b.Serves keyPair? hasStore) (steps : List (InboxStep M)) :
    (b.run steps).delivered = b.delivered ++ (along handedAt b steps).flatMap deliveries := by
  rw [← along_hom (List.flatMap deliveries) List.flatMap_nil fun _ _ => List.flatMap_append]
  exact record_run (fun b st _ => delivered_step b st) h steps

/-- So it is for the calls with the sender along a run. -/
theorem deliveredFrom_run {b : Inbox M} (h : b.Serves keyPair? hasStore)
    (steps : List (InboxStep M)) :
    (b.run steps).deliveredFrom =
      b.deliveredFrom ++ (along handedFromAt b steps).flatMap deliveriesFrom := by
  rw [← along_hom (List.flatMap deliveriesFrom) List.flatMap_nil fun _ _ => List.flatMap_append]
  exact record_run (fun b st _ => deliveredFrom_step b st) h steps

/-- The entries of the messages that were opened were removed once. -/
theorem removed_run {b : Inbox M} (h : b.Serves keyPair? hasStore) (steps : List (InboxStep M)) :
    (b.run steps).removed =
      b.removed ++ (along openedAt b steps).filterMap (Opening.removal? hasStore) := by
  rw [← along_hom (List.filterMap (Opening.removal? hasStore)) List.filterMap_nil
    fun _ _ => List.filterMap_append]
  exact record_run removed_step h steps

/-- Nothing is done but handing to listeners and removing entries. -/
theorem kinds_of_callsAt {b : Inbox M} {st : InboxStep M} {c : MailCall M} (h : c ∈ callsAt b st) :
    c.delivered?.isSome ∨ c.deliveredFrom?.isSome ∨ c.removed?.isSome := by
  rcases List.mem_append.mp h with h | h
  · obtain ⟨o, -, h⟩ := List.mem_flatMap.mp h
    split at h
    · rw [MailService.removal_eq] at h
      split at h
      · obtain ⟨entry, -, rfl⟩ := Option.map_eq_some_iff.mp (Option.mem_toList.mp h)
        exact .inr (.inr rfl)
      · cases h
    · cases h
  · rcases List.mem_append.mp h with h | h
    · obtain ⟨d, -, h⟩ := List.mem_flatMap.mp h
      obtain ⟨m, -, rfl⟩ := List.mem_map.mp h
      exact .inl rfl
    · obtain ⟨d, -, h⟩ := List.mem_flatMap.mp h
      obtain ⟨m, -, rfl⟩ := List.mem_map.mp h
      exact .inr (.inl rfl)

/-- There are no other calls than these. -/
theorem kinds_run {b : Inbox M} (h : b.Serves keyPair? hasStore) (hb : b.calls = [])
    {steps : List (InboxStep M)} {c : MailCall M} (hc : c ∈ (b.run steps).calls) :
    c.delivered?.isSome ∨ c.deliveredFrom?.isSome ∨ c.removed?.isSome := by
  rw [record_run (fun b st _ => calls_step b st) h, hb, List.nil_append] at hc
  obtain ⟨pre, st, post, -, hst⟩ := mem_along hc
  exact kinds_of_callsAt hst

end Inbox

end Courier
