import Courier.Mail.Inbox
import Mathlib.Data.List.Perm.Basic

/-!
# Courier — runs of an inbox

What the steps of a run say by themselves, without the inbox that goes through them: which messages
the service hears of, and which listeners are registered in the end. And how a law of every step
becomes a law of a run.

* `InboxStep.arrivals`, `InboxStep.registered` — the messages and the listeners;
* `InboxStep.arrivals_of_left` — after a shutdown the service hears only of what comes in by hand;
* `Inbox.record_run`, `Inbox.conserved` — from steps to runs;
* `Inbox.entries_run` — the sets of listeners hold those that are registered;
* `Inbox.serves_step` — the key pairs and the store stay as they are.
-/

namespace Courier

open scoped List

variable {M α β : Type} {keyPair? : String → Option KeyPair} {hasStore : Bool}

namespace InboxStep

/-- The message of which a service hears in a step, if it listens to the nodes, and if it listens to
its store. -/
def brings (nodes store : Bool) : InboxStep M → List Arrival
  | .incoming (.nodePayload (.confidential message)) => if nodes then [⟨message, none⟩] else []
  | .incoming (.entryAdded entry) => if store then [⟨entry.message, some entry⟩] else []
  | .incoming (.byHand message) => [⟨message, none⟩]
  | _ => []

def leavesNodes : InboxStep M → Bool
  | .change .leaveNodes => true
  | _ => false

def leavesStore : InboxStep M → Bool
  | .change .leaveStore => true
  | _ => false

/-- The messages of which a service hears. -/
def arrivals (nodes store : Bool) : List (InboxStep M) → List Arrival
  | [] => []
  | st :: steps =>
    st.brings nodes store ++ arrivals (nodes && !st.leavesNodes) (store && !st.leavesStore) steps

/-- A message that comes in by hand. -/
def byHand? : InboxStep M → Option Arrival
  | .incoming (.byHand message) => some ⟨message, none⟩
  | _ => none

/-- A worker does some of the work that waits. -/
def isWork : InboxStep M → Bool
  | .openAt _ | .handAt _ | .handFromAt _ => true
  | _ => false

/-- The listener under a handle is taken out of a set. -/
def evicts (circle : Circle) (id : ListenerId) : InboxStep M → Bool
  | .change (.remove c id') => c = circle ∧ id' = id
  | .change (.clear c) => c = circle
  | _ => false

/-- The listener under a handle stays in a set. -/
def keeps (circle : Circle) (steps : List (InboxStep M)) (id : ListenerId) : Bool :=
  steps.all fun st => !st.evicts circle id

/-- The listener that is added to a set. -/
def added (circle : Circle) : InboxStep M → List (ListenerId × M)
  | .change (.add c id m) => if c = circle then [(id, m)] else []
  | _ => []

/-- The listeners that were added to a set and not taken out since, with their handles. -/
def registered (circle : Circle) : List (InboxStep M) → List (ListenerId × M)
  | [] => []
  | st :: steps => (st.added circle).filter (keeps circle steps ·.1) ++ registered circle steps

/-! ## What a service hears of -/

/-- Steps bring what they bring as long as the service listens. -/
theorem arrivals_append (nodes store : Bool) (pre post : List (InboxStep M)) :
    arrivals nodes store (pre ++ post) =
      arrivals nodes store pre ++
        arrivals (nodes && pre.all (!·.leavesNodes)) (store && pre.all (!·.leavesStore)) post := by
  induction pre generalizing nodes store with
  | nil =>
    rw [List.all_nil, List.all_nil, Bool.and_true, Bool.and_true]
    rfl
  | cons st pre ih =>
    rw [List.cons_append, arrivals, ih, arrivals, List.append_assoc, List.all_cons, List.all_cons,
      Bool.and_assoc, Bool.and_assoc]

/-- After `shutdown` messages come in by hand only. -/
theorem brings_of_left (st : InboxStep M) : st.brings false false = st.byHand?.toList := by
  cases st with
  | incoming i =>
    cases i with
    | nodePayload payload => cases payload <;> rfl
    | entryAdded entry => rfl
    | byHand message => rfl
  | change c => rfl
  | openAt i => rfl
  | handAt i => rfl
  | handFromAt i => rfl

/-- A service that has left the nodes and its store hears only of what comes in by hand. -/
theorem arrivals_of_left {pre : List (InboxStep M)} (hnodes : pre.any leavesNodes)
    (hstore : pre.any leavesStore) (nodes store : Bool) (post : List (InboxStep M)) :
    arrivals nodes store (pre ++ post) =
      arrivals nodes store pre ++ post.filterMap byHand? := by
  -- a step that leaves is not among steps that all stay
  have hnodes' : pre.all (!·.leavesNodes) = false := by
    rw [List.all_eq_not_any_not]
    simpa using hnodes
  have hstore' : pre.all (!·.leavesStore) = false := by
    rw [List.all_eq_not_any_not]
    simpa using hstore
  rw [arrivals_append, hnodes', hstore', Bool.and_false, Bool.and_false]
  congr 1
  induction post with
  | nil => rfl
  | cons st post ih =>
    rw [arrivals, brings_of_left, Bool.false_and, Bool.false_and, ih,
      List.filterMap_eq_flatMap_toList, List.filterMap_eq_flatMap_toList]
    rfl

/-- Only a service that listens to a store gets entries. -/
theorem entry_of_arrivals {nodes store : Bool} {steps : List (InboxStep M)} {a : Arrival}
    (h : a ∈ arrivals nodes store steps) (hentry : a.entry.isSome) : store = true := by
  induction steps generalizing nodes store with
  | nil => cases h
  | cons st steps ih =>
    rcases List.mem_append.mp h with hhere | hlater
    · unfold brings at hhere
      -- of the four ways in which a step may bring a message, one brings an entry
      split at hhere
      · split at hhere
        · obtain rfl := List.mem_singleton.mp hhere
          cases hentry
        · cases hhere
      · split at hhere
        · assumption
        · cases hhere
      · obtain rfl := List.mem_singleton.mp hhere
        cases hentry
      · cases hhere
    · exact (Bool.and_eq_true_iff.mp (ih hlater)).1

end InboxStep

/-! ## The service during a run -/

namespace MailService

/-- One of the two sets of listeners. -/
def members (circle : Circle) (s : MailService M) : Listeners M :=
  match circle with
  | .plain => s.listeners
  | .confidential => s.confidentialListeners

/-- Adding a listener changes one circle. -/
theorem entries_add (s : MailService M) (c circle : Circle) (id : ListenerId) (m : M) :
    ((s.change (.add c id m)).members circle).entries =
      (s.members circle).entries ++ if c = circle then [(id, m)] else [] := by
  cases c <;> cases circle <;> first | rfl | exact (List.append_nil _).symm

/-- So does removing one. -/
theorem entries_remove (s : MailService M) (c circle : Circle) (id : ListenerId) :
    ((s.change (.remove c id)).members circle).entries =
      (s.members circle).entries.filter fun e => !(c = circle ∧ id = e.1) := by
  cases c <;> cases circle <;>
    simp [change, members, removeListener, removeConfidentialListener, Listeners.remove, eq_comm]

/-- Clearing a circle leaves the others as they are. -/
theorem entries_clear (s : MailService M) (c circle : Circle) :
    ((s.change (.clear c)).members circle).entries =
      (s.members circle).entries.filter fun _ => !(c = circle) := by
  cases c <;> cases circle <;> simp [change, members, clear, Listeners.empty]

/-- Where nobody is taken out of a set, all stay. -/
theorem filter_evicts (entries : List (ListenerId × M)) {st : InboxStep M} {circle : Circle}
    (h : ∀ id, st.evicts circle id = false) :
    entries.filter (fun e => !st.evicts circle e.1) = entries := by
  refine List.filter_eq_self.mpr fun e _ => ?_
  rw [h]
  rfl

/-- A change takes listeners out of a set, or adds one. -/
theorem entries_change (s : MailService M) (c : ServiceChange M) (circle : Circle) :
    ((s.change c).members circle).entries =
      (s.members circle).entries.filter (fun e => !(InboxStep.change c).evicts circle e.1) ++
        (InboxStep.change c).added circle := by
  cases c with
  | add c id m =>
    rw [entries_add, filter_evicts _ fun _ => rfl]
    rfl
  | remove c id =>
    rw [entries_remove]
    exact (List.append_nil _).symm
  | clear c =>
    rw [entries_clear]
    exact (List.append_nil _).symm
  | _ =>
    rw [filter_evicts _ fun _ => rfl]
    exact (List.append_nil _).symm

/-- No change touches the key pairs, the store or the workers. -/
theorem change_fixed (s : MailService M) (c : ServiceChange M) :
    (s.change c).keyPair? = s.keyPair? ∧ (s.change c).store = s.store ∧
      (s.change c).workersRun = s.workersRun := by
  rcases c with ⟨_ | _, _, _⟩ | ⟨_ | _, _⟩ | ⟨_ | _⟩ | _ | _ <;> exact ⟨rfl, rfl, rfl⟩

/-- The service listens to the nodes and to its store until it leaves them. -/
theorem change_handles (s : MailService M) (c : ServiceChange M) :
    (s.change c).nodeHandle.isSome =
        (s.nodeHandle.isSome && !(InboxStep.change c).leavesNodes) ∧
      (s.change c).storeHandle.isSome =
        (s.storeHandle.isSome && !(InboxStep.change c).leavesStore) := by
  rcases c with ⟨_ | _, _, _⟩ | ⟨_ | _, _⟩ | ⟨_ | _⟩ | _ | _ <;>
    simp [change, addListener, addConfidentialListener, removeListener,
      removeConfidentialListener, clear, leaveNodes, leaveStore, InboxStep.leavesNodes,
      InboxStep.leavesStore]

end MailService

namespace Inbox

/-- What is found in a message does not change the service. -/
theorem service_opened (o : Opening) (b : Inbox M) : (b.opened o).service = b.service := by
  unfold opened
  split <;> rfl

/-- Nor does a message that arrives. -/
theorem service_arrive (a : Arrival) (b : Inbox M) : (b.arrive a).service = b.service := by
  unfold arrive
  split <;> rfl

/-- Only changes change the service. -/
theorem service_step (b : Inbox M) (st : InboxStep M) :
    (b.step st).service =
      match st with
      | .change c => b.service.change c
      | _ => b.service := by
  cases st with
  | incoming i =>
    rw [step]
    split
    · rfl
    · exact service_arrive _ b
  | change c => rfl
  | openAt i =>
    rw [step]
    split
    · rfl
    · exact service_opened _ _
  | handAt i =>
    rw [step]
    split <;> rfl
  | handFromAt i =>
    rw [step]
    split <;> rfl

/-- A step evicts listeners and adds some. -/
theorem entries_step (b : Inbox M) (st : InboxStep M) (circle : Circle) :
    ((b.step st).service.members circle).entries =
      (b.service.members circle).entries.filter (fun e => !st.evicts circle e.1) ++
        st.added circle := by
  rw [service_step]
  cases st with
  | change c => exact b.service.entries_change c circle
  | _ =>
    rw [MailService.filter_evicts _ fun _ => rfl]
    exact (List.append_nil _).symm

/-- The listeners of a set are those that were there and stayed, and those that were added since and
stayed, in this order. -/
theorem entries_run (b : Inbox M) (steps : List (InboxStep M)) (circle : Circle) :
    ((b.run steps).service.members circle).entries =
      (b.service.members circle).entries.filter (InboxStep.keeps circle steps ·.1) ++
        InboxStep.registered circle steps := by
  induction steps generalizing b with
  | nil =>
    rw [InboxStep.registered, List.append_nil]
    exact (List.filter_eq_self.mpr fun _ _ => rfl).symm
  | cons st steps ih =>
    -- who stays during all steps stays during the first one and during the others
    have hkeeps : ∀ e : ListenerId × M, InboxStep.keeps circle (st :: steps) e.1 =
        (!st.evicts circle e.1 && InboxStep.keeps circle steps e.1) := fun _ => rfl
    calc ((b.run (st :: steps)).service.members circle).entries
        = ((b.step st).service.members circle).entries.filter (InboxStep.keeps circle steps ·.1) ++
            InboxStep.registered circle steps := ih (b.step st)
      _ = (b.service.members circle).entries.filter (InboxStep.keeps circle (st :: steps) ·.1) ++
            InboxStep.registered circle (st :: steps) := by
        rw [entries_step, List.filter_append, List.filter_filter, List.append_assoc,
          InboxStep.registered]
        simp only [hkeeps, Bool.and_comm]

/-- The service of an inbox has these key pairs, has a store or not, and its workers are running. -/
structure Serves (keyPair? : String → Option KeyPair) (hasStore : Bool) (b : Inbox M) : Prop where
  keys : b.service.keyPair? = keyPair?
  store : b.service.store.isSome = hasStore
  workers : b.service.workersRun = true

/-- No step changes which key pairs there are, nor whether there is a store. -/
theorem serves_step (b : Inbox M) (st : InboxStep M) (h : b.Serves keyPair? hasStore) :
    (b.step st).Serves keyPair? hasStore := by
  have hservice := service_step b st
  cases st with
  | change c =>
    obtain ⟨hkeys, hstore, hworkers⟩ := b.service.change_fixed c
    exact ⟨hkeys.trans h.keys, (congrArg _ hstore).trans h.store, hworkers.trans h.workers⟩
  | _ => exact ⟨hservice ▸ h.keys, hservice ▸ h.store, hservice ▸ h.workers⟩

/-- The service listens to nodes and to its store until it leaves them. -/
theorem handles_step (b : Inbox M) (st : InboxStep M) :
    (b.step st).service.nodeHandle.isSome = (b.service.nodeHandle.isSome && !st.leavesNodes) ∧
      (b.step st).service.storeHandle.isSome =
        (b.service.storeHandle.isSome && !st.leavesStore) := by
  rw [service_step]
  cases st with
  | change c => exact b.service.change_handles c
  | _ => exact ⟨(Bool.and_true _).symm, (Bool.and_true _).symm⟩

/-! ## From steps to runs -/

/-- What the steps of a run show, one after the other. -/
def along (f : Inbox M → InboxStep M → List α) : Inbox M → List (InboxStep M) → List α
  | _, [] => []
  | b, st :: steps => f b st ++ along f (b.step st) steps

/-- What is shown along a run was shown by one of its steps. -/
theorem mem_along {f : Inbox M → InboxStep M → List α} {b : Inbox M} {steps : List (InboxStep M)}
    {x : α} (h : x ∈ along f b steps) :
    ∃ pre st post, steps = pre ++ st :: post ∧ x ∈ f (b.run pre) st := by
  induction steps generalizing b with
  | nil => cases h
  | cons st steps ih =>
    rcases List.mem_append.mp h with hhere | hlater
    · exact ⟨[], st, steps, rfl, hhere⟩
    · obtain ⟨pre, st', post, rfl, hx⟩ := ih hlater
      exact ⟨st :: pre, st', post, rfl, hx⟩

/-- What is drawn from each step is drawn from the run. -/
theorem along_hom {f : Inbox M → InboxStep M → List α} (g : List α → List β) (hnil : g [] = [])
    (happend : ∀ xs ys, g (xs ++ ys) = g xs ++ g ys) (b : Inbox M) (steps : List (InboxStep M)) :
    along (fun b st => g (f b st)) b steps = g (along f b steps) := by
  induction steps generalizing b with
  | nil => exact hnil.symm
  | cons st steps ih => rw [along, along, ih, happend]

/-- What every step appends to a record is what a run appends to it. -/
theorem record_run {record : Inbox M → List α} {f : Inbox M → InboxStep M → List α}
    (hstep : ∀ b st, b.Serves keyPair? hasStore → record (b.step st) = record b ++ f b st)
    {b : Inbox M} (h : b.Serves keyPair? hasStore) (steps : List (InboxStep M)) :
    record (b.run steps) = record b ++ along f b steps := by
  induction steps generalizing b with
  | nil => exact (List.append_nil _).symm
  | cons st steps ih =>
    rw [along, ← List.append_assoc, ← hstep b st h]
    exact ih (serves_step b st h)

/-- **Conservation**: if each step passes on or keeps what there was and what it got, then so does a
run. -/
theorem conserved {kept : Inbox M → List α} {got passed : Inbox M → InboxStep M → List α}
    (hstep : ∀ b st, b.Serves keyPair? hasStore →
      (passed b st ++ kept (b.step st)).Perm (kept b ++ got b st))
    {b : Inbox M} (h : b.Serves keyPair? hasStore) (steps : List (InboxStep M)) :
    (along passed b steps ++ kept (b.run steps)).Perm (kept b ++ along got b steps) := by
  induction steps generalizing b with
  | nil => exact List.Perm.of_eq (List.append_nil _).symm
  | cons st steps ih =>
    -- what the first step keeps is what the others find
    calc along passed b (st :: steps) ++ kept (b.run (st :: steps))
        = passed b st ++ (along passed (b.step st) steps ++ kept ((b.step st).run steps)) :=
          List.append_assoc ..
      _ ~ passed b st ++ (kept (b.step st) ++ along got (b.step st) steps) :=
          (ih (serves_step b st h)).append_left _
      _ = (passed b st ++ kept (b.step st)) ++ along got (b.step st) steps :=
          (List.append_assoc ..).symm
      _ ~ (kept b ++ got b st) ++ along got (b.step st) steps :=
          (hstep b st h).append_right _
      _ = kept b ++ along got b (st :: steps) := List.append_assoc ..

end Inbox

end Courier
