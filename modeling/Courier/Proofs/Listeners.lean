import Courier.Listeners.Sets
import Mathlib.Data.List.Nodup
import Mathlib.Data.List.Pairwise

/-!
# Courier — what listeners see of a set that they change

Listeners may add, remove and clear while they are called. A notification calls the listeners that
were in the set when it began, and what it leaves is what their changes make of the sets one after
the other. Whatever is done, a set holds what was added to it and neither removed nor cleared since,
in the order in which it was added, and each handle stands for one listener in one set.

Nothing is assumed of the listeners but that they do not notify again: which changes one makes may
depend on all that happened so far.

* `Listeners.standing` — what is left in a set, read off the record of what happened;
* `Listeners.Turns` — listeners that are called one after the other;
* `Usage.WellKept` — what holds of sets in use, and of what may be done with them next;
* `Usage.run_wellKept` — it holds after any steps.
-/

namespace Courier.Listeners

variable {ι α : Type}

-- ---------------------------------------------------------------------------
-- What the record says
-- ---------------------------------------------------------------------------

/-- The handle that was given out. -/
def Event.given? : Event ι α → Option ListenerId
  | .added _ id _ => some id
  | _ => none

/-- The listener that was called. -/
def Event.called? : Event ι α → Option α
  | .called l => some l
  | _ => none

/-- Handles that only grow are given out once each. -/
theorem added_once {es : List (Event ι α)}
    (h : (es.filterMap Event.given?).Pairwise fun a b => b.newerThan a) {i j : ι} {id : ListenerId}
    {l m : α} (hi : .added i id l ∈ es) (hj : .added j id m ∈ es) : i = j ∧ l = m := by
  have apart : es.Pairwise fun a b => a.given? = some id → b.given? = some id → False := by
    refine (List.pairwise_filterMap.1 h).imp fun hab ha hb => ?_
    simpa [ListenerId.newerThan] using hab id ha id hb
  by_contra hne
  have : Std.Symm fun a b : Event ι α => a.given? = some id → b.given? = some id → False :=
    ⟨fun _ _ hab hb ha => hab ha hb⟩
  refine apart.forall hi hj (fun heq => hne ?_) rfl rfl
  cases heq
  exact ⟨rfl, rfl⟩

variable [DecidableEq ι]

/-- Whatever is in a set under this handle is taken out. -/
def Event.takes (i : ι) (id : ListenerId) : Event ι α → Bool
  | .removed j x _ => j = i ∧ x = id
  | .cleared j => j = i
  | _ => false

/-- What was added to a set and neither removed nor cleared since, in order. -/
def standing (i : ι) : List (Event ι α) → List (ListenerId × α)
  | [] => []
  | .added j id l :: later =>
    if j = i ∧ later.all (!·.takes i id) then (id, l) :: standing i later else standing i later
  | _ :: later => standing i later

/-- Who is in a set after two parts of a record. -/
theorem standing_append (i : ι) (es later : List (Event ι α)) :
    standing i (es ++ later) =
      (standing i es).filter (fun x => later.all (!·.takes i x.1)) ++ standing i later := by
  induction es with
  | nil => rfl
  | cons e es ih =>
    cases e with
    | added j id l =>
      simp only [List.cons_append, standing, List.all_append, Bool.and_eq_true, ih]
      by_cases hes : j = i ∧ es.all (!·.takes i id) = true
      · by_cases hl : later.all (!·.takes i id) = true
        · rw [if_pos ⟨hes.1, hes.2, hl⟩, if_pos hes, List.filter_cons, if_pos hl, List.cons_append]
        · rw [if_neg fun h => hl h.2.2, if_pos hes, List.filter_cons, if_neg hl]
      · rw [if_neg fun h => hes ⟨h.1, h.2.1⟩, if_neg hes]
    | removed j id wasThere => exact ih
    | cleared j => exact ih
    | called l => exact ih

/-- What stands was added, and nothing took it out afterwards. -/
theorem mem_standing {i : ι} {id : ListenerId} {l : α} {es : List (Event ι α)} :
    (id, l) ∈ standing i es ↔
      ∃ before later, es = before ++ .added i id l :: later ∧ ∀ e ∈ later, e.takes i id = false := by
  constructor
  · intro h
    induction es with
    | nil => nomatch h
    | cons e es ih =>
      have further (h : (id, l) ∈ standing i es) : ∃ before later,
          e :: es = before ++ .added i id l :: later ∧ ∀ x ∈ later, x.takes i id = false := by
        obtain ⟨before, later, rfl, hl⟩ := ih h
        exact ⟨e :: before, later, rfl, hl⟩
      cases e with
      | added j x m =>
        rw [standing] at h
        split at h
        · rename_i hj
          rcases List.mem_cons.1 h with h | h
          · cases h
            exact ⟨[], es, by rw [hj.1]; rfl, by simpa using hj.2⟩
          · exact further h
        · exact further h
      | removed j x wasThere => exact further h
      | cleared j => exact further h
      | called m => exact further h
  · rintro ⟨before, later, rfl, hl⟩
    have here : (id, l) ∈ standing i (.added i id l :: later) := by
      rw [standing, if_pos ⟨rfl, by simpa using hl⟩]
      exact List.mem_cons_self
    rw [standing_append]
    exact List.mem_append_right _ here

/-- The handles that stand are some of those that were given out, in the same order. -/
theorem standing_sublist (i : ι) (es : List (Event ι α)) :
    List.Sublist ((standing i es).map Prod.fst) (es.filterMap Event.given?) := by
  induction es with
  | nil => exact .slnil
  | cons e es ih =>
    cases e with
    | added j id l =>
      rw [standing, List.filterMap_cons_some (f := Event.given?) (b := id) rfl]
      split
      · exact ih.cons_cons id
      · exact ih.cons id
    | removed j id wasThere => exact ih
    | cleared j => exact ih
    | called l => exact ih

-- ---------------------------------------------------------------------------
-- One change
-- ---------------------------------------------------------------------------

namespace Sets

/-- A set that is put in place is there. -/
@[simp] theorem set_put_self (i : ι) (l : Listeners α) (s : Sets ι α) : (s.put i l).set i = l :=
  if_pos rfl

/-- The other sets stay as they are. -/
theorem set_put_of_ne {i j : ι} (h : j ≠ i) (l : Listeners α) (s : Sets ι α) :
    (s.put i l).set j = s.set j :=
  if_neg h

/-- What a change makes of each set: it takes out what it takes out, and adds what it adds. -/
theorem entries_change (c : Change ι α) (s : Sets ι α) (i : ι) :
    ((s.change c).2.set i).entries =
      ((s.set i).entries.filter fun x => !(s.change c).1.takes i x.1) ++
        standing i [(s.change c).1] := by
  cases c with
  | add j l =>
    by_cases h : j = i
    · subst h
      simp [change, add, put, Listeners.add, standing, Event.takes]
    · simp [change, add, set_put_of_ne (Ne.symm h), standing, h, Event.takes]
  | remove j id =>
    by_cases h : j = i
    · subst h
      simp [change, remove, Listeners.remove, standing, Event.takes, eq_comm]
    · simp [change, remove, set_put_of_ne (Ne.symm h), standing, h, Event.takes]
  | clear j =>
    by_cases h : j = i
    · subst h
      simp [change, clear, empty, standing, Event.takes]
    · simp [change, clear, set_put_of_ne (Ne.symm h), standing, h, Event.takes]

/-- A handle that is given out is the next one, and the counter moves on. -/
theorem next_change (c : Change ι α) (s : Sets ι α) :
    ((s.change c).1.given? = some ⟨s.next⟩ ∧ (s.change c).2.next = s.next + 1) ∨
      ((s.change c).1.given? = none ∧ (s.change c).2.next = s.next) := by
  cases c with
  | add i l => exact .inl ⟨rfl, rfl⟩
  | remove i id => exact .inr ⟨rfl, rfl⟩
  | clear i => exact .inr ⟨rfl, rfl⟩

end Sets

/-- A handle in use stands for an entry. -/
theorem contains_iff {id : ListenerId} {s : Listeners α} :
    s.contains id = true ↔ ∃ l, (id, l) ∈ s.entries := by
  rw [contains, List.any_eq_true]
  constructor
  · rintro ⟨⟨x, l⟩, hx, he⟩
    exact ⟨l, of_decide_eq_true he ▸ hx⟩
  · rintro ⟨l, hl⟩
    exact ⟨(id, l), hl, decide_eq_true rfl⟩

/-- Where a handle occurs once, removal takes out that entry and leaves the others in their order. -/
theorem filter_ne_of_once {id : ListenerId} {l : α} {es : List (ListenerId × α)}
    (once : (es.map Prod.fst).Nodup) (h : (id, l) ∈ es) :
    ∃ before after, es = before ++ (id, l) :: after ∧
      es.filter (fun e => e.1 ≠ id) = before ++ after := by
  obtain ⟨before, after, rfl⟩ := List.append_of_mem h
  rw [List.map_append, List.map_cons, List.nodup_middle, ← List.map_append, List.nodup_cons] at once
  have others : ∀ e ∈ before ++ after, decide (e.1 ≠ id) = true := fun e he =>
    decide_eq_true fun heq => once.1 (List.mem_map.2 ⟨e, he, heq⟩)
  refine ⟨before, after, rfl, ?_⟩
  rw [List.filter_append, List.filter_cons_of_neg (by simp), ← List.filter_append]
  exact List.filter_eq_self.2 others

-- ---------------------------------------------------------------------------
-- Listeners that are called
-- ---------------------------------------------------------------------------

/-- Each listener of `members` is called once, in order, and makes its changes before the next one is
called. The first component of a turn is the listener, the second one what it changes. -/
structure Turns (react : α → Usage ι α → List (Change ι α)) (u : Usage ι α) (members : List α)
    (turns : List (α × List (Change ι α))) (u' : Usage ι α) : Prop where
  called : turns.map Prod.fst = members
  /-- A listener decides on its changes when those before it have made theirs. -/
  reacts : ∀ before t after, turns = before ++ t :: after →
    t.2 = react t.1 ((before.foldl (fun u t => u.turn t.1 t.2) u).called t.1)
  ends : u' = turns.foldl (fun u t => u.turn t.1 t.2) u
  /-- The sets are what the changes make of them, one after the other. -/
  sets : u'.sets = u.sets.changeAll (turns.flatMap Prod.snd)
  /-- Nobody else is called. -/
  calls : u'.record.filterMap Event.called? = u.record.filterMap Event.called? ++ members
  snapshots : u'.snapshots = u.snapshots

namespace Usage

variable {react : α → Usage ι α → List (Change ι α)}

/-- A change of a set calls nobody. -/
theorem called?_change (c : Change ι α) (s : Sets ι α) : (s.change c).1.called? = none := by
  cases c <;> rfl

/-- Changes call nobody. -/
theorem changes_spec (cs : List (Change ι α)) (u : Usage ι α) :
    let u' := cs.foldl (fun u c => u.change c) u
    u'.sets = u.sets.changeAll cs ∧
      u'.record.filterMap Event.called? = u.record.filterMap Event.called? ∧
      u'.snapshots = u.snapshots := by
  induction cs generalizing u with
  | nil => exact ⟨rfl, rfl, rfl⟩
  | cons c cs ih =>
    obtain ⟨hs, hc, hk⟩ := ih (u.change c)
    refine ⟨hs, hc.trans ?_, hk⟩
    rw [change, List.filterMap_append, List.filterMap_cons_none (called?_change c u.sets),
      List.filterMap_nil, List.append_nil]

/-- A listener is called once in its turn, and changes the sets as it likes. -/
theorem turn_spec (l : α) (cs : List (Change ι α)) (u : Usage ι α) :
    (u.turn l cs).sets = u.sets.changeAll cs ∧
      (u.turn l cs).record.filterMap Event.called? = u.record.filterMap Event.called? ++ [l] ∧
      (u.turn l cs).snapshots = u.snapshots := by
  obtain ⟨hs, hc, hk⟩ := changes_spec cs (u.called l)
  refine ⟨hs, hc.trans ?_, hk⟩
  rw [called, List.filterMap_append]
  rfl

/-- Listeners that are called in order take their turns. -/
theorem exists_turns (react : α → Usage ι α → List (Change ι α)) (u : Usage ι α)
    (members : List α) :
    ∃ turns, Turns react u members turns (callEach (call react) members u) := by
  induction members generalizing u with
  | nil =>
    refine ⟨[], rfl, fun before t after h => ?_, rfl, rfl, (List.append_nil _).symm, rfl⟩
    cases before <;> cases h
  | cons l members ih =>
    obtain ⟨turns, h⟩ := ih (u.call react l)
    obtain ⟨hs, hc, hk⟩ := turn_spec l (react l (u.called l)) u
    refine ⟨(l, react l (u.called l)) :: turns, ?_, fun before t after ht => ?_, h.ends, ?_, ?_,
      h.snapshots.trans hk⟩
    · rw [List.map_cons, h.called]
    · cases before with
      | nil =>
        cases ht
        rfl
      | cons b before =>
        obtain ⟨rfl, rest⟩ := List.cons.inj ht
        exact h.reacts before t after rest
    · calc (callEach (call react) members (u.call react l)).sets
          = (u.call react l).sets.changeAll (turns.flatMap Prod.snd) := h.sets
        _ = (u.sets.changeAll (react l (u.called l))).changeAll (turns.flatMap Prod.snd) := by
            rw [call, hs]
        _ = u.sets.changeAll (((l, react l (u.called l)) :: turns).flatMap Prod.snd) := by
            rw [List.flatMap_cons, Sets.changeAll, Sets.changeAll, Sets.changeAll,
              List.foldl_append]
    · calc (callEach (call react) members (u.call react l)).record.filterMap Event.called?
          = (u.call react l).record.filterMap Event.called? ++ members := h.calls
        _ = u.record.filterMap Event.called? ++ l :: members := by
            rw [call, hc, List.append_assoc, List.singleton_append]

-- ---------------------------------------------------------------------------
-- What every step keeps
-- ---------------------------------------------------------------------------

/-- The sets are what the record says, and the counter is ahead of all handles. -/
structure Sound (u : Usage ι α) : Prop where
  entries : ∀ i, (u.sets.set i).entries = standing i u.record
  answers : ∀ before i id wasThere later, u.record = before ++ .removed i id wasThere :: later →
    (wasThere = true ↔ ∃ l, (id, l) ∈ standing i before)
  handles : (u.record.filterMap Event.given?).Pairwise fun a b => b.newerThan a
  fresh : ∀ id ∈ u.record.filterMap Event.given?, id.number < u.sets.next

/-- Before anything happens all sets are empty. -/
theorem Sound.start : (start : Usage ι α).Sound where
  entries := fun _ => rfl
  answers := fun before i id wasThere later h => by cases before <;> cases h
  handles := .nil
  fresh := fun id h => by cases h

/-- The answers stay right when the next event is right. -/
theorem Sound.answers_concat {u : Usage ι α} (h : u.Sound) {e : Event ι α}
    (he : ∀ i id wasThere, e = .removed i id wasThere →
      (wasThere = true ↔ ∃ l, (id, l) ∈ standing i u.record))
    (before : List (Event ι α)) (i : ι) (id : ListenerId) (wasThere : Bool)
    (later : List (Event ι α)) (heq : u.record ++ [e] = before ++ .removed i id wasThere :: later) :
    wasThere = true ↔ ∃ l, (id, l) ∈ standing i before := by
  rcases List.eq_nil_or_concat later with rfl | ⟨later, last, rfl⟩
  · obtain ⟨rfl, hlast⟩ := List.append_inj' heq rfl
    exact he i id wasThere (List.head_eq_of_cons_eq hlast)
  · rw [List.concat_eq_append, ← List.cons_append, ← List.append_assoc] at heq
    exact h.answers before i id wasThere later (List.append_inj' heq rfl).1

/-- A change of a set is on record. -/
theorem Sound.change {u : Usage ι α} (h : u.Sound) (c : Change ι α) : (u.change c).Sound := by
  have answers := h.answers_concat (e := (u.sets.change c).1) fun i id wasThere he => by
    cases c with
    | add j l => cases he
    | remove j x =>
      cases he
      rw [← h.entries i]
      exact contains_iff
    | clear j => cases he
  have record : (u.change c).record.filterMap Event.given? =
      u.record.filterMap Event.given? ++ (u.sets.change c).1.given?.toList := by
    rw [Usage.change, List.filterMap_append]
    cases (u.sets.change c).1 <;> rfl
  have entries (i : ι) : ((u.change c).sets.set i).entries = standing i (u.change c).record := by
    rw [Usage.change, Sets.entries_change, standing_append, h.entries i]
    simp only [List.all_cons, List.all_nil, Bool.and_true]
  rcases u.sets.next_change c with ⟨hg, hn⟩ | ⟨hg, hn⟩
  · rw [hg, Option.toList_some] at record
    refine ⟨entries, answers, ?_, fun id hid => ?_⟩
    · rw [record, List.pairwise_append]
      refine ⟨h.handles, List.pairwise_singleton _ _, fun a ha b hb => ?_⟩
      rw [List.mem_singleton.1 hb]
      exact decide_eq_true (h.fresh a ha)
    · have hn : (u.change c).sets.next = u.sets.next + 1 := hn
      rw [record, List.mem_append, List.mem_singleton] at hid
      rcases hid with hid | rfl
      · have := h.fresh id hid
        omega
      · rw [hn]
        exact Nat.lt_succ_self _
  · rw [hg, Option.toList_none, List.append_nil] at record
    refine ⟨entries, answers, record ▸ h.handles, fun id hid => ?_⟩
    have hn : (u.change c).sets.next = u.sets.next := hn
    rw [hn]
    exact h.fresh id (record ▸ hid)

/-- To be called changes no set. -/
theorem Sound.called {u : Usage ι α} (h : u.Sound) (l : α) : (u.called l).Sound := by
  have record : (u.called l).record.filterMap Event.given? = u.record.filterMap Event.given? := by
    rw [Usage.called, List.filterMap_append]
    exact List.append_nil _
  have answers := h.answers_concat (e := .called l) fun i id wasThere he => by cases he
  refine ⟨fun i => ?_, answers, record ▸ h.handles, fun id hid => h.fresh id (record ▸ hid)⟩
  have none_taken : (standing i u.record).filter (fun x =>
      [Event.called l].all (!·.takes i x.1)) = standing i u.record :=
    List.filter_eq_self.2 fun _ _ => rfl
  rw [Usage.called, standing_append, none_taken, h.entries i]
  exact (List.append_nil _).symm

/-- So it is for any number of changes. -/
theorem Sound.changes {u : Usage ι α} (h : u.Sound) (cs : List (Change ι α)) :
    (cs.foldl (fun u c => u.change c) u).Sound := by
  induction cs generalizing u with
  | nil => exact h
  | cons c cs ih => exact ih (h.change c)

/-- And for all that listeners do when they are called. -/
theorem Sound.callEach {u : Usage ι α} (h : u.Sound) (members : List α) :
    (callEach (call react) members u).Sound := by
  induction members generalizing u with
  | nil => exact h
  | cons l members ih => exact ih ((h.called l).changes _)

/-- Each step keeps to the record. -/
theorem Sound.step {u : Usage ι α} (h : u.Sound) (st : Step ι α) : (u.step react st).Sound := by
  cases st with
  | change c => exact h.change c
  | notify i => exact h.callEach _
  | snapshot i => exact ⟨h.entries, h.answers, h.handles, h.fresh⟩
  | call k => exact h.callEach _

theorem Sound.run {u : Usage ι α} (h : u.Sound) (steps : List (Step ι α)) :
    (u.run react steps).Sound := by
  induction steps generalizing u with
  | nil => exact h
  | cons st steps ih => exact ih (h.step st)

/-- The handles in a set grow from each entry to the next. -/
theorem Sound.ordered {u : Usage ι α} (h : u.Sound) (i : ι) :
    ((u.sets.set i).entries.map Prod.fst).Pairwise fun a b => b.newerThan a := by
  rw [h.entries i]
  exact h.handles.sublist (standing_sublist i u.record)

/-- No handle stands for two listeners. -/
theorem Sound.nodup {u : Usage ι α} (h : u.Sound) (i : ι) :
    ((u.sets.set i).entries.map Prod.fst).Nodup := by
  refine (h.ordered i).imp fun hab heq => ?_
  subst heq
  simp [ListenerId.newerThan] at hab

/-- Two entries under one handle are the same entry of the same set. -/
theorem Sound.apart {u : Usage ι α} (h : u.Sound) {i j : ι} {id : ListenerId} {l m : α}
    (hi : (id, l) ∈ (u.sets.set i).entries) (hj : (id, m) ∈ (u.sets.set j).entries) :
    i = j ∧ l = m := by
  rw [h.entries] at hi hj
  obtain ⟨before, later, hl, -⟩ := mem_standing.1 hi
  obtain ⟨before', later', hm, -⟩ := mem_standing.1 hj
  exact added_once h.handles (hl ▸ List.mem_append_right _ List.mem_cons_self)
    (hm ▸ List.mem_append_right _ List.mem_cons_self)

/-- Snapshots are kept as they were taken. -/
theorem snapshots_step (react : α → Usage ι α → List (Change ι α)) (st : Step ι α)
    (u : Usage ι α) : u.snapshots <+: (u.step react st).snapshots := by
  have kept (members : List α) :
      u.snapshots <+: (callEach (call react) members u).snapshots := by
    obtain ⟨turns, h⟩ := exists_turns react u members
    exact h.snapshots ▸ List.prefix_rfl
  cases st with
  | change c => exact List.prefix_rfl
  | notify i => exact kept _
  | snapshot i => exact List.prefix_append _ _
  | call k => exact kept _

/-- A run adds snapshots to those that were taken. -/
theorem snapshots_run (react : α → Usage ι α → List (Change ι α)) (steps : List (Step ι α))
    (u : Usage ι α) : u.snapshots <+: (u.run react steps).snapshots := by
  induction steps generalizing u with
  | nil => exact List.prefix_rfl
  | cons st steps ih => exact (snapshots_step react st u).trans (ih _)

-- ---------------------------------------------------------------------------
-- What holds after any steps
-- ---------------------------------------------------------------------------

/-- What the removal of a handle from one of the sets comes to. -/
structure Removal (u : Usage ι α) (i : ι) (id : ListenerId) : Prop where
  /-- It is answered with whether the handle still stands in this set. -/
  answer : (u.sets.remove i id).1 = true ↔ ∃ l, (id, l) ∈ standing i u.record
  /-- Its entry is taken out, and the others stay in their order. -/
  there : ∀ l, (id, l) ∈ (u.sets.set i).entries → ∃ before after,
    (u.sets.set i).entries = before ++ (id, l) :: after ∧
      ((u.sets.remove i id).2.set i).entries = before ++ after
  /-- A handle that is not there takes nothing out. -/
  missing : (∀ l, (id, l) ∉ (u.sets.set i).entries) →
    ((u.sets.remove i id).2.set i).entries = (u.sets.set i).entries
  /-- Other sets stay as they are, and no handle is given out. -/
  others : ∀ j, j ≠ i → (u.sets.remove i id).2.set j = u.sets.set j
  next : (u.sets.remove i id).2.next = u.sets.next

/-- What holds of sets in use, and of what may be done with them next. -/
structure WellKept (react : α → Usage ι α → List (Change ι α)) (u : Usage ι α) : Prop where
  /-- A set holds what was added to it and neither removed nor cleared since, in order. -/
  entries : ∀ i, (u.sets.set i).entries = standing i u.record
  /-- Handles grow with each listener that is added to any set, and so does each set. -/
  handles : (u.record.filterMap Event.given?).Pairwise fun a b => b.newerThan a
  ordered : ∀ i, ((u.sets.set i).entries.map Prod.fst).Pairwise fun a b => b.newerThan a
  /-- A handle stands for one listener in one set. -/
  apart : ∀ i j id l m, (id, l) ∈ (u.sets.set i).entries → (id, m) ∈ (u.sets.set j).entries →
    i = j ∧ l = m
  /-- A notification calls those that are in the set now. -/
  notified : ∀ i, ∃ turns,
    Turns react u ((standing i u.record).map Prod.snd) turns (u.step react (.notify i))
  removal : ∀ i id, u.Removal i id
  /-- Removals were answered alike so far, those by listeners that were being called too. -/
  answers : ∀ before i id wasThere later, u.record = before ++ .removed i id wasThere :: later →
    (wasThere = true ↔ ∃ l, (id, l) ∈ standing i before)
  /-- A snapshot that is taken now calls those that are in the set now, whatever is done first. -/
  snapshot : ∀ i steps, ∃ turns, let later := (u.step react (.snapshot i)).run react steps
    Turns react later ((standing i u.record).map Prod.snd) turns
      (later.step react (.call u.snapshots.length))

/-- `remove` answers whether the handle was in the set, and takes out nothing else. -/
theorem Sound.removal {u : Usage ι α} (h : u.Sound) (i : ι) (id : ListenerId) :
    u.Removal i id where
  answer := by rw [← h.entries i]; exact contains_iff
  there := fun l hl => by
    obtain ⟨before, after, he, hr⟩ := filter_ne_of_once (h.nodup i) hl
    refine ⟨before, after, he, ?_⟩
    rw [Sets.remove, Sets.set_put_self]
    exact hr
  missing := fun hm => by
    rw [Sets.remove, Sets.set_put_self]
    refine List.filter_eq_self.2 fun e he => decide_eq_true fun heq => hm e.2 ?_
    rw [← heq]
    exact he
  others := fun _ hj => Sets.set_put_of_ne hj _ _
  next := rfl

/-- **Sets of listeners keep their order, their handles and their snapshots, whoever changes them.**
After any steps on any number of sets, a notification calls the listeners that stand in its set, each
once and in the order in which they were added, whatever changes they make, and leaves what these
changes come to one after the other. Removal is answered with whether the handle still stands in this
set and takes out its one entry. A snapshot calls those that were there when it was taken. -/
theorem run_wellKept (react : α → Usage ι α → List (Change ι α)) (steps : List (Step ι α)) :
    WellKept react (Usage.start.run react steps) := by
  have sound : (Usage.start.run react steps).Sound := Sound.start.run steps
  generalize Usage.start.run react steps = u at sound
  have snapshot (i : ι) : (u.sets.set i).snapshot = (standing i u.record).map Prod.snd := by
    rw [Listeners.snapshot, sound.entries i]
  exact {
    entries := sound.entries
    handles := sound.handles
    ordered := sound.ordered
    apart := fun _ _ _ _ _ hi hj => sound.apart hi hj
    notified := fun i => by
      rw [← snapshot i]
      exact exists_turns react u _
    removal := sound.removal
    answers := sound.answers
    snapshot := fun i steps => by
      have taken : (u.step react (.snapshot i)).snapshots[u.snapshots.length]? =
          some (u.sets.set i).snapshot :=
        List.getElem?_concat_length
      have kept : ((u.step react (.snapshot i)).run react steps).snapshots[u.snapshots.length]? =
          some (u.sets.set i).snapshot := by
        obtain ⟨more, hm⟩ := snapshots_run react steps (u.step react (.snapshot i))
        rw [← hm, List.getElem?_append_left (List.getElem?_eq_some_iff.1 taken).1, taken]
      generalize (u.step react (.snapshot i)).run react steps = later at kept
      rw [← snapshot i]
      show ∃ turns, Turns react later (u.sets.set i).snapshot turns
        (callEach (call react) (later.snapshots[u.snapshots.length]?.getD []) later)
      rw [kept]
      exact exists_turns react later _ }

/-- The first listener clears the set, and the second one, which is called all the same, adds another
one: that one is called the next time, and nobody else. -/
example : (start.run (fun l _ => if l = 0 then [.clear ()] else if l = 1 then [.add () 7] else [])
      [.change (.add () 0), .change (.add () 1), .notify (), .notify ()]).record.filterMap
        Event.called? = [0, 1, 7] := by
  decide

end Usage

end Courier.Listeners
