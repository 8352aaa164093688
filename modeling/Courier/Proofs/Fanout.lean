import Courier.Proofs.Listeners
import Courier.World.Basic
import Mathlib.Data.List.Induction
import Mathlib.Data.List.Perm.Subperm

/-!
# Courier — what reaches those who listen to the nodes of a registry

A registry passes on what its nodes tell of: the listeners that it has at that moment are called, one
after the other, and then the listeners of the node itself. They may do anything in between, raise
further events, too, which are delivered before the delivery goes on. `Scene.Course` says which logs
come about in this way, with the calls that are due kept in a stack.

From such a log it is seen what a listener gets under its handle. It is called once for each event
that was raised while it was registered, and for nothing else, whoever else comes, goes or listens
meanwhile. The order is that of the events, but for those that come up in the course of the delivery
of another, which are heard before that delivery goes on.

* `Mark`, `Mark.deeds`, `Mark.calls` — what happens, what is put on record of it, and who is called;
* `Scene`, `Scene.Next`, `Scene.Course` — how deliveries go on;
* `heardBy`, `raisedTo` — what was heard under a handle, and what was to be;
* `Scene.Course.served` — they agree.
-/

namespace Courier

variable {L : Type}

/-- A call that is to be made. -/
structure Duty (L : Type) where
  /-- The handle under which a registry has the listener, if the registry passes something on. -/
  via : Option ListenerId
  call : Call L

/-- A registry passes an event on to those who listen to its nodes. -/
def Duty.passingOn (e : Event) (listeners : Listeners L) : List (Duty L) :=
  listeners.entries.map fun x => ⟨some x.1, ⟨x.2, e⟩⟩

/-- Other listeners hear of an event. -/
def Duty.direct (e : Event) (listeners : List L) : List (Duty L) :=
  listeners.map fun l => ⟨none, ⟨l, e⟩⟩

/-- Something that happens to a registry, its nodes and their listeners. -/
inductive Mark (L : Type) where
  /-- The registry takes up a listener to its nodes. -/
  | registered (id : ListenerId) (l : L)
  | removed (id : ListenerId)
  /-- The shutdown of the registry has come to its end. -/
  | emptied
  /-- A node has something to tell: its registry passes it on, and its own listeners hear of it. -/
  | raised (n : NodeRef) (q : RegistryRef) (e : Event) (heard own : List L)
  /-- A node has joined its registry. -/
  | joined (n : NodeRef) (q : RegistryRef) (heard : List L)
  | left (n : NodeRef) (q : RegistryRef) (heard : List L)
  | closed (n : NodeRef) (c : ConnectionRef) (reason : CloseReason)
  /-- A node is shut down that is not there, and nobody hears of it. -/
  | nobody (n : NodeRef) (q : RegistryRef)
  | called (d : Duty L)

namespace Mark

/-- What is put on record. A node that has something to tell is heard by its registry first. -/
def deeds : Mark L → List (Deed L)
  | raised n q e heard own =>
    [.nodeTold n q e (.registry :: own.map .own), .registryTold q e heard]
  | joined n q heard => [.registryTold q (.nodeAdded n) heard]
  | left n q heard => [.registryTold q (.nodeRemoved n) heard]
  | closed n c reason => [.closed n c reason]
  | nobody n q => [.nodeTold n q (.shutDown n) []]
  | _ => []

/-- Who is called. -/
def calls : Mark L → List (Call L)
  | called d => [d.call]
  | _ => []

/-- The event that a node of the registry has raised. -/
def raised? (r : RegistryRef) : Mark L → Option Event
  | raised _ q e _ _ => if q = r then some e else none
  | _ => none

/-- Whether a listener is registered under the handle then, if this was so before or not. -/
def leaves (id : ListenerId) : Mark L → Bool → Bool
  | registered x _, on => on || x = id
  | removed x, on => on && x ≠ id
  | emptied, _ => false
  | _, on => on

end Mark

/-- What is heard by the call, if it is made under this handle. -/
def Duty.heard? (id : ListenerId) (d : Duty L) : Option Event :=
  if d.via = some id then some d.call.event else none

def Mark.heard? (id : ListenerId) : Mark L → Option Event
  | called d => d.heard? id
  | _ => none

/-- What was heard under a handle, in order. -/
def heardBy (id : ListenerId) (log : List (Mark L)) : List Event := log.filterMap (·.heard? id)

/-- What nodes of a registry have raised while a listener was registered under a handle, in order.
`on` says whether it is registered at the beginning. -/
def raisedTo (r : RegistryRef) (id : ListenerId) : (on : Bool) → List (Mark L) → List Event
  | _, [] => []
  | on, m :: log => (if on then (m.raised? r).toList else []) ++ raisedTo r id (m.leaves id on) log

/-- Whether a listener is registered under a handle after a log, if this was so before or not. -/
def listens (id : ListenerId) (on : Bool) (log : List (Mark L)) : Bool :=
  log.foldl (fun on m => m.leaves id on) on

/-- What matters to the listeners of one registry. -/
structure Scene (L : Type) where
  /-- How many nodes there are. -/
  nodes : Nat
  /-- Those who listen to the nodes of the registry. -/
  listeners : Listeners L
  /-- The calls that are due, in order. -/
  due : List (Duty L)

namespace Scene

/-- How a mark comes about, and what it leads to. -/
inductive Next (r : RegistryRef) (s : Scene L) : Mark L → Scene L → Prop where
  | registered {id : ListenerId} (l : L) (hnew : s.listeners.contains id = false) :
      Next r s (.registered id l) { s with listeners := s.listeners.add id l }
  | removed (id : ListenerId) :
      Next r s (.removed id) { s with listeners := (s.listeners.remove id).2 }
  | emptied : Next r s .emptied { s with listeners := .empty }
  /-- The registry passes on what a node of its own has raised. -/
  | passedOn {n : NodeRef} (hn : n.number < s.nodes) (e : Event) (own : List L) :
      Next r s (.raised n r e s.listeners.snapshot own)
        { s with due := Duty.passingOn e s.listeners ++ (Duty.direct e own ++ s.due) }
  | elsewhere {n : NodeRef} (hn : n.number < s.nodes) {q : RegistryRef} (hq : q ≠ r) (e : Event)
      (heard own : List L) :
      Next r s (.raised n q e heard own)
        { s with due := Duty.direct e heard ++ (Duty.direct e own ++ s.due) }
  | joined (q : RegistryRef) (heard : List L) :
      Next r s (.joined ⟨s.nodes⟩ q heard)
        { s with nodes := s.nodes + 1, due := Duty.direct (.nodeAdded ⟨s.nodes⟩) heard ++ s.due }
  | left (n : NodeRef) (q : RegistryRef) (heard : List L) :
      Next r s (.left n q heard) { s with due := Duty.direct (.nodeRemoved n) heard ++ s.due }
  | closed (n : NodeRef) (c : ConnectionRef) (reason : CloseReason) :
      Next r s (.closed n c reason) s
  | nobody {n : NodeRef} (hn : s.nodes ≤ n.number) (q : RegistryRef) : Next r s (.nobody n q) s
  /-- The call is made that is due next. -/
  | called {d : Duty L} {due : List (Duty L)} (hdue : s.due = d :: due) :
      Next r s (.called d) { s with due }

/-- A log, mark by mark. -/
inductive Course (r : RegistryRef) : Scene L → List (Mark L) → Scene L → Prop where
  | nil (s : Scene L) : Course r s [] s
  | cons {s s' s'' : Scene L} {m : Mark L} {log : List (Mark L)} (h : Next r s m s')
      (rest : Course r s' log s'') : Course r s (m :: log) s''

/-- What is still to be heard under a handle. -/
def pending (id : ListenerId) (s : Scene L) : List Event := s.due.filterMap (·.heard? id)

/-- No two listeners have one handle. -/
def Distinct (s : Scene L) : Prop := (s.listeners.entries.map (·.1)).Nodup

end Scene

-- ---------------------------------------------------------------------------
-- Logs, piece by piece
-- ---------------------------------------------------------------------------

/-- What was heard in two parts of a log is put together. -/
theorem heardBy_append (id : ListenerId) (log log' : List (Mark L)) :
    heardBy id (log ++ log') = heardBy id log ++ heardBy id log' := List.filterMap_append ..

/-- So is what was raised, but whether it counts depends on what was before. -/
theorem raisedTo_append (r : RegistryRef) (id : ListenerId) (on : Bool) (log log' : List (Mark L)) :
    raisedTo r id on (log ++ log') =
      raisedTo r id on log ++ raisedTo r id (listens id on log) log' := by
  induction log generalizing on with
  | nil => rfl
  | cons m log ih =>
    rw [List.cons_append, raisedTo, raisedTo, ih, listens, listens, List.foldl_cons,
      List.append_assoc]

namespace Scene

variable {r : RegistryRef} {id : ListenerId}

/-- One mark makes up a log. -/
theorem Course.single {s s' : Scene L} {m : Mark L} (h : Next r s m s') : Course r s [m] s' :=
  .cons h (.nil s')

/-- Logs are put together where one ends and the other begins. -/
theorem Course.append {s s' s'' : Scene L} {log log' : List (Mark L)} (h : Course r s log s')
    (h' : Course r s' log' s'') : Course r s (log ++ log') s'' := by
  induction h with
  | nil => exact h'
  | cons h rest ih => exact .cons h (ih h')

/-- A log falls into two, with a scene in between. -/
theorem Course.split {s s'' : Scene L} {log log' : List (Mark L)}
    (h : Course r s (log ++ log') s'') : ∃ s', Course r s log s' ∧ Course r s' log' s'' := by
  induction log generalizing s with
  | nil => exact ⟨s, .nil s, h⟩
  | cons m log ih =>
    cases h with
    | cons hm rest =>
      obtain ⟨s', hlog, hrest⟩ := ih rest
      exact ⟨s', .cons hm hlog, hrest⟩

-- ---------------------------------------------------------------------------
-- One mark
-- ---------------------------------------------------------------------------

/-- Whoever is called directly is not called under a handle. -/
theorem heard_direct (id : ListenerId) (e : Event) (listeners : List L) :
    (Duty.direct e listeners).filterMap (·.heard? id) = [] := by
  refine List.filterMap_eq_nil_iff.mpr fun d hd => ?_
  obtain ⟨l, -, rfl⟩ := List.mem_map.mp hd
  exact if_neg fun h => nomatch h

/-- A registry calls each listener once. -/
theorem heard_passingOn {listeners : Listeners L}
    (hdistinct : (listeners.entries.map (·.1)).Nodup) (id : ListenerId) (e : Event) :
    (Duty.passingOn e listeners).filterMap (·.heard? id) =
      if listeners.contains id then [e] else [] := by
  obtain ⟨entries⟩ := listeners
  unfold Duty.passingOn Listeners.contains
  dsimp only at hdistinct ⊢
  induction entries with
  | nil => rfl
  | cons x entries ih =>
    obtain ⟨hx, hentries⟩ := List.nodup_cons.mp hdistinct
    rw [List.map_cons, List.filterMap_cons, ih hentries, List.any_cons]
    by_cases hid : x.1 = id
    · -- the handle does not occur again
      have hothers : (entries.any fun y => y.1 = id) = false := by
        refine Bool.eq_false_iff.mpr fun h => hx ?_
        obtain ⟨y, hy, hyid⟩ := List.any_eq_true.mp h
        exact List.mem_map.mpr ⟨y, hy, (of_decide_eq_true hyid).trans hid.symm⟩
      simp [Duty.heard?, hid, hothers]
    · simp only [Duty.heard?, Option.some.injEq, hid, if_false, decide_false, Bool.false_or]

/-- Among the calls by which a registry passes on an event is the one under this handle, and none of
the others is. -/
theorem passingOn_eq {listeners : Listeners L} (hdistinct : (listeners.entries.map (·.1)).Nodup)
    {id : ListenerId} (hid : listeners.contains id = true) (e : Event) :
    ∃ front l back, Duty.passingOn e listeners = front ++ ⟨some id, ⟨l, e⟩⟩ :: back ∧
      front.filterMap (·.heard? id) = [] := by
  obtain ⟨l, hl⟩ := Listeners.contains_iff.mp hid
  obtain ⟨front, back, hentries⟩ := List.append_of_mem hl
  have hparts : Duty.passingOn e listeners =
      front.map (fun x => (⟨some x.1, ⟨x.2, e⟩⟩ : Duty L)) ++ ⟨some id, ⟨l, e⟩⟩ ::
        back.map fun x => ⟨some x.1, ⟨x.2, e⟩⟩ := by
    rw [Duty.passingOn, hentries, List.map_append, List.map_cons]
  refine ⟨_, l, _, hparts, ?_⟩
  have hcall : Duty.heard? id (⟨some id, ⟨l, e⟩⟩ : Duty L) = some e := if_pos rfl
  have hheard := heard_passingOn hdistinct id e
  rw [if_pos hid, hparts, List.filterMap_append, List.filterMap_cons_some hcall] at hheard
  have hlength := congrArg List.length hheard
  rw [List.length_append, List.length_cons, List.length_singleton] at hlength
  exact List.eq_nil_of_length_eq_zero (by omega)

/-- A mark puts calls in front of those that are due, or it is the first of them. -/
theorem Next.due {s s' : Scene L} {m : Mark L} (h : Next r s m s') :
    (∃ front, s'.due = front ++ s.due) ∨ ∃ d, m = .called d ∧ s.due = d :: s'.due := by
  cases h with
  | called hdue => exact .inr ⟨_, rfl, hdue⟩
  | passedOn | elsewhere => exact .inl ⟨_, (List.append_assoc ..).symm⟩
  | joined | left => exact .inl ⟨_, rfl⟩
  | _ => exact .inl ⟨[], rfl⟩

/-- What is heard and what is still to be heard is what was to be heard before, and what is
raised. -/
theorem Next.pending (id : ListenerId) {s s' : Scene L} {m : Mark L} (h : Next r s m s')
    (hs : s.Distinct) :
    heardBy id [m] ++ s'.pending id = raisedTo r id (s.listeners.contains id) [m] ++ s.pending id := by
  unfold heardBy Scene.pending
  cases h with
  | passedOn hn e own =>
    rw [List.filterMap_append, List.filterMap_append, heard_direct, heard_passingOn hs]
    simp [Mark.heard?, raisedTo, Mark.raised?]
  | elsewhere hn hq e heard own =>
    simp [Mark.heard?, raisedTo, Mark.raised?, hq, heard_direct]
  | called hdue =>
    simp only [hdue, raisedTo, Mark.raised?, List.filterMap_cons, Mark.heard?]
    split <;> simp
  | _ => simp [Mark.heard?, raisedTo, Mark.raised?, heard_direct]

/-- Who is registered after a mark is said by the mark. -/
theorem Next.contains {s s' : Scene L} {m : Mark L} (h : Next r s m s') :
    s'.listeners.contains id = m.leaves id (s.listeners.contains id) := by
  cases h with
  | registered l hnew => simp [Listeners.contains, Listeners.add, Mark.leaves, List.any_append]
  | removed x =>
    simp only [Listeners.contains, Listeners.remove, Mark.leaves, List.any_filter]
    by_cases hx : x = id
    · simp [hx]
    · simp only [ne_eq, hx, not_false_eq_true, decide_true, Bool.and_true]
      refine List.any_congr rfl fun y => ?_
      by_cases hy : y.1 = id
      · simp [hy, Ne.symm hx]
      · simp [hy]
  | emptied => rfl
  | _ => rfl

/-- A handle that is given out was not in use. -/
theorem Next.distinct {s s' : Scene L} {m : Mark L} (h : Next r s m s') (hs : s.Distinct) :
    s'.Distinct := by
  cases h with
  | @registered id l hnew =>
    unfold Distinct Listeners.add
    dsimp only
    rw [List.map_append, List.nodup_append]
    refine ⟨hs, List.nodup_singleton _, fun x hx y hy heq => ?_⟩
    obtain rfl := List.mem_singleton.mp hy
    obtain ⟨entry, hentry, rfl⟩ := List.mem_map.mp hx
    refine Bool.eq_false_iff.mp hnew (Listeners.contains_iff.mpr ⟨entry.2, ?_⟩)
    exact heq ▸ hentry
  | removed id => exact hs.sublist (List.filter_sublist.map _)
  | emptied => exact List.nodup_nil
  | _ => exact hs

-- ---------------------------------------------------------------------------
-- Whole logs
-- ---------------------------------------------------------------------------

/-- Who is registered after a log is said by the log. -/
theorem Course.contains {s s' : Scene L} {log : List (Mark L)} (h : Course r s log s') :
    s'.listeners.contains id = listens id (s.listeners.contains id) log := by
  induction h with
  | nil => rfl
  | cons h rest ih => rw [listens, List.foldl_cons, ih, h.contains, listens]

/-- In no log is a handle in use twice. -/
theorem Course.distinct {s s' : Scene L} {log : List (Mark L)} (h : Course r s log s')
    (hs : s.Distinct) : s'.Distinct := by
  induction h with
  | nil => exact hs
  | cons h rest ih => exact ih (h.distinct hs)

/-- **Nothing is lost and nothing is heard twice**: what was heard under a handle, and what is still
to be heard, is what was raised for it, and what was to be heard before. -/
theorem Course.pending (id : ListenerId) {s s' : Scene L} {log : List (Mark L)}
    (h : Course r s log s') (hs : s.Distinct) :
    (heardBy id log ++ s'.pending id).Perm
      (raisedTo r id (s.listeners.contains id) log ++ s.pending id) := by
  induction h with
  | nil => exact .refl _
  | @cons s s' s'' m log h rest ih =>
    have hrest := ih (h.distinct hs)
    rw [h.contains] at hrest
    have hfirst := h.pending id hs
    have hleaves : listens id (s.listeners.contains id) [m] = m.leaves id (s.listeners.contains id) :=
      rfl
    rw [show m :: log = [m] ++ log from rfl, heardBy_append, raisedTo_append, hleaves,
      List.append_assoc, List.append_assoc]
    generalize raisedTo r id (m.leaves id (s.listeners.contains id)) log = later at hrest ⊢
    -- what comes up later is put behind
    have hswap : (heardBy id [m] ++ (later ++ s'.pending id)).Perm
        (later ++ (heardBy id [m] ++ s'.pending id)) := List.perm_append_comm_assoc ..
    refine (hrest.append_left _).trans (hswap.trans ?_)
    rw [hfirst]
    exact List.perm_append_comm_assoc ..

/-- A call that is due is made when all is done that was put in front of it. -/
theorem Course.comesTo {s s' : Scene L} {log : List (Mark L)} (h : Course r s log s')
    {front back : List (Duty L)} {d : Duty L} (hdue : s.due = front ++ d :: back)
    (hdone : s'.due = []) :
    ∃ mid rest s₁, log = mid ++ .called d :: rest ∧ Course r s mid s₁ ∧ s₁.due = d :: back := by
  induction h generalizing front with
  | nil => exact absurd (hdue.symm.trans hdone) (by simp)
  | @cons s s₂ s' m log h rest ih =>
    rcases h.due with ⟨new, hnew⟩ | ⟨d', rfl, hfirst⟩
    · rw [hdue, ← List.append_assoc] at hnew
      obtain ⟨mid, rest', s₁, rfl, hmid, hs₁⟩ := ih hnew hdone
      exact ⟨m :: mid, rest', s₁, rfl, .cons h hmid, hs₁⟩
    · rw [hdue] at hfirst
      cases front with
      | nil =>
        obtain ⟨rfl, rfl⟩ := List.cons.inj hfirst
        exact ⟨[], log, s, rfl, .nil s, hdue⟩
      | cons d' front =>
        obtain ⟨rfl, hnext⟩ := List.cons.inj hfirst
        obtain ⟨mid, rest', s₁, rfl, hmid, hs₁⟩ := ih hnext.symm hdone
        exact ⟨.called d' :: mid, rest', s₁, rfl, .cons h hmid, hs₁⟩

/-- Between an event and the call for it, a listener hears of just those events that are raised in
between. -/
theorem Course.nested {s s' : Scene L} {n : NodeRef} {e : Event} {heard own : List L}
    {after : List (Mark L)} (h : Course r s (.raised n r e heard own :: after) s') (hs : s.Distinct)
    (hid : s.listeners.contains id = true) (hdone : s'.due = []) :
    ∃ l mid rest, after = mid ++ .called ⟨some id, ⟨l, e⟩⟩ :: rest ∧
      (heardBy id mid).Perm (raisedTo r id true mid) := by
  cases h with
  | @cons _ s₂ _ _ _ h rest =>
    have hs₂ := h.distinct hs
    have hid₂ : s₂.listeners.contains id = true := h.contains.trans hid
    cases h with
    | elsewhere hn hq => exact absurd rfl hq
    | passedOn hn =>
      obtain ⟨front, l, back, hparts, hfront⟩ := passingOn_eq hs hid e
      have hdue : Duty.passingOn e s.listeners ++ (Duty.direct e own ++ s.due) =
          front ++ ⟨some id, ⟨l, e⟩⟩ :: (back ++ (Duty.direct e own ++ s.due)) := by
        rw [hparts, List.append_assoc, List.cons_append]
      obtain ⟨mid, rest, s₁, hafter, hmid, hs₁⟩ := rest.comesTo hdue hdone
      have hpending := hmid.pending id hs₂
      rw [Scene.pending, Scene.pending, hs₁, hid₂] at hpending
      dsimp only at hpending
      rw [hdue, List.filterMap_append, hfront, List.nil_append] at hpending
      exact ⟨l, mid, rest, hafter, (List.perm_append_right_iff _).mp hpending⟩

/-- If every event is heard before the next one is raised, all are heard in their order. -/
theorem Course.pending_eq (id : ListenerId) {s s' : Scene L} {log : List (Mark L)}
    (h : Course r s log s') (hs : s.Distinct) (hnone : s.pending id = [])
    (hprompt : ∀ before n e heard own after, log = before ++ .raised n r e heard own :: after →
      (heardBy id before).length = (raisedTo r id (s.listeners.contains id) before).length) :
    heardBy id log ++ s'.pending id = raisedTo r id (s.listeners.contains id) log := by
  -- by the last mark, before which as much was heard as was raised if it raises an event
  induction log using List.reverseRecOn generalizing s' with
  | nil =>
    cases h with
    | nil => exact hnone
  | append_singleton log m ih =>
    obtain ⟨s₁, hlog, hm⟩ := h.split
    obtain hlast : Next r s₁ m s' := by
      cases hm with
      | cons hlast hnil =>
        cases hnil
        exact hlast
    have hbefore := ih hlog fun before n e heard own after heq =>
      hprompt before n e heard own (after ++ [m]) (by rw [heq]; simp)
    have hstep := hlast.pending id (hlog.distinct hs)
    rw [hlog.contains] at hstep
    rw [heardBy_append, raisedTo_append, List.append_assoc, hstep]
    cases hevent : m.raised? r with
    | none =>
      have hnothing (on : Bool) : raisedTo r id on [m] = [] := by simp [raisedTo, hevent]
      rw [hnothing, List.nil_append, List.append_nil, hbefore]
    | some e =>
      obtain ⟨n, heard, own, rfl⟩ : ∃ n heard own, m = .raised n r e heard own := by
        cases m <;> simp [Mark.raised?] at hevent
        obtain ⟨rfl, rfl⟩ := hevent
        exact ⟨_, _, _, rfl⟩
      have hlength := congrArg List.length hbefore
      rw [List.length_append, hprompt log n e heard own [] rfl] at hlength
      have hdone : s₁.pending id = [] := List.eq_nil_of_length_eq_zero (by omega)
      rw [hdone, List.append_nil] at hbefore ⊢
      rw [hbefore]

/-- Whoever is called under a handle is the listener that was registered under it. -/
theorem Course.listener {s s' : Scene L} {log : List (Mark L)} (h : Course r s log s')
    {c : Call L} (hcalled : .called ⟨some id, c⟩ ∈ log) :
    ⟨some id, c⟩ ∈ s.due ∨ (id, c.listener) ∈ s.listeners.entries ∨
      .registered id c.listener ∈ log := by
  induction h with
  | nil => exact absurd hcalled List.not_mem_nil
  | @cons s s' s'' m log h rest ih =>
    rcases List.mem_cons.mp hcalled with rfl | hcalled
    · cases h with
      | called hdue => exact .inl (hdue ▸ List.mem_cons_self)
    have hdirect (e : Event) (listeners : List L) : ⟨some id, c⟩ ∉ Duty.direct e listeners :=
      fun h => by
        obtain ⟨l, -, heq⟩ := List.mem_map.mp h
        cases heq
    rcases ih hcalled with hdue | hentry | hmark
    · cases h with
      | passedOn hn e own =>
        rcases List.mem_append.mp hdue with hdue | hdue
        · obtain ⟨x, hx, heq⟩ := List.mem_map.mp hdue
          cases heq
          exact .inr (.inl hx)
        · exact .inl ((List.mem_append.mp hdue).resolve_left (hdirect _ _))
      | elsewhere hn hq e heard own =>
        exact .inl ((List.mem_append.mp ((List.mem_append.mp hdue).resolve_left
          (hdirect _ _))).resolve_left (hdirect _ _))
      | joined q heard => exact .inl ((List.mem_append.mp hdue).resolve_left (hdirect _ _))
      | left n q heard => exact .inl ((List.mem_append.mp hdue).resolve_left (hdirect _ _))
      | called heq => exact .inl (heq ▸ List.mem_cons_of_mem _ hdue)
      | _ => exact .inl hdue
    · cases h with
      | registered l hnew =>
        rcases List.mem_append.mp hentry with hentry | hentry
        · exact .inr (.inl hentry)
        · cases List.mem_singleton.mp hentry
          exact .inr (.inr List.mem_cons_self)
      | removed x => exact .inr (.inl (List.mem_filter.mp hentry).1)
      | emptied => exact absurd hentry List.not_mem_nil
      | _ => exact .inr (.inl hentry)
    · exact .inr (.inr (List.mem_cons_of_mem _ hmark))

end Scene

-- ---------------------------------------------------------------------------
-- What a listener gets
-- ---------------------------------------------------------------------------

/-- The mark has something to do with what is heard under the handle. -/
def Mark.concerns (r : RegistryRef) (id : ListenerId) : Mark L → Bool
  | registered x _ | removed x => x = id
  | emptied => true
  | raised _ q _ _ _ => q = r
  | _ => false

/-- Who else is registered, removed or called does not matter. -/
theorem raisedTo_filter (r : RegistryRef) (id : ListenerId) (on : Bool) (log : List (Mark L)) :
    raisedTo r id on (log.filter (·.concerns r id)) = raisedTo r id on log := by
  induction log generalizing on with
  | nil => rfl
  | cons m log ih =>
    rw [List.filter_cons]
    split
    · rw [raisedTo, raisedTo, ih]
    · rename_i hother
      have hraised : m.raised? r = none := by
        cases m <;> simp_all [Mark.concerns, Mark.raised?]
      have hleaves : m.leaves id on = on := by
        cases m <;> simp_all [Mark.concerns, Mark.leaves]
      rw [ih, raisedTo, hraised, hleaves]
      cases on <;> rfl

/-- What a listener gets under its handle, in the course of a log that begins with these
listeners. -/
structure Served (r : RegistryRef) (id : ListenerId) (listeners : Listeners L)
    (log : List (Mark L)) : Prop where
  /-- It hears once of each event that is raised while it is registered, and of no other. -/
  once : (heardBy id log).Perm (raisedTo r id (listeners.contains id) log)
  /-- It hears of nothing before it is raised. -/
  behind : ∀ before, before <+: log →
    (heardBy id before).Subperm (raisedTo r id (listeners.contains id) before)
  /-- When it hears of an event, it has also heard of just those that were raised since: what comes up
  in the course of a delivery is heard before the delivery goes on. -/
  nested : ∀ before n e heard own after, log = before ++ .raised n r e heard own :: after →
    listens id (listeners.contains id) before = true →
    ∃ l mid rest, after = mid ++ .called ⟨some id, ⟨l, e⟩⟩ :: rest ∧
      (heardBy id mid).Perm (raisedTo r id true mid)
  /-- It hears of the events in their order, if it has heard of each one before the next one. -/
  inOrder : (∀ before n e heard own after, log = before ++ .raised n r e heard own :: after →
      (heardBy id before).length = (raisedTo r id (listeners.contains id) before).length) →
    heardBy id log = raisedTo r id (listeners.contains id) log
  /-- It is the listener that was registered under the handle. -/
  listener : ∀ c, .called ⟨some id, c⟩ ∈ log →
    (id, c.listener) ∈ listeners.entries ∨ .registered id c.listener ∈ log
  /-- Other listeners, of the registry or of a node, do not matter to it. -/
  alone : raisedTo r id (listeners.contains id) log =
    raisedTo r id (listeners.contains id) (log.filter (·.concerns r id))

/-- **Every listener is served**, from one moment at which no call is due to another. -/
theorem Scene.Course.served {r : RegistryRef} {s s' : Scene L} {log : List (Mark L)}
    (h : Course r s log s') (hs : s.Distinct) (hdue : s.due = []) (hdue' : s'.due = [])
    (id : ListenerId) : Served r id s.listeners log := by
  have hnone : s.pending id = [] := by rw [Scene.pending, hdue, List.filterMap_nil]
  have hnone' : s'.pending id = [] := by rw [Scene.pending, hdue', List.filterMap_nil]
  refine ⟨?_, fun before hbefore => ?_, fun before n e heard own after heq hon => ?_,
    fun hprompt => ?_, fun c hcalled => ?_, (raisedTo_filter ..).symm⟩
  · have hall := h.pending id hs
    rwa [hnone, hnone', List.append_nil, List.append_nil] at hall
  · obtain ⟨after, rfl⟩ := hbefore
    obtain ⟨s₁, hfirst, -⟩ := h.split
    have hheard := hfirst.pending id hs
    rw [hnone, List.append_nil] at hheard
    exact (List.sublist_append_left _ _).subperm.trans hheard.subperm
  · obtain ⟨s₁, hfirst, hrest⟩ := (heq ▸ h).split
    exact hrest.nested (hfirst.distinct hs) (hfirst.contains.trans hon) hdue'
  · have hall := h.pending_eq id hs hnone hprompt
    rwa [hnone', List.append_nil] at hall
  · refine (h.listener hcalled).resolve_left ?_
    rw [hdue]
    exact List.not_mem_nil

end Courier
