import Courier.Proofs.Worlds.Lives

/-!
# Courier — everyone is told

When a connection begins or ends, it is put on record who listens to its node at that moment. The
node then calls each of them, however long it takes and whatever the listeners do meanwhile; a
registry among them passes the event on to those who listen to it when its turn comes. So when
nothing is due any more, the calls that were made are those that the record asks for.

* `World.heard`, `World.summoned` — who was called, and who was to be;
* `Called`, `Balanced` — they agree up to the calls that are due, and every move keeps it so;
* `World.ToldOnce`, `World.Untold` — one node told of an event once, or nobody did.
-/

namespace Courier

variable {L S : Type}

def NodeListener.own? : NodeListener L → Option L
  | .registry => none
  | .own l => some l

def NodeListener.isRegistry : NodeListener L → Bool
  | .registry => true
  | .own _ => false

/-- A node had something to tell, when these listened to it. -/
structure Telling (L : Type) where
  node : NodeRef
  registry : RegistryRef
  listeners : List (NodeListener L)

/-- The listeners that the node calls itself. -/
def Telling.own (t : Telling L) : List L := t.listeners.filterMap (·.own?)

/-- The registry of the node, as often as it is to pass the event on. -/
def Telling.relays (t : Telling L) : List RegistryRef :=
  List.replicate (t.listeners.countP (·.isRegistry)) t.registry

/-- What a node had to tell of an event. -/
def Deed.told? (e : Event) : Deed L → Option (Telling L)
  | .nodeTold n r e' listeners => if e' = e then some ⟨n, r, listeners⟩ else none
  | _ => none

/-- What a registry had to pass on of an event, and to whom. -/
def Deed.relayed? (e : Event) : Deed L → Option (RegistryRef × List L)
  | .registryTold r e' listeners => if e' = e then some (r, listeners) else none
  | _ => none

/-- Those who are to be called about an event because of a deed. -/
def Deed.summons (e : Event) : Deed L → List L
  | .nodeTold _ _ e' listeners => if e' = e then listeners.filterMap (·.own?) else []
  | .registryTold _ e' listeners => if e' = e then listeners else []
  | .closed _ _ _ => []

/-- The node that told of an event, if it did so at that moment of the life of a connection. -/
def Moment.teller? (c : ConnectionRef) (e : Event) : Moment → Option NodeRef
  | .began n => if .connected c = e then some n else none
  | .ended n reason => if .disconnected c reason = e then some n else none
  | .closed _ _ => none

namespace World

/-- Those who were called about an event, in order. -/
def heard (e : Event) (w : World L S) : List L :=
  w.calls.filterMap fun call => if call.event = e then some call.listener else none

/-- What nodes had to tell of an event. -/
def told (e : Event) (w : World L S) : List (Telling L) := w.history.filterMap (·.told? e)

/-- What registries had to pass on of an event, and to whom. -/
def relayed (e : Event) (w : World L S) : List (RegistryRef × List L) :=
  w.history.filterMap (·.relayed? e)

/-- Those who are to be called about an event, by the record. -/
def summoned (e : Event) (w : World L S) : List L := w.history.flatMap (·.summons e)

-- ---------------------------------------------------------------------------
-- What a deed adds
-- ---------------------------------------------------------------------------

theorem told_record (e : Event) (d : Deed L) (w : World L S) :
    (w.record d).told e = w.told e ++ (d.told? e).toList := by
  rw [told, record, List.filterMap_append]
  rfl

theorem relayed_record (e : Event) (d : Deed L) (w : World L S) :
    (w.record d).relayed e = w.relayed e ++ (d.relayed? e).toList := by
  rw [relayed, record, List.filterMap_append]
  rfl

theorem summoned_record (e : Event) (d : Deed L) (w : World L S) :
    (w.record d).summoned e = w.summoned e ++ d.summons e := by
  rw [summoned, record, List.flatMap_append, List.flatMap_singleton]
  rfl

/-- Who is to be called are the own listeners of nodes and those of registries. -/
theorem summoned_perm (e : Event) (w : World L S) :
    (w.summoned e).Perm ((w.told e).flatMap (·.own) ++ (w.relayed e).flatMap (·.2)) := by
  unfold summoned told relayed
  induction w.history with
  | nil => exact .refl _
  | cons d history ih =>
    rw [List.flatMap_cons]
    cases d with
    | nodeTold n r e' listeners =>
      by_cases he : e' = e
      · simp only [Deed.summons, Deed.told?, Deed.relayed?, List.filterMap_cons, if_pos he,
          List.flatMap_cons, List.append_assoc]
        exact ih.append_left _
      · simp only [Deed.summons, Deed.told?, Deed.relayed?, List.filterMap_cons, if_neg he]
        exact ih
    | registryTold r e' listeners =>
      by_cases he : e' = e
      · simp only [Deed.summons, Deed.told?, Deed.relayed?, List.filterMap_cons, if_pos he,
          List.flatMap_cons]
        exact (ih.append_left listeners).trans (List.perm_append_comm_assoc ..)
      · simp only [Deed.summons, Deed.told?, Deed.relayed?, List.filterMap_cons, if_neg he]
        exact ih
    | closed n c reason => exact ih

-- ---------------------------------------------------------------------------
-- The calls that are due
-- ---------------------------------------------------------------------------

def Due.callOf? (e : Event) : Due L → Option L
  | .call l e' => if e' = e then some l else none
  | .relay _ _ => none

def Due.relayOf? (e : Event) : Due L → Option RegistryRef
  | .call _ _ => none
  | .relay r e' => if e' = e then some r else none

/-- The calls that were made and those that are due are the ones that the record asks for. -/
def Called (e : Event) (t : Turn L S) : Prop :=
  (t.world.heard e ++ t.due.filterMap (·.callOf? e)).Perm (t.world.summoned e)

/-- What was done and what is due is what the record asks for. -/
structure Balanced (e : Event) (t : Turn L S) : Prop where
  calls : Called e t
  relays : ((t.world.relayed e).map (·.1) ++ t.due.filterMap (·.relayOf? e)).Perm
    ((t.world.told e).flatMap (·.relays))

theorem Called.of_eq {e : Event} {due : List (Due L)} {w w' : World L S}
    (h : Called e ⟨due, w⟩) (hcalls : w'.calls = w.calls) (hhistory : w'.history = w.history) :
    Called e ⟨due, w'⟩ := by
  simp only [Called, heard, summoned, hcalls, hhistory] at h ⊢
  exact h

theorem Balanced.of_eq {e : Event} {due : List (Due L)} {w w' : World L S}
    (h : Balanced e ⟨due, w⟩) (hcalls : w'.calls = w.calls) (hhistory : w'.history = w.history) :
    Balanced e ⟨due, w'⟩ := by
  obtain ⟨hheard, hrelays⟩ := h
  refine ⟨hheard.of_eq hcalls hhistory, ?_⟩
  simp only [relayed, told, hhistory] at hrelays ⊢
  exact hrelays

/-- What is put in the middle may as well be put at the end. -/
theorem perm_append_middle {α : Type} {xs ys zs : List α} (h : (xs ++ ys).Perm zs)
    (new : List α) : (xs ++ (new ++ ys)).Perm (zs ++ new) := by
  have hswap : (xs ++ (new ++ ys)).Perm (xs ++ (ys ++ new)) :=
    List.perm_append_comm.append_left _
  rw [← List.append_assoc xs ys] at hswap
  exact hswap.trans (h.append_right _)

/-- What a node is to call about an event are its own listeners. -/
theorem callOf_dueTo (e e' : Event) (r : RegistryRef) (listeners : List (NodeListener L)) :
    (listeners.map (dueTo r e')).filterMap (·.callOf? e) =
      if e' = e then listeners.filterMap (·.own?) else [] := by
  induction listeners with
  | nil => simp
  | cons l listeners ih =>
    rw [List.map_cons, List.filterMap_cons, ih]
    by_cases he : e' = e <;> cases l <;> simp [he, dueTo, Due.callOf?, NodeListener.own?]

theorem relayOf_dueTo (e e' : Event) (r : RegistryRef) (listeners : List (NodeListener L)) :
    (listeners.map (dueTo r e')).filterMap (·.relayOf? e) =
      if e' = e then List.replicate (listeners.countP (·.isRegistry)) r else [] := by
  induction listeners with
  | nil => simp
  | cons l listeners ih =>
    rw [List.map_cons, List.filterMap_cons, ih]
    by_cases he : e' = e <;> cases l <;>
      simp [he, dueTo, Due.relayOf?, NodeListener.isRegistry, List.replicate_succ]

theorem callOf_call (e e' : Event) (listeners : List L) :
    (listeners.map (Due.call · e')).filterMap (·.callOf? e) =
      if e' = e then listeners else [] := by
  rw [List.filterMap_map]
  by_cases he : e' = e <;> simp [he, Function.comp_def, Due.callOf?]

theorem relayOf_call (e e' : Event) (listeners : List L) :
    (listeners.map (Due.call · e')).filterMap (·.relayOf? e) = [] := by
  rw [List.filterMap_map]
  exact List.filterMap_eq_nil_iff.mpr fun _ _ => rfl

/-- When a node sets about telling, those who listen are due. -/
theorem Called.tell {e : Event} {due : List (Due L)} {w : World L S} (n : NodeRef) (e' : Event)
    (h : Called e ⟨due, w⟩) : Called e (Turn.tell n e' ⟨due, w⟩) := by
  unfold Called Turn.tell
  dsimp only
  rw [List.filterMap_append, callOf_dueTo, summoned_record]
  exact perm_append_middle h _

/-- When a registry tells its listeners, or passes something on to them, they are due. -/
theorem Called.registryTold {e : Event} {due : List (Due L)} {w : World L S} (r : RegistryRef)
    (e' : Event) (listeners : List L) (h : Called e ⟨due, w⟩) :
    Called e ⟨listeners.map (.call · e') ++ due, w.record (.registryTold r e' listeners)⟩ := by
  unfold Called
  rw [List.filterMap_append, callOf_call, summoned_record]
  exact perm_append_middle h _

/-- Nobody is called because a connection is closed; that is up to the one who tells of it. -/
theorem Called.takeOut {e : Event} {due : List (Due L)} {w : World L S} (n : NodeRef)
    (c : ConnectionRef) (reason : CloseReason) (h : Called e ⟨due, w⟩) :
    Called e ⟨due, (w.takeOut n c reason).2⟩ := by
  have hclosed : Called e ⟨due,
      (w.setConnection c fun conn => (conn.markClosed reason).2).record (.closed n c reason)⟩ := by
    unfold Called
    rw [summoned_record]
    exact (List.append_nil _).symm ▸ h
  exact hclosed.of_eq rfl rfl

/-- **Every move keeps the calls in balance with the record.** -/
theorem Move.called {e : Event} {t t' : Turn L S} (h : Move t t') (hb : Called e t) :
    Called e t' := by
  cases h with
  | outside due w s => exact hb.of_eq rfl rfl
  | registry due w r hsame => exact hb.of_eq rfl rfl
  | handle due w => exact hb.of_eq rfl rfl
  | node due w n hsame htable => exact hb.of_eq rfl rfl
  | newNode due w h => exact hb.of_eq rfl rfl
  | traffic due w c h => exact hb.of_eq rfl rfl
  | turnedAway due w h => exact hb.of_eq rfl rfl
  | @begins due w n conn hn hnode hopen =>
    have hb' : Called e ⟨due, (w.addConnection conn).2.takeIn n (w.addConnection conn).1⟩ :=
      hb.of_eq rfl rfl
    exact hb'.tell n _
  | @ends due w n c reason howns hthere => exact (hb.takeOut n c reason).tell n _
  | @closes due w n c reason howns hthere => exact hb.takeOut n c reason
  | tells due w n h => exact hb.tell n _
  | announces due w r h => exact hb.registryTold r _ _
  | relays due w r e' => exact Called.registryTold r e' _ hb
  | calls due w l e' =>
    have hheard : (w.log l e').heard e ++ due.filterMap (·.callOf? e) =
        w.heard e ++ (Due.call l e' :: due).filterMap (·.callOf? e) := by
      by_cases he : e' = e <;> simp [heard, log, he, Due.callOf?]
    unfold Called
    rw [hheard]
    exact hb

theorem Moves.called {e : Event} {t t' : Turn L S} (h : Moves t t') (hb : Called e t) :
    Called e t' :=
  h.keeps (fun hmove => hmove.called) hb

/-- When a node sets about telling, its registry is to pass the event on. -/
theorem Balanced.tell {e : Event} {due : List (Due L)} {w : World L S} (n : NodeRef) (e' : Event)
    (h : Balanced e ⟨due, w⟩) : Balanced e (Turn.tell n e' ⟨due, w⟩) := by
  refine ⟨h.calls.tell n e', ?_⟩
  unfold Turn.tell
  dsimp only
  rw [List.filterMap_append, relayOf_dueTo, told_record, relayed_record, List.flatMap_append]
  have hmiddle := perm_append_middle h.relays
    (if e' = e then List.replicate ((w.node n).listeners.snapshot.countP (·.isRegistry))
      (w.node n).registry else [])
  by_cases he : e' = e <;> simpa [Deed.told?, Deed.relayed?, Telling.relays, he] using hmiddle

/-- When a registry passes something on, it has done what was due. -/
theorem Balanced.relay {e : Event} {due : List (Due L)} {w : World L S} (r : RegistryRef)
    (e' : Event) (h : Balanced e ⟨.relay r e' :: due, w⟩) :
    Balanced e (Turn.relay r e' ⟨due, w⟩) := by
  refine ⟨Called.registryTold r e' _ h.calls, ?_⟩
  have hbefore := h.relays
  unfold Turn.relay
  dsimp only at hbefore ⊢
  rw [List.filterMap_append, relayOf_call, told_record, relayed_record, List.flatMap_append]
  by_cases he : e' = e <;> simpa [Deed.told?, Deed.relayed?, Due.relayOf?, he] using hbefore

/-- What a registry has to say of its own does not concern what its nodes tell of. -/
theorem Balanced.announce {e : Event} {due : List (Due L)} {w : World L S} (r : RegistryRef)
    {e' : Event} (he : e' ≠ e) (h : Balanced e ⟨due, w⟩) :
    Balanced e (Turn.announce r e' ⟨due, w⟩) := by
  refine ⟨h.calls.registryTold r e' _, ?_⟩
  have hbefore := h.relays
  unfold Turn.announce
  dsimp only at hbefore ⊢
  rw [List.filterMap_append, relayOf_call, told_record, relayed_record, List.flatMap_append]
  simpa [Deed.told?, Deed.relayed?, he] using hbefore

theorem Balanced.takeOut {e : Event} {due : List (Due L)} {w : World L S} (n : NodeRef)
    (c : ConnectionRef) (reason : CloseReason) (h : Balanced e ⟨due, w⟩) :
    Balanced e ⟨due, (w.takeOut n c reason).2⟩ := by
  refine ⟨h.calls.takeOut n c reason, ?_⟩
  have hrelays : (((w.record (.closed n c reason)).relayed e).map (·.1) ++
      due.filterMap (·.relayOf? e)).Perm
        (((w.record (.closed n c reason)).told e).flatMap (·.relays)) := by
    rw [told_record, relayed_record]
    simpa [Deed.told?, Deed.relayed?] using h.relays
  exact hrelays

/-- **Every move keeps calls and record in balance.** -/
theorem Move.balanced {e : Event} (he : ¬ e.IsRoster) {t t' : Turn L S} (h : Move t t')
    (hb : Balanced e t) : Balanced e t' := by
  cases h with
  | outside due w s => exact hb.of_eq rfl rfl
  | registry due w r hsame => exact hb.of_eq rfl rfl
  | handle due w => exact hb.of_eq rfl rfl
  | node due w n hsame htable => exact hb.of_eq rfl rfl
  | newNode due w h => exact hb.of_eq rfl rfl
  | traffic due w c h => exact hb.of_eq rfl rfl
  | turnedAway due w h => exact hb.of_eq rfl rfl
  | @begins due w n conn hn hnode hopen =>
    have hb' : Balanced e ⟨due, (w.addConnection conn).2.takeIn n (w.addConnection conn).1⟩ :=
      hb.of_eq rfl rfl
    exact hb'.tell n _
  | @ends due w n c reason howns hthere => exact (hb.takeOut n c reason).tell n _
  | @closes due w n c reason howns hthere => exact hb.takeOut n c reason
  | tells due w n h => exact hb.tell n _
  | announces due w r h => exact hb.announce r fun heq => he (heq ▸ h)
  | relays due w r e' => exact hb.relay r e'
  | calls due w l e' =>
    have hrelays := hb.relays
    rw [List.filterMap_cons] at hrelays
    exact ⟨(Move.calls due w l e').called hb.calls, hrelays⟩

theorem Moves.balanced {e : Event} (he : ¬ e.IsRoster) {t t' : Turn L S} (h : Moves t t')
    (hb : Balanced e t) : Balanced e t' :=
  h.keeps (fun hmove => hmove.balanced he) hb

theorem Called.start (e : Event) (outside : S) :
    Called e (⟨[], World.start outside⟩ : Turn L S) :=
  .refl _

theorem Balanced.start (e : Event) (outside : S) :
    Balanced e (⟨[], World.start outside⟩ : Turn L S) :=
  ⟨.start e outside, .refl _⟩

-- ---------------------------------------------------------------------------
-- Told once, or never
-- ---------------------------------------------------------------------------

/-- One node has told of an event, and once. Its own listeners of that moment were called, and if
its registry was among them, it passed the event on, and those who listened to it then were called;
each of them as often as it was in the set, and nobody else. -/
def ToldOnce (n : NodeRef) (e : Event) (w : World L S) : Prop :=
  ∃ t : Telling L, t.node = n ∧ w.told e = [t] ∧
    ((w.relayed e).map (·.1)).Perm t.relays ∧
    (w.heard e).Perm (t.own ++ (w.relayed e).flatMap (·.2))

/-- Nobody has told of an event, and nobody was called. -/
structure Untold (e : Event) (w : World L S) : Prop where
  told : w.told e = []
  relayed : w.relayed e = []
  heard : w.heard e = []

/-- When nothing is due, those who are to be called were called, and nobody else. -/
theorem Called.heard_perm {e : Event} {w : World L S} (h : Called e ⟨[], w⟩) :
    (w.heard e).Perm ((w.told e).flatMap (·.own) ++ (w.relayed e).flatMap (·.2)) := by
  unfold Called at h
  rw [List.filterMap_nil, List.append_nil] at h
  exact h.trans (w.summoned_perm e)

theorem Balanced.relayed_perm {e : Event} {w : World L S} (h : Balanced e ⟨[], w⟩) :
    ((w.relayed e).map (·.1)).Perm ((w.told e).flatMap (·.relays)) := by
  have hrelays := h.relays
  rwa [List.filterMap_nil, List.append_nil] at hrelays

theorem Balanced.toldOnce {e : Event} {w : World L S} (h : Balanced e ⟨[], w⟩) {n : NodeRef}
    (htold : (w.told e).map (·.node) = [n]) : ToldOnce n e w := by
  obtain ⟨t, heq, hn⟩ := List.map_eq_singleton_iff.mp htold
  have hrelays := h.relayed_perm
  have hheard := h.calls.heard_perm
  rw [heq, List.flatMap_singleton] at hrelays hheard
  exact ⟨t, hn, heq, hrelays, hheard⟩

theorem Balanced.untold {e : Event} {w : World L S} (h : Balanced e ⟨[], w⟩)
    (htold : (w.told e).map (·.node) = []) : Untold e w := by
  have heq := List.map_eq_nil_iff.mp htold
  have hrelays := h.relayed_perm
  have hheard := h.calls.heard_perm
  rw [heq] at hrelays hheard
  have hrelayed := List.map_eq_nil_iff.mp hrelays.eq_nil
  rw [hrelayed] at hheard
  exact ⟨heq, hrelayed, hheard.eq_nil⟩

/-- Who told of the beginning or the end of a connection is on its record. -/
theorem told_eq {c : ConnectionRef} {e : Event}
    (he : e = .connected c ∨ ∃ reason, e = .disconnected c reason) (w : World L S) :
    (w.told e).map (·.node) = (w.life c).filterMap (·.teller? c e) := by
  rw [told, life, List.map_filterMap, List.filterMap_filterMap]
  congr 1
  funext d
  rcases d with ⟨n, r, e', listeners⟩ | _ | ⟨n, d, reason⟩
  · cases e' with
    | connected d =>
      by_cases hd : d = c
      · simp [Deed.told?, Deed.moment?, Moment.teller?, hd]
      · rcases he with rfl | ⟨reason, rfl⟩ <;> simp [Deed.told?, Deed.moment?, hd]
    | disconnected d reason' =>
      by_cases hd : d = c
      · simp [Deed.told?, Deed.moment?, Moment.teller?, hd]
      · rcases he with rfl | ⟨reason, rfl⟩ <;> simp [Deed.told?, Deed.moment?, hd]
    | _ => rcases he with rfl | ⟨reason, rfl⟩ <;> rfl
  · rfl
  · by_cases hd : d = c <;> simp [Deed.told?, Deed.moment?, Moment.teller?, hd]

end World
end Courier
