import Courier.Proofs.Worlds.Telling

/-!
# Courier — who is in a registry

A registry lists a node from the moment at which it is created until it has shut down and the
registry has heard of it. What a registry lists is then as much as what is on record of it: a node is
told of once when it has joined, and once when it has left.

* `Orderly` — what registries list, and what they have told of it;
* `Minor` — changes that leave all this as it is, which `Orderly.minor` shows.
-/

namespace Courier

variable {L S : Type}

/-- The address of a node is known from when it runs, and not before. -/
def Node.Addressed (node : Node L) : Prop :=
  (node.state = .running → node.address.isSome) ∧
    (node.state = .new ∨ node.state = .starting → node.address = none)

/-- Nothing is asked of the address of a node that stops. -/
theorem Node.addressed_of_over {node : Node L}
    (h : node.state = .stopping ∨ node.state = .terminated) : node.Addressed := by
  constructor
  all_goals rcases h with h | h <;> simp [h]

namespace World

-- ---------------------------------------------------------------------------
-- Order
-- ---------------------------------------------------------------------------

/-- Some registry lists the node. -/
def Lists (n : NodeRef) (w : World L S) : Prop := ∃ r id, (id, n) ∈ (w.registry r).nodes

/-- A node was created in a registry that there is. -/
structure IsMember (n : NodeRef) (w : World L S) : Prop where
  created : n.number < w.nodes.length
  registry : (w.node n).registry.number < w.registries.length

/-- A registry has told of an event, and that once. -/
def Announced (r : RegistryRef) (e : Event) (w : World L S) : Prop := (w.relayed e).map (·.1) = [r]

/-- What registries list, and what they have told of it. -/
structure Orderly (w : World L S) : Prop where
  entry : ∀ r id n, (id, n) ∈ (w.registry r).nodes →
    n.number < w.nodes.length ∧ (w.node n).id = id ∧ (w.node n).registry = r
  unique : ∀ r, ((w.registry r).nodes.map (·.1)).Nodup
  listed : ∀ n, w.IsMember n → (w.node n).state ≠ .terminated → w.Lists n
  listens : ∀ n, n.number < w.nodes.length → (w.node n).state ≠ .terminated →
    .registry ∈ (w.node n).listeners.snapshot
  addressed : ∀ n, (w.node n).Addressed
  /-- It is for registries to tell of this, not for nodes. -/
  told : ∀ e, e.IsRoster → w.told e = []
  added : ∀ n, n.number < w.nodes.length → w.Announced (w.node n).registry (.nodeAdded n)
  unborn : ∀ n, w.nodes.length ≤ n.number → w.relayed (.nodeAdded n) = []
  removed : ∀ n, w.IsMember n → ¬ w.Lists n → w.Announced (w.node n).registry (.nodeRemoved n)
  remains : ∀ n, w.Lists n ∨ ¬ w.IsMember n → w.relayed (.nodeRemoved n) = []

/-- `find_node` finds what the roster lists. -/
theorem mem_of_find {reg : Registry L} {id : String} {n : NodeRef} (h : reg.find id = some n) :
    (id, n) ∈ reg.nodes := by
  obtain ⟨before, after, hnodes, -⟩ := List.lookup_eq_some_iff.mp h
  rw [hnodes]
  exact List.mem_append_right _ List.mem_cons_self

/-- It finds all of it, since no id is listed twice. -/
theorem Orderly.find_eq_some_iff {w : World L S} (hw : w.Orderly) {r : RegistryRef} {id : String}
    {n : NodeRef} : (w.registry r).find id = some n ↔ (id, n) ∈ (w.registry r).nodes :=
  ⟨mem_of_find, ConnectionTable.lookup_of_mem (hw.unique r)⟩

/-- An id leads to one node. -/
theorem Orderly.eq_of_mem {w : World L S} (hw : w.Orderly) {r : RegistryRef} {id : String}
    {m n : NodeRef} (hm : (id, m) ∈ (w.registry r).nodes) (hn : (id, n) ∈ (w.registry r).nodes) :
    m = n :=
  Option.some.inj ((hw.find_eq_some_iff.mpr hm).symm.trans (hw.find_eq_some_iff.mpr hn))

/-- A node is listed by its own registry, under its id. -/
theorem Orderly.lists_iff {w : World L S} (hw : w.Orderly) {n : NodeRef} :
    w.Lists n ↔ ((w.node n).id, n) ∈ (w.registry (w.node n).registry).nodes := by
  constructor
  · rintro ⟨r, id, hmem⟩
    obtain ⟨-, rfl, rfl⟩ := hw.entry r id n hmem
    exact hmem
  · exact fun hmem => ⟨_, _, hmem⟩

/-- Only members are listed. -/
theorem Orderly.isMember {w : World L S} (hw : w.Orderly) {n : NodeRef} (h : w.Lists n) :
    w.IsMember n := by
  obtain ⟨r, id, hmem⟩ := h
  obtain ⟨hn, -, rfl⟩ := hw.entry r id n hmem
  refine ⟨hn, Nat.lt_of_not_le fun hle => ?_⟩
  rw [registry_of_length_le hle] at hmem
  exact absurd hmem List.not_mem_nil

/-- A world in which nobody has created a node yet. -/
theorem Orderly.start {registries : List (Registry L)} (h : ∀ reg ∈ registries, reg.nodes = [])
    (outside : S) : ({ World.start outside with registries } : World L S).Orderly := by
  let w : World L S := { World.start outside with registries }
  have hnode (n : NodeRef) : w.node n = default := node_of_length_le (Nat.zero_le _)
  have hnobody (r : RegistryRef) : (w.registry r).nodes = [] :=
    registry_of_forall (w := w) (P := (·.nodes = [])) rfl h r
  have hnone {n : NodeRef} (hn : n.number < w.nodes.length) : False := Nat.not_lt_zero _ hn
  exact {
    entry := fun r id n hmem => absurd (hnobody r ▸ hmem) List.not_mem_nil
    unique := fun r => by
      show ((w.registry r).nodes.map (·.1)).Nodup
      rw [hnobody r]
      exact List.nodup_nil
    listed := fun n hn => (hnone hn.created).elim
    listens := fun n hn => (hnone hn).elim
    addressed := fun n => by
      show (w.node n).Addressed
      rw [hnode n]
      refine ⟨fun hrunning => ?_, fun _ => rfl⟩
      cases hrunning
    told := fun _ _ => rfl
    added := fun n hn => (hnone hn).elim
    unborn := fun _ _ => rfl
    removed := fun n hn => (hnone hn.created).elim
    remains := fun _ _ => rfl }

-- ---------------------------------------------------------------------------
-- Minor changes
-- ---------------------------------------------------------------------------

/-- What a node keeps as long as it has not terminated: its place in the registry, and the registry
among its listeners. -/
structure KeepsPlace (node node' : Node L) : Prop extends SameNode node node' where
  alive : node'.state ≠ .terminated → node.state ≠ .terminated
  listens : node'.state ≠ .terminated → .registry ∈ node.listeners.snapshot →
    .registry ∈ node'.listeners.snapshot
  addressed : node.Addressed → node'.Addressed

/-- A node is as far with its shutdown as before. -/
structure SamePhase (node node' : Node L) : Prop where
  stopping : node'.state = .stopping ↔ node.state = .stopping
  terminated : node'.state = .terminated ↔ node.state = .terminated

theorem KeepsPlace.refl (node : Node L) : KeepsPlace node node :=
  ⟨.refl node, id, fun _ => id, id⟩

/-- A node is in the same phase if its state is the same. -/
theorem SamePhase.of_eq {node node' : Node L} (h : node'.state = node.state) :
    SamePhase node node' := ⟨by rw [h], by rw [h]⟩

theorem SamePhase.refl (node : Node L) : SamePhase node node := .of_eq rfl

theorem KeepsPlace.trans {a b c : Node L} (h : KeepsPlace a b) (h' : KeepsPlace b c) :
    KeepsPlace a c :=
  ⟨h.toSameNode.trans h'.toSameNode, fun hc => h.alive (h'.alive hc),
    fun hc ha => h'.listens hc (h.listens (h'.alive hc) ha),
    fun ha => h'.addressed (h.addressed ha)⟩

/-- A change that leaves registries and what they have told as they are. All nodes but one at most
are as far with their shutdowns as before. -/
structure Minor (but : Option NodeRef) (w w' : World L S) : Prop where
  nodes : w'.nodes.length = w.nodes.length
  registries : w'.registries.length = w.registries.length
  node : ∀ n, KeepsPlace (w.node n) (w'.node n)
  phase : ∀ n, but ≠ some n → SamePhase (w.node n) (w'.node n)
  entries : ∀ r, (w'.registry r).nodes = (w.registry r).nodes
  shutDown : ∀ r, (w.registry r).isShutDown = true → (w'.registry r).isShutDown = true
  told : ∀ e, e.IsRoster → w'.told e = w.told e
  relayed : ∀ e, e.IsRoster → w'.relayed e = w.relayed e

variable {but : Option NodeRef}

theorem Minor.trans {w w' w'' : World L S} (h : Minor but w w') (h' : Minor but w' w'') :
    Minor but w w'' where
  nodes := h'.nodes.trans h.nodes
  registries := h'.registries.trans h.registries
  node n := (h.node n).trans (h'.node n)
  phase n hn := ⟨(h'.phase n hn).stopping.trans (h.phase n hn).stopping,
    (h'.phase n hn).terminated.trans (h.phase n hn).terminated⟩
  entries r := (h'.entries r).trans (h.entries r)
  shutDown r hr := h'.shutDown r (h.shutDown r hr)
  told e he := (h'.told e he).trans (h.told e he)
  relayed e he := (h'.relayed e he).trans (h.relayed e he)

/-- Connections, calls, handles and the surroundings do not matter. -/
theorem Minor.of_eq {w w' : World L S} (hnodes : w'.nodes = w.nodes)
    (hregistries : w'.registries = w.registries) (hhistory : w'.history = w.history) :
    Minor but w w' where
  nodes := congrArg _ hnodes
  registries := congrArg _ hregistries
  node n := by
    rw [World.node, World.node, hnodes]
    exact .refl _
  phase n _ := by
    rw [World.node, World.node, hnodes]
    exact .refl _
  entries r := by rw [World.registry, World.registry, hregistries]
  shutDown r hr := by rwa [World.registry, hregistries]
  told e _ := by rw [World.told, World.told, hhistory]
  relayed e _ := by rw [World.relayed, World.relayed, hhistory]

theorem Minor.refl (w : World L S) : Minor but w w := .of_eq rfl rfl rfl

/-- A node may change while it keeps its place and its phase. -/
theorem Minor.setNode {w : World L S} (n : NodeRef) {f : Node L → Node L}
    (h : n.number < w.nodes.length → KeepsPlace (w.node n) (f (w.node n)))
    (hphase : n.number < w.nodes.length → but ≠ some n → SamePhase (w.node n) (f (w.node n))) :
    Minor but w (w.setNode n f) where
  nodes := List.length_modify ..
  registries := rfl
  node m := by
    rw [node_setNode]
    split
    · rename_i hm
      exact hm.1 ▸ h hm.2
    · exact .refl _
  phase m hbut := by
    rw [node_setNode]
    split
    · rename_i hm
      exact hm.1 ▸ hphase hm.2 (hm.1 ▸ hbut)
    · exact .refl _
  entries _ := rfl
  shutDown _ := id
  told _ _ := rfl
  relayed _ _ := rfl

/-- A node changes in something that has nothing to do with its place. -/
theorem Minor.setNode_aside {w : World L S} (n : NodeRef) {f : Node L → Node L}
    (h : ∀ node, SameNode node (f node)) (hstate : ∀ node, (f node).state = node.state)
    (haddress : ∀ node, (f node).address = node.address)
    (hlisteners : ∀ node, (f node).listeners = node.listeners) : Minor but w (w.setNode n f) := by
  refine .setNode n (fun _ => ⟨h _, ?_, ?_, ?_⟩) fun _ _ => ⟨?_, ?_⟩
  · exact fun hne => hstate (w.node n) ▸ hne
  · exact fun _ hmem => hlisteners (w.node n) ▸ hmem
  · unfold Node.Addressed
    rw [hstate, haddress]
    exact id
  · rw [hstate]
  · rw [hstate]

theorem Minor.setRegistry {w : World L S} (r : RegistryRef) {f : Registry L → Registry L}
    (hnodes : (f (w.registry r)).nodes = (w.registry r).nodes)
    (hshut : (w.registry r).isShutDown = true → (f (w.registry r)).isShutDown = true) :
    Minor but w (w.setRegistry r f) where
  nodes := rfl
  registries := List.length_modify ..
  node _ := .refl _
  phase _ _ := .refl _
  entries q := by
    rw [registry_setRegistry]
    split
    · rename_i hq
      rw [hq.1]
      exact hnodes
    · rfl
  shutDown q hq := by
    rw [registry_setRegistry]
    split
    · rename_i heq
      rw [heq.1] at hq ⊢
      exact hshut hq
    · exact hq
  told _ _ := rfl
  relayed _ _ := rfl

theorem Minor.record {d : Deed L} {w : World L S}
    (h : ∀ e, e.IsRoster → d.told? e = none ∧ d.relayed? e = none) : Minor but w (w.record d) where
  nodes := rfl
  registries := rfl
  node _ := .refl _
  phase _ _ := .refl _
  entries _ := rfl
  shutDown _ := id
  told e he := by
    rw [told_record, (h e he).1]
    exact List.append_nil _
  relayed e he := by
    rw [relayed_record, (h e he).2]
    exact List.append_nil _

/-- A node may tell of something. -/
theorem Minor.tell (n : NodeRef) {e : Event} (he : ¬ e.IsRoster) (t : Turn L S) :
    Minor but t.world (Turn.tell n e t).world :=
  .record fun e' he' => ⟨if_neg fun h : e = e' => he (h ▸ he'), rfl⟩

theorem Minor.relay (r : RegistryRef) {e : Event} (he : ¬ e.IsRoster) (t : Turn L S) :
    Minor but t.world (Turn.relay r e t).world :=
  .record fun e' he' => ⟨rfl, if_neg fun h : e = e' => he (h ▸ he')⟩

theorem Minor.takeOut (n : NodeRef) (c : ConnectionRef) (reason : CloseReason) (w : World L S) :
    Minor but w (w.takeOut n c reason).2 := by
  have hclosed : Minor but w (w.setConnection c fun conn => (conn.markClosed reason).2) :=
    .of_eq rfl rfl rfl
  have hrecorded := hclosed.trans (.record (d := .closed n c reason) fun _ _ => ⟨rfl, rfl⟩)
  exact hrecorded.trans (.setNode_aside n (fun _ => ⟨rfl, rfl, rfl⟩) (fun _ => rfl)
    (fun _ => rfl) fun _ => rfl)

/-- **Minor changes keep order.** -/
theorem Orderly.minor {w w' : World L S} (hw : w.Orderly) (h : Minor but w w') : w'.Orderly := by
  have hlists (n : NodeRef) : w'.Lists n ↔ w.Lists n := by
    unfold Lists
    simp only [h.entries]
  have hmember (n : NodeRef) : w'.IsMember n ↔ w.IsMember n := by
    have hregistry := (h.node n).registry
    exact ⟨fun hn => ⟨h.nodes ▸ hn.created, by rw [← hregistry, ← h.registries]; exact hn.registry⟩,
      fun hn => ⟨h.nodes ▸ hn.created, by rw [hregistry, h.registries]; exact hn.registry⟩⟩
  have hannounced {r : RegistryRef} {e : Event} (he : e.IsRoster) :
      w'.Announced r e ↔ w.Announced r e := by
    rw [Announced, Announced, h.relayed e he]
  constructor
  case entry =>
    intro r id n hmem
    rw [h.entries] at hmem
    rw [h.nodes, (h.node n).id, (h.node n).registry]
    exact hw.entry r id n hmem
  case unique => exact fun r => by rw [h.entries]; exact hw.unique r
  case listed =>
    exact fun n hn halive =>
      (hlists n).mpr (hw.listed n ((hmember n).mp hn) ((h.node n).alive halive))
  case listens =>
    exact fun n hn halive =>
      (h.node n).listens halive (hw.listens n (h.nodes ▸ hn) ((h.node n).alive halive))
  case addressed => exact fun n => (h.node n).addressed (hw.addressed n)
  case told => exact fun e he => (h.told e he).trans (hw.told e he)
  case added =>
    intro n hn
    rw [hannounced (Event.isRoster_nodeAdded n), (h.node n).registry]
    exact hw.added n (h.nodes ▸ hn)
  case unborn => exact fun n hn =>
      (h.relayed _ (Event.isRoster_nodeAdded n)).trans (hw.unborn n (h.nodes ▸ hn))
  case removed =>
    intro n hn hgone
    rw [hannounced (Event.isRoster_nodeRemoved n), (h.node n).registry]
    exact hw.removed n ((hmember n).mp hn) fun hl => hgone ((hlists n).mpr hl)
  case remains =>
    refine fun n hn => (h.relayed _ (Event.isRoster_nodeRemoved n)).trans (hw.remains n ?_)
    rwa [hlists, hmember] at hn

end World
end Courier
