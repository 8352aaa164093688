import Courier.Proofs.Worlds.Rosters

/-!
# Courier — nodes join a registry and leave it

A node joins when its registry creates it, and leaves when the registry has heard that it is shut
down. Both are told of at once.

* `Joined`, `Left` — what is different then;
* `Orderly.join`, `Orderly.leave` — both keep the rosters in order.
-/

namespace Courier.World

variable {L S : Type}

-- ---------------------------------------------------------------------------
-- Joining and leaving
-- ---------------------------------------------------------------------------

/-- What a registry says of a node that has joined or left it. -/
theorem relayed_announce (e e' : Event) (r : RegistryRef) (due : List (Due L)) (w : World L S) :
    (Turn.announce r e' ⟨due, w⟩).world.relayed e =
      w.relayed e ++ if e' = e then [(r, (w.registry r).listeners.snapshot)] else [] := by
  unfold Turn.announce
  dsimp only
  rw [relayed_record]
  show w.relayed e ++ (if e' = e then some _ else none).toList = _
  split <;> rfl

/-- What registries announce is not told by nodes. -/
theorem told_announce (e e' : Event) (r : RegistryRef) (due : List (Due L)) (w : World L S) :
    (Turn.announce r e' ⟨due, w⟩).world.told e = w.told e := by
  unfold Turn.announce
  dsimp only
  rw [told_record]
  exact List.append_nil _

/-- A node that is about to join a registry, which listens to it. -/
def newcomer (r : RegistryRef) (id : String) (w : World L S) : Node L :=
  { (Node.fresh id r (w.registry r).settings.node : Node L) with
    listeners := Listeners.add w.freshListener.1 .registry .empty }

section Join

variable (r : RegistryRef) (id : String) (w : World L S)

/-- `get_or_create` creates one node. -/
theorem length_createNode : (w.createNode r id).2.nodes.length = w.nodes.length + 1 :=
  List.length_append

/-- It creates no registry. -/
theorem registries_createNode :
    (w.createNode r id).2.registries.length = w.registries.length := List.length_modify ..

/-- The nodes that there were are left alone. -/
theorem node_createNode {n : NodeRef} (h : n.number < w.nodes.length) :
    (w.createNode r id).2.node n = w.node n :=
  (node_addNode (w.newcomer r id) n w.freshListener.2).trans (if_neg (Nat.ne_of_lt h))

/-- The new node is in its first state. -/
theorem node_createNode_self :
    (w.createNode r id).2.node (w.createNode r id).1 = w.newcomer r id :=
  (node_addNode (w.newcomer r id) (w.createNode r id).1 w.freshListener.2).trans (if_pos rfl)

/-- It is listed by its registry. -/
theorem entries_createNode (q : RegistryRef) :
    ((w.createNode r id).2.registry q).nodes =
      (w.registry q).nodes ++
        if q = r ∧ r.number < w.registries.length then [(id, (w.createNode r id).1)] else [] := by
  have hentries := registry_setRegistry r q
    (fun reg => { reg with nodes := reg.nodes ++ [(id, (w.createNode r id).1)] }) w
  have hnodes := congrArg (·.nodes) hentries
  refine hnodes.trans ?_
  split
  · rfl
  · exact (List.append_nil _).symm

/-- No registry is shut down by it. -/
theorem isShutDown_createNode (q : RegistryRef) :
    ((w.createNode r id).2.registry q).isShutDown = (w.registry q).isShutDown :=
  registry_setRegistry_congr (·.isShutDown)
    (f := fun reg => { reg with nodes := reg.nodes ++ [(id, (w.createNode r id).1)] })
    (fun _ => rfl) r q w

end Join

/-- What is different once a node has joined a registry: it is there, the registry lists it under
its id, and has told of it. -/
structure Joined (r : RegistryRef) (id : String) (n : NodeRef) (w w' : World L S) : Prop where
  number : n.number = w.nodes.length
  nodes : w'.nodes.length = w.nodes.length + 1
  registries : w'.registries.length = w.registries.length
  old : ∀ m, m.number < w.nodes.length → w'.node m = w.node m
  self : w'.node n = w.newcomer r id
  entries : ∀ q, (w'.registry q).nodes = (w.registry q).nodes ++
    if q = r ∧ r.number < w.registries.length then [(id, n)] else []
  told : ∀ e, w'.told e = w.told e
  relayed : ∃ listeners, ∀ e, w'.relayed e =
    w.relayed e ++ if .nodeAdded n = e then [(r, listeners)] else []

/-- This is what is different when a node has joined. -/
theorem joined (r : RegistryRef) (id : String) (due : List (Due L)) (w : World L S) :
    Joined r id (w.createNode r id).1 w
      (Turn.announce r (.nodeAdded (w.createNode r id).1) ⟨due, (w.createNode r id).2⟩).world where
  number := rfl
  nodes := length_createNode r id w
  registries := registries_createNode r id w
  old _ hm := node_createNode r id w hm
  self := node_createNode_self r id w
  entries := entries_createNode r id w
  told e := told_announce e _ r due _
  relayed := ⟨_, fun e => relayed_announce e _ r due _⟩

namespace Joined

variable {r : RegistryRef} {id : String} {n : NodeRef} {w w' : World L S}

/-- Whoever is there was there before, or is the new node. -/
theorem old_or_self (h : Joined r id n w w') {m : NodeRef} (hm : m.number < w'.nodes.length) :
    m.number < w.nodes.length ∨ m = n := by
  rw [h.nodes] at hm
  rcases Nat.lt_succ_iff_lt_or_eq.mp hm with hlt | heq
  · exact .inl hlt
  · exact .inr (congrArg NodeRef.mk (heq.trans h.number.symm))

/-- A node that was there is not the new one. -/
theorem ne_of_old (h : Joined r id n w w') {m : NodeRef} (hm : m.number < w.nodes.length) :
    m ≠ n := by
  rintro rfl
  exact Nat.ne_of_lt hm h.number

/-- The rosters are as before, with the new node in its registry. -/
theorem mem_iff (h : Joined r id n w w') {q : RegistryRef} {id' : String} {m : NodeRef} :
    (id', m) ∈ (w'.registry q).nodes ↔ (id', m) ∈ (w.registry q).nodes ∨
      (q = r ∧ r.number < w.registries.length) ∧ id' = id ∧ m = n := by
  rw [h.entries, List.mem_append]
  split
  · rename_i hq
    simp [hq]
  · rename_i hq
    simp [hq]

theorem lists_iff (h : Joined r id n w w') {m : NodeRef} (hm : m.number < w.nodes.length) :
    w'.Lists m ↔ w.Lists m := by
  have hne := h.ne_of_old hm
  unfold Lists
  simp only [h.mem_iff, hne, and_false, or_false]

theorem isMember_iff (h : Joined r id n w w') {m : NodeRef} (hm : m.number < w.nodes.length) :
    w'.IsMember m ↔ w.IsMember m := by
  have hm' : m.number < w'.nodes.length := Nat.lt_of_lt_of_eq (Nat.lt_succ_of_lt hm) h.nodes.symm
  constructor
  · intro hmember
    exact ⟨hm, by rw [← h.old m hm, ← h.registries]; exact hmember.registry⟩
  · intro hmember
    exact ⟨hm', by rw [h.old m hm, h.registries]; exact hmember.registry⟩

/-- The new node is listed, if there is such a registry. -/
theorem lists_self (h : Joined r id n w w') (hn : w'.IsMember n) : w'.Lists n := by
  have hr := hn.registry
  rw [h.self, h.registries] at hr
  exact ⟨r, id, h.mem_iff.mpr (.inr ⟨⟨rfl, hr⟩, rfl, rfl⟩)⟩

/-- Nothing else is told of. -/
theorem relayed_of_ne (h : Joined r id n w w') {e : Event} (he : .nodeAdded n ≠ e) :
    w'.relayed e = w.relayed e := by
  obtain ⟨listeners, hrelayed⟩ := h.relayed
  rw [hrelayed, if_neg he, List.append_nil]

/-- Nothing is told of nodes that have left. -/
theorem removed (h : Joined r id n w w') (m : NodeRef) :
    w'.relayed (.nodeRemoved m) = w.relayed (.nodeRemoved m) := h.relayed_of_ne fun he => nomatch he

theorem added (h : Joined r id n w w') {m : NodeRef} (hm : m ≠ n) :
    w'.relayed (.nodeAdded m) = w.relayed (.nodeAdded m) :=
  h.relayed_of_ne fun he => hm (Event.nodeAdded.inj he).symm

/-- The ids are still different, if this one was not taken. -/
theorem unique (h : Joined r id n w w') (hw : w.Orderly) (hnew : (w.registry r).find id = none)
    (q : RegistryRef) : ((w'.registry q).nodes.map (·.1)).Nodup := by
  rw [h.entries, List.map_append]
  split
  · rename_i hq
    refine List.nodup_append.mpr ⟨hw.unique q, List.pairwise_singleton _ _, ?_⟩
    rintro key hkey _ hid rfl
    obtain ⟨⟨id', m⟩, hentry, rfl⟩ := List.mem_map.mp hkey
    obtain rfl : id' = id := List.mem_singleton.mp hid
    have hfound := hw.find_eq_some_iff.mpr hentry
    rw [hq.1, hnew] at hfound
    cases hfound
  · rw [List.map_nil, List.append_nil]
    exact hw.unique q

end Joined

/-- **Order is kept when a node joins.** -/
theorem Orderly.join {w : World L S} (hw : w.Orderly) {r : RegistryRef} {id : String}
    (hnew : (w.registry r).find id = none) (due : List (Due L)) :
    (Turn.announce r (.nodeAdded (w.createNode r id).1)
      ⟨due, (w.createNode r id).2⟩).world.Orderly := by
  have h := joined r id due w
  generalize (w.createNode r id).1 = n at h ⊢
  generalize (Turn.announce r (.nodeAdded n) _).world = w' at h ⊢
  constructor
  case entry =>
    intro q id' m hentry
    rcases h.mem_iff.mp hentry with hentry | ⟨⟨rfl, -⟩, rfl, rfl⟩
    · obtain ⟨hm, hrest⟩ := hw.entry q id' m hentry
      rw [h.old m hm, h.nodes]
      exact ⟨Nat.lt_succ_of_lt hm, hrest⟩
    · rw [h.self, h.nodes, h.number]
      exact ⟨Nat.lt_succ_self _, rfl, rfl⟩
  case unique => exact h.unique hw hnew
  case listed =>
    intro m hm halive
    rcases h.old_or_self hm.created with hlt | rfl
    · exact (h.lists_iff hlt).mpr
        (hw.listed m ((h.isMember_iff hlt).mp hm) (h.old m hlt ▸ halive))
    · exact h.lists_self hm
  case listens =>
    intro m hm halive
    rcases h.old_or_self hm with hlt | rfl
    · rw [h.old m hlt] at halive ⊢
      exact hw.listens m hlt halive
    · rw [h.self]
      exact List.mem_singleton_self _
  case addressed =>
    intro m
    by_cases hm : m.number < w'.nodes.length
    · rcases h.old_or_self hm with hlt | rfl
      · rw [h.old m hlt]
        exact hw.addressed m
      · rw [h.self]
        exact ⟨fun hrunning => (nomatch hrunning), fun _ => rfl⟩
    · rw [node_of_length_le (Nat.le_of_not_lt hm)]
      exact ⟨fun hrunning => (nomatch hrunning), fun _ => rfl⟩
  case told => exact fun e he => (h.told e).trans (hw.told e he)
  case added =>
    intro m hm
    unfold Announced
    rcases h.old_or_self hm with hlt | rfl
    · rw [h.added (h.ne_of_old hlt), h.old m hlt]
      exact hw.added m hlt
    · -- nothing was told of the new node before
      obtain ⟨listeners, hrelayed⟩ := h.relayed
      rw [hrelayed, hw.unborn m (Nat.le_of_eq h.number.symm), if_pos rfl, h.self]
      rfl
  case unborn =>
    intro m hm
    rw [h.nodes] at hm
    have hne : m ≠ n := by
      rintro rfl
      rw [h.number] at hm
      exact Nat.not_succ_le_self _ hm
    rw [h.added hne]
    exact hw.unborn m (Nat.le_of_succ_le hm)
  case removed =>
    intro m hm hgone
    unfold Announced
    rcases h.old_or_self hm.created with hlt | rfl
    · rw [h.removed, h.old m hlt]
      exact hw.removed m ((h.isMember_iff hlt).mp hm) fun hl => hgone ((h.lists_iff hlt).mpr hl)
    · exact absurd (h.lists_self hm) hgone
  case remains =>
    intro m hm
    rw [h.removed]
    by_cases hlt : m.number < w.nodes.length
    · rw [h.lists_iff hlt, h.isMember_iff hlt] at hm
      exact hw.remains m hm
    · exact hw.remains m (.inr fun hmember => hlt hmember.created)

/-- What a registry lists when it has dropped a node. -/
theorem mem_dropNode {r q : RegistryRef} {id id' : String} {m : NodeRef} {w : World L S} :
    (id', m) ∈ ((w.dropNode r id).registry q).nodes ↔
      (id', m) ∈ (w.registry q).nodes ∧ ¬ (q = r ∧ id' = id) := by
  unfold dropNode
  rw [registry_setRegistry]
  split
  · rename_i hq
    rw [List.mem_filter, decide_eq_true_iff]
    simp [hq.1]
  · rename_i hq
    refine ⟨fun h => ⟨h, fun heq => ?_⟩, fun h => h.1⟩
    -- a registry that is not there lists nobody
    have hlength : w.registries.length ≤ q.number :=
      Nat.le_of_not_lt fun hlt => hq ⟨heq.1, heq.1 ▸ hlt⟩
    rw [registry_of_length_le hlength] at h
    exact absurd h List.not_mem_nil

/-- What is different once a node has left its registry: the registry lists nobody under its id, and
has told of it. -/
structure Left (r : RegistryRef) (n : NodeRef) (w w' : World L S) : Prop where
  nodes : w'.nodes = w.nodes
  registries : w'.registries.length = w.registries.length
  ids : ∀ q, ((w'.registry q).nodes.map (·.1)).Sublist ((w.registry q).nodes.map (·.1))
  entries : ∀ q id m, (id, m) ∈ (w'.registry q).nodes ↔
    (id, m) ∈ (w.registry q).nodes ∧ ¬ (q = r ∧ id = (w.node n).id)
  told : ∀ e, w'.told e = w.told e
  relayed : ∃ listeners, ∀ e, w'.relayed e =
    w.relayed e ++ if .nodeRemoved n = e then [(r, listeners)] else []

/-- This is what is different when a node has left. -/
theorem left (r : RegistryRef) (n : NodeRef) (due : List (Due L)) (w : World L S) :
    Left r n w
      (Turn.announce r (.nodeRemoved n) ⟨due, w.dropNode r (w.node n).id⟩).world where
  nodes := rfl
  registries := List.length_modify ..
  ids q := by
    show (((w.dropNode r (w.node n).id).registry q).nodes.map (·.1)).Sublist _
    unfold dropNode
    rw [registry_setRegistry]
    split
    · exact List.filter_sublist.map _
    · exact .refl _
  entries _ _ _ := mem_dropNode
  told e := told_announce e _ r due _
  relayed := ⟨_, fun e => relayed_announce e _ r due _⟩

namespace Left

variable {r : RegistryRef} {n : NodeRef} {w w' : World L S}

theorem node (h : Left r n w w') (m : NodeRef) : w'.node m = w.node m := by
  rw [World.node, World.node, h.nodes]

theorem isMember_iff (h : Left r n w w') {m : NodeRef} : w'.IsMember m ↔ w.IsMember m := by
  constructor
  · exact fun hm => ⟨h.nodes ▸ hm.created, by rw [← h.node m, ← h.registries]; exact hm.registry⟩
  · exact fun hm => ⟨h.nodes ▸ hm.created, by rw [h.node m, h.registries]; exact hm.registry⟩

/-- A node that has left is listed no more. -/
theorem not_lists_self (h : Left r n w w') (hw : w.Orderly) (hregistry : (w.node n).registry = r) :
    ¬ w'.Lists n := by
  rintro ⟨q, id, hmem⟩
  obtain ⟨hmem, hnot⟩ := (h.entries q id n).mp hmem
  obtain ⟨-, rfl, rfl⟩ := hw.entry q id n hmem
  exact hnot ⟨hregistry, rfl⟩

/-- Nobody else stood under the id. -/
theorem lists_iff (h : Left r n w w') (hw : w.Orderly)
    (hentry : ((w.node n).id, n) ∈ (w.registry r).nodes) {m : NodeRef} (hm : m ≠ n) :
    w'.Lists m ↔ w.Lists m := by
  constructor
  · exact fun ⟨q, id, hmem⟩ => ⟨q, id, ((h.entries q id m).mp hmem).1⟩
  · rintro ⟨q, id, hmem⟩
    refine ⟨q, id, (h.entries q id m).mpr ⟨hmem, ?_⟩⟩
    rintro ⟨rfl, rfl⟩
    exact hm (hw.eq_of_mem hmem hentry)

/-- Nothing else is told of. -/
theorem relayed_of_ne (h : Left r n w w') {e : Event} (he : .nodeRemoved n ≠ e) :
    w'.relayed e = w.relayed e := by
  obtain ⟨listeners, hrelayed⟩ := h.relayed
  rw [hrelayed, if_neg he, List.append_nil]

theorem added (h : Left r n w w') (m : NodeRef) :
    w'.relayed (.nodeAdded m) = w.relayed (.nodeAdded m) := h.relayed_of_ne fun he => nomatch he

theorem removed (h : Left r n w w') {m : NodeRef} (hm : m ≠ n) :
    w'.relayed (.nodeRemoved m) = w.relayed (.nodeRemoved m) :=
  h.relayed_of_ne fun he => hm (Event.nodeRemoved.inj he).symm

end Left

/-- **Order is kept when a node leaves that has shut down.** -/
theorem Orderly.leave {w : World L S} (hw : w.Orderly) {r : RegistryRef} {n : NodeRef}
    (hthere : (w.registry r).find (w.node n).id = some n)
    (hover : (w.node n).state = .terminated) (due : List (Due L)) :
    (Turn.announce r (.nodeRemoved n) ⟨due, w.dropNode r (w.node n).id⟩).world.Orderly := by
  have h := left r n due w
  generalize (Turn.announce r (.nodeRemoved n) _).world = w' at h ⊢
  have hentry := mem_of_find hthere
  obtain ⟨-, -, hregistry⟩ := hw.entry r _ n hentry
  constructor
  case entry =>
    intro q id m hmem
    rw [h.nodes, h.node m]
    exact hw.entry q id m ((h.entries q id m).mp hmem).1
  case unique => exact fun q => (h.ids q).nodup (hw.unique q)
  case listed =>
    intro m hm halive
    rw [h.node m] at halive
    have hne : m ≠ n := fun heq => halive (heq ▸ hover)
    exact (h.lists_iff hw hentry hne).mpr (hw.listed m (h.isMember_iff.mp hm) halive)
  case listens =>
    intro m hm halive
    rw [h.node m] at halive ⊢
    exact hw.listens m (h.nodes ▸ hm) halive
  case addressed => exact fun m => h.node m ▸ hw.addressed m
  case told => exact fun e he => (h.told e).trans (hw.told e he)
  case added =>
    intro m hm
    unfold Announced
    rw [h.added, h.node m]
    exact hw.added m (h.nodes ▸ hm)
  case unborn => exact fun m hm => (h.added m).trans (hw.unborn m (h.nodes ▸ hm))
  case removed =>
    intro m hm hgone
    unfold Announced
    rw [h.node m]
    by_cases hne : m = n
    · -- the registry has told of it just now, and not before
      subst hne
      obtain ⟨listeners, hrelayed⟩ := h.relayed
      rw [hrelayed, hw.remains m (.inl ⟨r, _, hentry⟩), if_pos rfl]
      exact congrArg (fun q => [q]) hregistry.symm
    · rw [h.removed hne]
      exact hw.removed m (h.isMember_iff.mp hm) fun hl => hgone ((h.lists_iff hw hentry hne).mpr hl)
  case remains =>
    intro m hm
    by_cases hne : m = n
    · subst hne
      have hmember : w'.IsMember m := h.isMember_iff.mpr (hw.isMember ⟨r, _, hentry⟩)
      exact (hm.elim (h.not_lists_self hw hregistry) fun hnot => hnot hmember).elim
    · rw [h.removed hne]
      rw [h.lists_iff hw hentry hne, h.isMember_iff] at hm
      exact hw.remains m hm

end Courier.World
