import Courier.Proofs.Worlds.Stories

/-!
# Courier — what lasts

Nodes, registries and connections change, but not in everything. A node stays in the registry that
it was created in, under its id and with its settings; a registry keeps its rules, the bans among
them; a connection stays between the nodes that it was opened between, and keeps what was written to
it; and what is on record stays on record.

* `Lasting` — what lasts from one world to another;
* `Moves.lasting`, `Step.lasting`, `Story.lasting` — whatever happens in between;
* `Change.rosters` — what may become of the nodes that a registry lists.
-/

namespace Courier.World

variable {L S : Type}

theorem SameNode.refl (node : Node L) : SameNode node node := ⟨rfl, rfl, rfl⟩

theorem SameNode.trans {a b c : Node L} (h : SameNode a b) (h' : SameNode b c) : SameNode a c :=
  ⟨h'.id.trans h.id, h'.registry.trans h.registry, h'.settings.trans h.settings⟩

theorem SameRules.refl (reg : Registry L) : SameRules reg reg := ⟨rfl, rfl, rfl, id⟩

theorem SameRules.trans {a b c : Registry L} (h : SameRules a b) (h' : SameRules b c) :
    SameRules a c :=
  ⟨h'.settings.trans h.settings, h'.transport.trans h.transport, h'.bans.trans h.bans,
    fun hshut => h'.shutDown (h.shutDown hshut)⟩

/-- What lasts from one world to another. -/
structure Lasting (w w' : World L S) : Prop where
  nodes : w.nodes.length ≤ w'.nodes.length
  node : ∀ n, n.number < w.nodes.length → SameNode (w.node n) (w'.node n)
  registries : w'.registries.length = w.registries.length
  rules : ∀ r, SameRules (w.registry r) (w'.registry r)
  connections : w.connections.length ≤ w'.connections.length
  connection : ∀ c, c.number < w.connections.length →
    Continues (w.connection c) (w'.connection c)
  history : w.history <+: w'.history

theorem Lasting.refl (w : World L S) : Lasting w w :=
  ⟨Nat.le_refl _, fun _ _ => .refl _, rfl, fun _ => .refl _, Nat.le_refl _, fun _ _ => .refl _,
    List.prefix_rfl⟩

theorem Lasting.trans {w w' w'' : World L S} (h : Lasting w w') (h' : Lasting w' w'') :
    Lasting w w'' where
  nodes := Nat.le_trans h.nodes h'.nodes
  node n hn := (h.node n hn).trans (h'.node n (Nat.lt_of_lt_of_le hn h.nodes))
  registries := h'.registries.trans h.registries
  rules r := (h.rules r).trans (h'.rules r)
  connections := Nat.le_trans h.connections h'.connections
  connection c hc := (h.connection c hc).trans
    (h'.connection c (Nat.lt_of_lt_of_le hc h.connections))
  history := h.history.trans h'.history

/-- Who passes for the owner of a connection passes for it ever after. -/
theorem Lasting.owns {w w' : World L S} (h : Lasting w w') {n : NodeRef}
    (hn : n.number < w.nodes.length) {c : ConnectionRef} (howns : w.owns n c = true) :
    w'.owns n c = true := by
  obtain ⟨hc, hid⟩ := owns_iff.mp howns
  have hnode : (w'.connection c).nodeId = (w'.node n).id := by
    rw [(h.connection c hc).nodeId, (h.node n hn).id, hid]
  exact owns_iff.mpr ⟨Nat.lt_of_lt_of_le hc h.connections, hnode⟩

/-- Calls and the surroundings do not matter, nor what is added to the record. -/
theorem Lasting.of_eq {w w' : World L S} (hnodes : w'.nodes = w.nodes)
    (hregistries : w'.registries = w.registries) (hconnections : w'.connections = w.connections)
    (hhistory : w.history <+: w'.history) : Lasting w w' where
  nodes := Nat.le_of_eq (by rw [hnodes])
  node n _ := by
    rw [World.node, World.node, hnodes]
    exact .refl _
  registries := by rw [hregistries]
  rules r := by
    rw [World.registry, World.registry, hregistries]
    exact .refl _
  connections := Nat.le_of_eq (by rw [hconnections])
  connection c _ := by
    rw [World.connection, World.connection, hconnections]
    exact .refl _
  history := hhistory

/-- What is put on record changes nothing that lasts. -/
theorem Lasting.record (d : Deed L) (w : World L S) : Lasting w (w.record d) :=
  .of_eq rfl rfl rfl (List.prefix_append ..)

/-- A node may change in what does not last. -/
theorem Lasting.setNode {w : World L S} (n : NodeRef) {f : Node L → Node L}
    (h : ∀ node, SameNode node (f node)) : Lasting w (w.setNode n f) where
  nodes := Nat.le_of_eq (List.length_modify ..).symm
  node m _ := by
    rw [node_setNode]
    split
    · exact h _
    · exact .refl _
  registries := rfl
  rules _ := .refl _
  connections := Nat.le_refl _
  connection _ _ := .refl _
  history := List.prefix_rfl

theorem Lasting.setRegistry {w : World L S} (r : RegistryRef) {f : Registry L → Registry L}
    (h : ∀ reg, SameRules reg (f reg)) : Lasting w (w.setRegistry r f) where
  nodes := Nat.le_refl _
  node _ _ := .refl _
  registries := List.length_modify ..
  rules q := by
    rw [registry_setRegistry]
    split
    · exact h _
    · exact .refl _
  connections := Nat.le_refl _
  connection _ _ := .refl _
  history := List.prefix_rfl

/-- There may be a new node. -/
theorem Lasting.addNode (node : Node L) (w : World L S) : Lasting w (w.addNode node).2 where
  nodes := by
    rw [World.addNode, List.length_append]
    omega
  node m hm := by
    rw [node_addNode, if_neg (Nat.ne_of_lt hm)]
    exact .refl _
  registries := rfl
  rules _ := .refl _
  connections := Nat.le_refl _
  connection _ _ := .refl _
  history := List.prefix_rfl

/-- A connection may go on. -/
theorem Lasting.setConnection {c : ConnectionRef} {f : Connection → Connection} {w : World L S}
    (h : Continues (w.connection c) (f (w.connection c))) : Lasting w (w.setConnection c f) where
  nodes := Nat.le_refl _
  node _ _ := .refl _
  registries := rfl
  rules _ := .refl _
  connections := Nat.le_of_eq (List.length_modify ..).symm
  connection d _ := by
    rw [connection_setConnection]
    split
    · rename_i hd
      rw [hd.1]
      exact h
    · exact .refl _
  history := List.prefix_rfl

theorem Lasting.addConnection (conn : Connection) (w : World L S) :
    Lasting w (w.addConnection conn).2 where
  nodes := Nat.le_refl _
  node _ _ := .refl _
  registries := rfl
  rules _ := .refl _
  connections := length_addConnection conn w ▸ Nat.le_succ _
  connection d hd := by
    rw [connection_addConnection, if_neg (Nat.ne_of_lt hd)]
    exact .refl _
  history := List.prefix_rfl

/-- A node may take a connection into its table -/
theorem Lasting.takeIn (n : NodeRef) (c : ConnectionRef) (w : World L S) :
    Lasting w (w.takeIn n c) :=
  .setNode n fun _ => ⟨rfl, rfl, rfl⟩

theorem Lasting.takeOut (n : NodeRef) (c : ConnectionRef) (reason : CloseReason)
    (w : World L S) : Lasting w (w.takeOut n c reason).2 := by
  have hmarked : Lasting w (w.setConnection c fun conn => (conn.markClosed reason).2) :=
    .setConnection (continues_markClosed reason _)
  exact (hmarked.trans (.record (.closed n c reason) _)).trans (.setNode n fun _ => ⟨rfl, rfl, rfl⟩)

/-- A server may stop. -/
theorem Lasting.stop (env : Surroundings L S) (n : NodeRef) (w : World L S) :
    Lasting w (stopServer env n (w.setState n .stopping)).2 := by
  obtain ⟨s, hs⟩ := stop_eq env n w
  have hnode : Lasting w
      (w.setNode n fun node => { node with state := .stopping, server := none }) :=
    .setNode n fun _ => ⟨rfl, rfl, rfl⟩
  rw [hs]
  exact hnode.trans (.of_eq rfl rfl rfl List.prefix_rfl)

/-- **Every move leaves what lasts.** -/
theorem Move.lasting {t t' : Turn L S} (h : Move t t') : Lasting t.world t'.world := by
  cases h with
  | outside due w s => exact .of_eq rfl rfl rfl List.prefix_rfl
  | registry due w r hsame => exact .setRegistry r hsame
  | handle due w => exact .of_eq rfl rfl rfl List.prefix_rfl
  | node due w n hsame htable => exact .setNode n hsame
  | @newNode due w node h => exact .addNode node w
  | traffic due w c hsame => exact .setConnection hsame.toContinues
  | @begins due w n conn hn hnode hopen =>
    have htaken := (Lasting.addConnection conn w).trans
      (.takeIn n (w.addConnection conn).1 (w.addConnection conn).2)
    exact htaken.trans (.record ..)
  | @turnedAway due w conn h => exact .addConnection conn w
  | @ends due w n c reason howns hthere =>
    exact (Lasting.takeOut n c reason w).trans (.record ..)
  | @closes due w n c reason howns hthere => exact .takeOut n c reason w
  | tells due w n h => exact .record ..
  | announces due w r h => exact .record ..
  | relays due w r e => exact .record ..
  | calls due w l e => exact .of_eq rfl rfl rfl List.prefix_rfl

/-- So it is for any moves. -/
theorem Moves.lasting {t t' : Turn L S} (h : Moves t t') : Lasting t.world t'.world :=
  h.keeps (fun hmove hlasting => Lasting.trans hlasting hmove.lasting) (Lasting.refl t.world)

variable {env : Surroundings L S} {may : Act L → World L S → Prop}

theorem Step.lasting {w w' : World L S} (h : Step env may w w') : Lasting w w' := by
  obtain ⟨due, due', hmoves⟩ := h.moves
  exact hmoves.lasting

theorem Story.lasting {t : Turn L S} {w' : World L S} (h : Story env may t w') :
    Lasting t.world w' := (h.moves []).lasting

/-- Registries list the same nodes, and their shutdowns are as far as before. -/
def SameRosters (w w' : World L S) : Prop :=
  ∀ r, (w'.registry r).nodes = (w.registry r).nodes ∧
    (w'.registry r).isShutDown = (w.registry r).isShutDown ∧
    (w'.registry r).outcome = (w.registry r).outcome

/-- Rosters are the same if the registries are. -/
theorem SameRosters.of_eq {w w' : World L S} (h : w'.registries = w.registries) :
    SameRosters w w' := fun r => by
  rw [World.registry, World.registry, h]
  exact ⟨rfl, rfl, rfl⟩

/-- A registry may change in what is not its roster. -/
theorem SameRosters.setRegistry {w : World L S} (r : RegistryRef) {f : Registry L → Registry L}
    (h : ∀ reg, (f reg).nodes = reg.nodes ∧ (f reg).isShutDown = reg.isShutDown ∧
      (f reg).outcome = reg.outcome) : SameRosters w (w.setRegistry r f) := fun q => by
  rw [registry_setRegistry]
  split
  · exact h _
  · exact ⟨rfl, rfl, rfl⟩

/-- Of all that nobody is told of, only the shutdown of a registry does something to a roster. -/
theorem Change.rosters {w w' : World L S} (h : Change env may w w') :
    SameRosters w w' ∨ (∃ r, may (.shutDown r) w ∧ w' = w.closeRegistry r) ∨
      ∃ r completed, (∃ w₀, may (.shutDown r) w₀) ∧
        (r.number < w.registries.length → (w.registry r).isShutDown = true) ∧
        w' = w.emptyRegistry r completed := by
  have listens {v : World L S} {r : RegistryRef} {f : Registry L → Registry L}
      (h : ∀ reg, (f reg).nodes = reg.nodes ∧ (f reg).isShutDown = reg.isShutDown ∧
        (f reg).outcome = reg.outcome) : SameRosters v (v.setRegistry r f) := .setRegistry r h
  cases h with
  | start n port =>
    have hend := startNode_end env n port w
    generalize startNode env n port w = result at hend
    cases hend <;> exact .inl (.of_eq rfl)
  | @stuck n hstate hstop =>
    obtain ⟨s, hs⟩ := stop_eq env n w
    rw [hs]
    exact .inl (.of_eq rfl)
  | listenToRegistry r l =>
    have hadded : SameRosters w.freshListener.2 (World.listenToRegistry r l w).2 :=
      listens fun _ => ⟨rfl, rfl, rfl⟩
    exact .inl hadded
  | @listenToNodes r l h =>
    have hadded : SameRosters w.freshListener.2 (World.listenToNodes r l w).2 :=
      listens fun _ => ⟨rfl, rfl, rfl⟩
    exact .inl hadded
  | unlistenToRegistry r id => exact .inl (listens fun _ => ⟨rfl, rfl, rfl⟩)
  | unlistenToNodes h => exact .inl (listens fun _ => ⟨rfl, rfl, rfl⟩)
  | @closeRegistry r h => exact .inr (.inl ⟨r, h, rfl⟩)
  | @emptyRegistry r h hshut completed => exact .inr (.inr ⟨r, completed, h, hshut, rfl⟩)
  | _ => exact .inl (.of_eq rfl)

end Courier.World
