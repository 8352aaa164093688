import Courier.Proofs.Worlds.Lifetimes

/-!
# Courier — how the lives of nodes go on

A story is made of steps, and a step does little to a node: it is started, or stopped, or nothing of
the kind happens to it. Only what ends a shutdown cannot be told from the step alone. When the
listeners of a node are told that it has shut down, all connections that it had were closed before,
and since it was stopping it has taken up no others.

* `Goes` — what a step can do to a node that does not end;
* `Ends` — a node ends, with nothing in its table;
* `Walk` — step by step from one world to another, each node going on or ending;
* `Story.walk` — a story that begins in a sound world is a walk.
-/

namespace Courier

variable {L S : Type}

/-- How far a node has come, and the addresses that go with it. -/
structure Phase where
  state : NodeState
  address : Option Address
  server : Option Address

def Node.phase (node : Node L) : Phase := ⟨node.state, node.address, node.server⟩

/-- The shutdown of the node has begun. -/
def Node.IsOver (node : Node L) : Prop := node.state = .stopping ∨ node.state = .terminated

theorem Node.isOver_of_phase {node node' : Node L} (h : node'.phase = node.phase)
    (hover : node.IsOver) : node'.IsOver := by
  have hstate : node'.state = node.state := congrArg Phase.state h
  rwa [Node.IsOver, hstate]

namespace World

/-- The listeners of a node that were told of its end. -/
def parted (n : NodeRef) (w : World L S) : List (NodeListener L) :=
  (w.told (.shutDown n)).flatMap (·.listeners)

theorem parted_record (n : NodeRef) (d : Deed L) (w : World L S) :
    (w.record d).parted n =
      w.parted n ++ (d.told? (.shutDown n)).toList.flatMap (·.listeners) := by
  rw [parted, told_record, List.flatMap_append, parted]

-- ---------------------------------------------------------------------------
-- What happens to other things
-- ---------------------------------------------------------------------------

/-- A node takes up no connection, and does not tell of its end. -/
structure Aside (n : NodeRef) (w w' : World L S) : Prop where
  table : ∀ c, (w'.node n).table.contains c = true → (w.node n).table.contains c = true
  began : ∀ c, .began n ∈ w'.life c → .began n ∈ w.life c
  parted : w'.parted n = w.parted n

/-- Nor does it come any further. -/
structure Stays (n : NodeRef) (w w' : World L S) : Prop extends Aside n w w' where
  phase : (w'.node n).phase = (w.node n).phase

variable {n : NodeRef}

theorem Aside.trans {w w' w'' : World L S} (h : Aside n w w') (h' : Aside n w' w'') :
    Aside n w w'' :=
  ⟨fun c hc => h.table c (h'.table c hc), fun c hc => h.began c (h'.began c hc),
    h'.parted.trans h.parted⟩

theorem Stays.state {w w' : World L S} (h : Stays n w w') :
    (w'.node n).state = (w.node n).state := congrArg Phase.state h.phase

theorem Stays.trans {w w' w'' : World L S} (h : Stays n w w') (h' : Stays n w' w'') :
    Stays n w w'' :=
  ⟨h.toAside.trans h'.toAside, h'.phase.trans h.phase⟩

/-- Connections, registries, calls and the surroundings do not matter. -/
theorem Stays.of_eq {w w' : World L S} (hnodes : w'.nodes = w.nodes)
    (hhistory : w'.history = w.history) : Stays n w w' := by
  have hnode : w'.node n = w.node n := by rw [node, node, hnodes]
  refine ⟨⟨fun c hc => hnode ▸ hc, fun c hc => ?_, ?_⟩, by rw [hnode]⟩
  · rwa [life, hhistory] at hc
  · rw [parted, parted, told, told, hhistory]

theorem Stays.refl (w : World L S) : Stays n w w := .of_eq rfl rfl

theorem Stays.record {d : Deed L} (hbegan : ∀ c, d.moment? c ≠ some (.began n))
    (htold : (d.told? (.shutDown n)).toList.flatMap (·.listeners) = []) (w : World L S) :
    Stays n w (w.record d) := by
  refine ⟨⟨fun _ => id, fun c hc => ?_, ?_⟩, rfl⟩
  · rw [life_record] at hc
    exact (List.mem_append.mp hc).resolve_right fun h => hbegan c (Option.mem_toList.mp h)
  · rw [parted_record, htold, List.append_nil]

/-- A registry says something. -/
theorem Stays.registryTold (r : RegistryRef) (e : Event) (listeners : List L) (w : World L S) :
    Stays n w (w.record (.registryTold r e listeners)) :=
  .record (fun _ h => by cases h) rfl w

/-- A node says something that is neither that it takes up a connection nor that it ends. -/
theorem Stays.tell (m : NodeRef) {e : Event} (hconnected : ∀ c, e ≠ .connected c)
    (hshut : e ≠ .shutDown n) (t : Turn L S) : Stays n t.world (Turn.tell m e t).world := by
  refine .record (fun c h => ?_) ?_ _
  · cases e with
    | connected d => exact hconnected d rfl
    | disconnected d reason =>
      unfold Deed.moment? at h
      dsimp only at h
      split at h <;> cases h
    | _ => exact nomatch h
  · rw [show (Deed.told? (.shutDown n) (.nodeTold m _ e _) : Option (Telling L)) = none from
      if_neg hshut]
    rfl

/-- A node, this or another one, changes in something else than its table. -/
theorem Aside.setNode (m : NodeRef) {f : Node L → Node L}
    (htable : ∀ node, (f node).table = node.table) (w : World L S) : Aside n w (w.setNode m f) :=
  ⟨fun c hc => by rwa [node_setNode_congr (·.table) htable] at hc, fun _ => id, rfl⟩

theorem Stays.setNode (m : NodeRef) {f : Node L → Node L}
    (htable : ∀ node, (f node).table = node.table) (hphase : ∀ node, (f node).phase = node.phase)
    (w : World L S) : Stays n w (w.setNode m f) :=
  ⟨.setNode m htable w, node_setNode_congr (·.phase) hphase m n w⟩

theorem Stays.takeOut (m : NodeRef) (c : ConnectionRef) (reason : CloseReason) (w : World L S) :
    Stays n w (w.takeOut m c reason).2 where
  table d hd := by
    rw [contains_takeOut] at hd
    exact (Bool.and_eq_true_iff.mp hd).2
  began d hd := by
    rw [life_takeOut] at hd
    refine (List.mem_append.mp hd).resolve_right fun h => ?_
    split at h <;> simp at h
  parted := by
    have hrecord := parted_record n (.closed m c reason)
      (w.setConnection c fun conn => (conn.markClosed reason).2)
    exact hrecord.trans (List.append_nil _)
  phase := by
    rw [show (w.takeOut m c reason).2.node n = _ from node_setNode ..]
    split <;> rfl

/-- A new node is no further than one that is not there. -/
theorem Stays.addNode {newcomer : Node L} (hphase : newcomer.phase = ⟨.new, none, none⟩)
    (htable : newcomer.table = .empty) (w : World L S) : Stays n w (w.addNode newcomer).2 := by
  have hnode := node_addNode newcomer n w
  split at hnode
  · rename_i hn
    have hbefore : w.node n = default := node_of_length_le (Nat.le_of_eq hn.symm)
    refine ⟨⟨fun c hc => ?_, fun _ => id, rfl⟩, ?_⟩
    · rw [hnode, htable] at hc
      cases hc
    · rw [hnode, hphase, hbefore]
      rfl
  · exact ⟨⟨fun c hc => hnode ▸ hc, fun _ => id, rfl⟩, congrArg Node.phase hnode⟩

theorem Stays.createNode (r : RegistryRef) (id : String) (w : World L S) :
    Stays n w (w.createNode r id).2 := by
  let newcomer : Node L := { (Node.fresh id r (w.registry r).settings.node : Node L) with
    listeners := Listeners.add w.freshListener.1 .registry .empty }
  have hhandle : Stays n w w.freshListener.2 := .of_eq rfl rfl
  have hadded : Stays n w (w.freshListener.2.addNode newcomer).2 :=
    hhandle.trans (.addNode rfl rfl _)
  exact hadded.trans (.of_eq rfl rfl)

-- ---------------------------------------------------------------------------
-- What a step can do
-- ---------------------------------------------------------------------------

/-- The shutdown of a node begins. -/
structure Stops (n : NodeRef) (w w' : World L S) : Prop extends Aside n w w' where
  alive : ¬ (w.node n).IsOver
  phase : (w'.node n).phase = ⟨.stopping, (w.node n).address, none⟩

/-- A node ends, with nothing in its table, and those who listen to it are told. -/
structure Ends (n : NodeRef) (w w' : World L S) : Prop where
  stopping : (w.node n).state = .stopping
  empty : ∀ c, (w.node n).table.contains c = false
  phase : (w'.node n).phase = ⟨.terminated, (w.node n).address, (w.node n).server⟩
  table : (w'.node n).table = (w.node n).table
  began : ∀ c, .began n ∈ w'.life c → .began n ∈ w.life c
  parted : w'.parted n = w.parted n ++ (w.node n).listeners.snapshot

variable (env : Surroundings L S)

/-- The server of a node does not stop. -/
def Stuck (n : NodeRef) (w : World L S) : Prop :=
  ∃ a, (w.node n).server = some a ∧ (env.stopServer a w.outside).1 = false

/-- What can be done to a node at once, but for a shutdown that goes on. -/
inductive Goes (n : NodeRef) (w w' : World L S) : Prop where
  | stays (h : Stays n w w')
  /-- It takes up a connection. -/
  | connects (alive : (w.node n).state = .starting ∨ (w.node n).state = .running)
      (phase : (w'.node n).phase = (w.node n).phase) (parted : w'.parted n = w.parted n)
  /-- Its server is bound. -/
  | starts (early : (w.node n).state = .new ∨ (w.node n).state = .starting) (a : Address)
      (phase : (w'.node n).phase = ⟨.running, some a, some a⟩) (rest : Aside n w w')
  /-- Its server is not bound. -/
  | fails (early : (w.node n).state = .new ∨ (w.node n).state = .starting)
      (phase : (w'.node n).phase = ⟨.new, (w.node n).address, (w.node n).server⟩)
      (rest : Aside n w w')
  /-- Its server is to stop, and does not. -/
  | sticks (h : Stops n w w') (stuck : Stuck env n w)

/-- How the life of a node goes on in a step. -/
inductive Lives (n : NodeRef) (w w' : World L S) : Prop where
  | goes (h : Goes env n w w')
  | stops (h : Stops n w w')
  | ends (h : Ends n w w')

variable {env} {may : Act L → World L S → Prop}

theorem Stays.outside (w : World L S) (s : S) : Stays n w { w with outside := s } :=
  .of_eq rfl rfl

/-- A change of a node does nothing to others. -/
theorem Stays.setNode_of_ne {m : NodeRef} {w : World L S}
    (h : ¬ (n = m ∧ m.number < w.nodes.length)) {f : Node L → Node L} :
    Stays n w (w.setNode m f) := by
  have hnode : (w.setNode m f).node n = w.node n := (node_setNode m n f w).trans (if_neg h)
  exact ⟨⟨fun c hc => hnode ▸ hc, fun _ => id, rfl⟩, congrArg Node.phase hnode⟩

theorem Goes.start (m : NodeRef) (port : UInt16) (w : World L S) :
    Goes env n w (startNode env m port w).2 := by
  have hend := startNode_end env m port w
  generalize startNode env m port w = result at hend
  by_cases hn : n = m ∧ m.number < w.nodes.length
  · obtain ⟨rfl, hlt⟩ := hn
    -- the node itself
    have hself (s : S) (f : Node L → Node L) :
        (World.setNode n f { w with outside := s }).node n = f (w.node n) :=
      (node_setNode n n f _).trans (if_pos ⟨rfl, hlt⟩)
    cases hend with
    | running hstate => exact .stays (.refl w)
    | refused hstate e => exact .stays (.refl w)
    | bound hstate a s =>
      refine .starts hstate a (congrArg Node.phase (hself s _))
        ((Stays.outside w s).toAside.trans (.setNode n ?_ _))
      exact fun _ => rfl
    | failed hstate e s =>
      refine .fails hstate (congrArg Node.phase (hself s _))
        ((Stays.outside w s).toAside.trans (.setNode n ?_ _))
      exact fun _ => rfl
  · have hother (s : S) :
        ¬ (n = m ∧ m.number < ({ w with outside := s } : World L S).nodes.length) := hn
    cases hend with
    | running hstate => exact .stays (.refl w)
    | refused hstate e => exact .stays (.refl w)
    | bound hstate a s => exact .stays ((Stays.outside w s).trans (.setNode_of_ne (hother s)))
    | failed hstate e s => exact .stays ((Stays.outside w s).trans (.setNode_of_ne (hother s)))

theorem Aside.stop (m : NodeRef) (w : World L S) :
    Aside n w (stopServer env m (w.setState m .stopping)).2 := by
  obtain ⟨s, hs⟩ := stop_eq env m w
  rw [hs]
  refine (Aside.setNode m ?_ w).trans (Stays.outside _ s).toAside
  exact fun _ => rfl

/-- A shutdown begins. -/
theorem Stops.stop {w : World L S} (hn : n.number < w.nodes.length) (hstate : ¬ (w.node n).IsOver) :
    Stops n w (stopServer env n (w.setState n .stopping)).2 := by
  have hnode := (node_stop env n n w).trans (if_pos ⟨rfl, hn⟩)
  exact ⟨.stop n w, hstate, congrArg Node.phase hnode⟩

/-- This does nothing to other nodes. -/
theorem Stays.stop_of_ne {m : NodeRef} {w : World L S}
    (h : ¬ (n = m ∧ m.number < w.nodes.length)) :
    Stays n w (stopServer env m (w.setState m .stopping)).2 := by
  have hnode := (node_stop env m n w).trans (if_neg h)
  exact ⟨.stop m w, congrArg Node.phase hnode⟩

theorem stopServer_eq_false_iff {w : World L S} :
    (stopServer env n (w.setState n .stopping)).1 = false ↔ Stuck env n w := by
  have hserver : ((w.setState n .stopping).node n).server = (w.node n).server := by
    refine node_setNode_congr (·.server) ?_ n n w
    exact fun _ => rfl
  unfold stopServer Stuck
  rw [hserver]
  cases (w.node n).server with
  | none => exact ⟨fun h => (nomatch h), fun ⟨_, h, _⟩ => (nomatch h)⟩
  | some a => exact ⟨fun h => ⟨a, rfl, h⟩, fun ⟨_, h, hstuck⟩ => Option.some.inj h ▸ hstuck⟩

/-- What nobody is told of. -/
theorem Change.goes {w w' : World L S} (h : Change env may w w') (n : NodeRef) :
    Goes env n w w' := by
  have aside {w : World L S} (m : NodeRef) {f : Node L → Node L}
      (htable : ∀ node, (f node).table = node.table)
      (hphase : ∀ node, (f node).phase = node.phase) : Goes env n w (w.setNode m f) :=
    .stays (.setNode m htable hphase w)
  cases h with
  | dials m f => exact aside m (fun _ => rfl) fun _ => rfl
  | start m port => exact .start m port w
  | @stuck m hstate hstop =>
    -- to other nodes this does nothing
    by_cases hn : n = m ∧ m.number < w.nodes.length
    · obtain ⟨rfl, hlt⟩ := hn
      exact .sticks (.stop hlt hstate) (stopServer_eq_false_iff.mp hstop)
    · exact .stays (.stop_of_ne hn)
  | close reason howns hthere => exact .stays (.takeOut _ _ reason w)
  | listen m l =>
    have hhandle : Stays n w w.freshListener.2 := .of_eq rfl rfl
    refine .stays (hhandle.trans (.setNode m ?_ ?_ _))
    all_goals exact fun _ => rfl
  | unlisten h => exact aside _ (fun _ => rfl) fun _ => rfl
  | _ => exact .stays (.of_eq rfl rfl)

/-- A node takes up a connection. -/
theorem Goes.connect {m : NodeRef} {w : World L S} (hm : m.number < w.nodes.length)
    (hstate : (w.node m).state = .starting ∨ (w.node m).state = .running) (conn : Connection)
    (n : NodeRef) :
    Goes env n w (Turn.tell m (.connected (w.addConnection conn).1)
      ⟨[], (w.addConnection conn).2.takeIn m (w.addConnection conn).1⟩).world := by
  let taken := (w.addConnection conn).2.takeIn m (w.addConnection conn).1
  let w' := (Turn.tell m (.connected (w.addConnection conn).1) ⟨[], taken⟩).world
  have hparted : w'.parted n = w.parted n := (parted_record ..).trans (List.append_nil _)
  have hphase : (w'.node n).phase = (w.node n).phase := by
    rw [show w'.node n = _ from node_setNode ..]
    split <;> rfl
  by_cases hn : n = m
  · exact .connects (hn ▸ hstate) hphase hparted
  · refine .stays ⟨⟨fun c hc => ?_, fun c hc => ?_, hparted⟩, hphase⟩
    · rw [show (w'.node n).table.contains c = _ from contains_takeIn n c hm] at hc
      have hold : ((w.addConnection conn).2.node n).table.contains c = true := by
        simpa [hn] using hc
      exact hold
    · rw [show w'.life c = _ from life_record ..] at hc
      refine (List.mem_append.mp hc).resolve_right fun h => ?_
      have hmoment := Option.mem_toList.mp h
      unfold Deed.moment? at hmoment
      dsimp only at hmoment
      split at hmoment
      · cases hmoment
        exact hn rfl
      · cases hmoment

/-- Nobody hears of the end of a node that is not there. -/
theorem Stays.nobody (m n : NodeRef) (r : RegistryRef) (w : World L S) :
    Stays n w (w.record (.nodeTold m r (.shutDown m) [])) := by
  refine .record (fun c h => by cases h) ?_ w
  unfold Deed.told?
  dsimp only
  split <;> rfl

theorem node_terminate {w : World L S} (hn : n.number < w.nodes.length) :
    (w.terminate n).node n = { w.node n with dials := [], state := .terminated } :=
  (node_setNode ..).trans (if_pos ⟨rfl, hn⟩)

/-- Those who listen to a node when it terminates are told of its end. -/
theorem parted_terminate {w : World L S} (hn : n.number < w.nodes.length) :
    (Turn.tell n (.shutDown n) ⟨[], w.terminate n⟩).world.parted n =
      w.parted n ++ (w.node n).listeners.snapshot := by
  have hlisteners : ((w.terminate n).node n).listeners = (w.node n).listeners := by
    rw [node_terminate hn]
  have htold : (Deed.told? (.shutDown n) (.nodeTold n ((w.terminate n).node n).registry
      (.shutDown n) ((w.terminate n).node n).listeners.snapshot)).toList.flatMap (·.listeners) =
        (w.node n).listeners.snapshot := by
    simp [Deed.told?, hlisteners]
  have hparted := parted_record n (.nodeTold n ((w.terminate n).node n).registry (.shutDown n)
    ((w.terminate n).node n).listeners.snapshot) (w.terminate n)
  rw [htold] at hparted
  exact hparted

/-- A node that is stopping ends when it has nothing in its table any more. -/
theorem Ends.terminate {w : World L S} (hn : n.number < w.nodes.length)
    (hstopping : (w.node n).state = .stopping)
    (hempty : ∀ c, (w.node n).table.contains c = false) :
    Ends n w (Turn.tell n (.shutDown n) ⟨[], w.terminate n⟩).world where
  stopping := hstopping
  empty := hempty
  phase := congrArg Node.phase (node_terminate hn)
  table := congrArg (·.table) (node_terminate hn)
  began c hc := by
    rw [Turn.tell, life_record] at hc
    refine (List.mem_append.mp hc).resolve_right fun h => ?_
    cases Option.mem_toList.mp h
  parted := parted_terminate hn

/-- The end of a node does nothing to others. -/
theorem Stays.terminate_of_ne {m : NodeRef} (h : n ≠ m) (w : World L S) :
    Stays n w (Turn.tell m (.shutDown m) ⟨[], w.terminate m⟩).world := by
  have hother : Stays n w (w.terminate m) := .setNode_of_ne fun heq => h heq.1
  refine hother.trans (.tell m (fun _ h => by cases h) (fun heq => ?_) ⟨[], w.terminate m⟩)
  exact h (Event.shutDown.inj heq).symm

/-- A node that is over does not come any further, unless it ends. -/
theorem Goes.stays_of_isOver {w w' : World L S} (h : Goes env n w w') (hover : (w.node n).IsOver) :
    Stays n w w' := by
  cases h with
  | stays h => exact h
  | connects alive _ _ => rcases alive with h | h <;> simp [Node.IsOver, h] at hover
  | starts early _ _ _ => rcases early with h | h <;> simp [Node.IsOver, h] at hover
  | fails early _ _ => rcases early with h | h <;> simp [Node.IsOver, h] at hover
  | sticks h stuck => exact absurd hover h.alive

theorem Goes.stopping {w w' : World L S} (h : Goes env n w w')
    (hstopping : (w.node n).state = .stopping) : (w'.node n).state = .stopping :=
  (h.stays_of_isOver (.inl hstopping)).state.trans hstopping

/-- Nothing but a server that does not stop leaves a node stopping. -/
theorem Goes.stuck {w w' : World L S} (h : Goes env n w w')
    (hstopping : (w'.node n).state = .stopping) :
    (w.node n).state = .stopping ∨ Stuck env n w := by
  cases h with
  | stays h => exact .inl (h.state.symm.trans hstopping)
  | connects _ phase _ => exact .inl ((congrArg Phase.state phase).symm.trans hstopping)
  | starts _ _ phase _ => exact nomatch (congrArg Phase.state phase).symm.trans hstopping
  | fails _ phase _ => exact nomatch (congrArg Phase.state phase).symm.trans hstopping
  | sticks _ stuck => exact .inr stuck

-- ---------------------------------------------------------------------------
-- Walks
-- ---------------------------------------------------------------------------

/-- Step by step from one world to another, each node living on. -/
def Walk (env : Surroundings L S) (may : Act L → World L S → Prop) : World L S → World L S → Prop :=
  Relation.ReflTransGen fun w w' => Step env may w w' ∧ ∀ n, Lives env n w w'

theorem Step.sound {w w' : World L S} (h : Step env may w w') (hs : w.Sound) : w'.Sound := by
  obtain ⟨due, due', hmoves⟩ := h.moves
  exact hmoves.sound hs

theorem Walk.sound {w w' : World L S} (h : Walk env may w w') (hs : w.Sound) : w'.Sound := by
  induction h with
  | refl => exact hs
  | tail _ hlast ih => exact hlast.1.sound ih

/-- A node that is over stays so, and takes up no connection any more. -/
theorem Walk.isOver {w w' : World L S} (h : Walk env may w w') (hover : (w.node n).IsOver) :
    (w'.node n).IsOver ∧ ∀ c, .began n ∈ w'.life c → .began n ∈ w.life c := by
  -- by the last step: only what ends a shutdown brings the node any further
  induction h with
  | refl => exact ⟨hover, fun _ => id⟩
  | tail _ hlast ih =>
    obtain ⟨hover', hbegan⟩ := ih
    cases hlast.2 n with
    | goes h =>
      have hstays := h.stays_of_isOver hover'
      exact ⟨Node.isOver_of_phase hstays.phase hover', fun c hc => hbegan c (hstays.began c hc)⟩
    | stops h => exact absurd hover' h.alive
    | ends h => exact ⟨.inr (congrArg Phase.state h.phase), fun c hc => hbegan c (h.began c hc)⟩

/-- Nothing happens to a node any more that has terminated. -/
theorem Walk.stays {w w' : World L S} (h : Walk env may w w')
    (hover : (w.node n).state = .terminated) : Stays n w w' := by
  induction h with
  | refl => exact .refl w
  | tail _ hlast ih =>
    have hstate := ih.state.trans hover
    cases hlast.2 n with
    | goes h => exact ih.trans (h.stays_of_isOver (.inr hstate))
    | stops h => exact absurd (.inr hstate) h.alive
    | ends h => exact nomatch hstate.symm.trans h.stopping

/-- A node that has closed all that it had in its table, and has taken up nothing since, has nothing
in its table. -/
theorem Sound.not_contains_of_closed {w w' : World L S} (hs : w.Sound) (hs' : w'.Sound)
    (hlater : Later w w') (hbegan : ∀ c, .began n ∈ w'.life c → .began n ∈ w.life c)
    (hclosed : ∀ c, (w.node n).table.contains c = true → w.owns n c = true →
      ∃ reason, .closed n c reason ∈ w'.history) (c : ConnectionRef) :
    (w'.node n).table.contains c = false := by
  cases hs'.standing c with
  | unknown _ _ table _ => exact table n
  | ended _ _ _ _ _ _ _ _ _ table _ _ => exact table n
  | listed m closes life others _ _ table _ =>
    rw [table n, decide_eq_false_iff_not]
    rintro rfl
    -- a connection in the table now was in it then, and has been closed since
    have hbefore : .began n ∈ w.life c := hbegan c (by simp [life])
    cases hs.standing c with
    | unknown closes' life' _ _ => exact not_mem_closings_of_began (life' ▸ hbefore)
    | ended m _ reason first _ life' _ _ _ _ _ _ =>
      -- what has ended would be on record
      have hended : .ended m first ∈ w'.life c := (hlater.life c).subset (by simp [life'])
      rw [life] at hended
      simp [not_mem_closings_of_ended] at hended
    | listed m _ life' _ _ owns' table' _ =>
      obtain rfl : n = m := hs.began_unique hbefore (by simp [life'])
      obtain ⟨reason, hmem⟩ := hclosed c (by rw [table', decide_eq_true rfl]) owns'
      have hmoment : .closed n reason ∈ w'.life c :=
        List.mem_filterMap.mpr ⟨_, hmem, if_pos rfl⟩
      rw [life] at hmoment
      have hclosing := (List.mem_cons.mp hmoment).resolve_left fun h => nomatch h
      obtain ⟨x, hx, heq⟩ := List.mem_map.mp hclosing
      exact others x hx (Moment.closed.inj heq).1

/-- On the way from one world to another, the server of a node was to stop and did not. -/
def StuckBetween (env : Surroundings L S) (may : Act L → World L S → Prop) (n : NodeRef)
    (w w' : World L S) : Prop :=
  ∃ u, Walk env may w u ∧ Walk env may u w' ∧ Stuck env n u

theorem StuckBetween.mono {u v w w' : World L S} (h : StuckBetween env may n v w)
    (hbefore : Walk env may u v) (hafter : Walk env may w w') : StuckBetween env may n u w' := by
  obtain ⟨x, hx, hx', hstuck⟩ := h
  exact ⟨x, hbefore.trans hx, hx'.trans hafter, hstuck⟩

/-- A walk in which no shutdown comes to its end that was going on before, and no other one is left
going on, unless a server does not stop. -/
structure Passage (env : Surroundings L S) (may : Act L → World L S → Prop) (w w' : World L S) :
    Prop where
  walk : Walk env may w w'
  stopping : ∀ n, (w.node n).state = .stopping → (w'.node n).state = .stopping
  stuck : ∀ n, (w'.node n).state = .stopping →
    (w.node n).state = .stopping ∨ StuckBetween env may n w w'

theorem Passage.refl (w : World L S) : Passage env may w w := ⟨.refl, fun _ => id, fun _ => .inl⟩

theorem Passage.trans {w w' w'' : World L S} (h : Passage env may w w')
    (h' : Passage env may w' w'') : Passage env may w w'' := by
  refine ⟨h.walk.trans h'.walk, fun n hn => h'.stopping n (h.stopping n hn), fun n hn => ?_⟩
  rcases h'.stuck n hn with hbefore | hstuck
  · exact (h.stuck n hbefore).imp_right (·.mono .refl h'.walk)
  · exact .inr (hstuck.mono h.walk .refl)

theorem Step.passage {w w' : World L S} (h : Step env may w w') (hgoes : ∀ n, Goes env n w w') :
    Passage env may w w' := by
  have hwalk : Walk env may w w' := .single ⟨h, fun n => .goes (hgoes n)⟩
  exact ⟨hwalk, fun n => (hgoes n).stopping,
    fun n hn => ((hgoes n).stuck hn).imp_right fun hstuck => ⟨w, .refl, hwalk, hstuck⟩⟩

theorem Change.passage {w w' : World L S} (h : Change env may w w') : Passage env may w w' :=
  (Step.change h).passage h.goes

/-- A listener is called. -/
theorem Passage.call (w : World L S) (l : L) (e : Event) : Passage env may w (w.log l e) :=
  (Step.call w l e).passage fun _ => .stays (.of_eq rfl rfl)

/-- A registry sets about passing something on. -/
theorem Passage.relay (w : World L S) (r : RegistryRef) (e : Event) :
    Passage env may w (Turn.relay r e ⟨[], w⟩).world :=
  (Step.relay w r e).passage fun _ => .stays (.registryTold ..)

/-- A registry gives up a node, and sets about telling of it. -/
theorem Passage.leave {w : World L S} {r : RegistryRef}
    (hthere : (w.registry r).find (w.node n).id = some n) :
    Passage env may w (Turn.announce r (.nodeRemoved n) ⟨[], w.dropNode r (w.node n).id⟩).world := by
  have hdropped (m : NodeRef) : Stays m w (w.dropNode r (w.node n).id) := .of_eq rfl rfl
  exact (Step.leave w hthere).passage fun m => .stays ((hdropped m).trans (.registryTold ..))

/-- A registry gets a node, and sets about telling of it. -/
theorem Passage.join {w : World L S} {r : RegistryRef} {id : String}
    (hopen : (w.registry r).isShutDown = false) (hnew : (w.registry r).find id = none) :
    Passage env may w
      (Turn.announce r (.nodeAdded (w.createNode r id).1) ⟨[], (w.createNode r id).2⟩).world :=
  (Step.join w hopen hnew).passage fun _ =>
    .stays ((Stays.createNode r id w).trans (.registryTold ..))

/-- A node sets about telling of a payload that it has read. -/
theorem Passage.tell {w : World L S} {c : ConnectionRef} (h : HasRead env may n c w)
    (payload : Payload) :
    Passage env may w (Turn.tell n (.message payload c (w.node n).id) ⟨[], w⟩).world := by
  refine (Step.tell w h payload).passage fun m => .stays (.tell n ?_ ?_ ⟨[], w⟩)
  · exact fun _ h => by cases h
  · exact fun h => by cases h

/-- A node takes up a connection, and sets about telling of it. -/
theorem Passage.connect {w : World L S} {conn : Connection} (hn : n.number < w.nodes.length)
    (hstate : (w.node n).state = .starting ∨ (w.node n).state = .running)
    (hadmitted : Admitted env may w n conn) :
    Passage env may w (Turn.tell n (.connected (w.addConnection conn).1)
      ⟨[], (w.addConnection conn).2.takeIn n (w.addConnection conn).1⟩).world :=
  (Step.connect w hn hstate hadmitted).passage (Goes.connect hn hstate conn)

/-- A node closes a connection, and sets about telling of its end. -/
theorem Passage.disconnect {w : World L S} {c : ConnectionRef} {reason : CloseReason}
    (howns : w.owns n c = true) (hthere : (w.takeOut n c reason).1 = true) :
    Passage env may w (Turn.tell n
      (.disconnected c (((w.takeOut n c reason).2.connection c).closeReason.getD reason))
      ⟨[], (w.takeOut n c reason).2⟩).world := by
  refine (Step.disconnect w howns hthere).passage fun m =>
    .stays ((Stays.takeOut n c reason w).trans (.tell n ?_ ?_ ⟨[], _⟩))
  · exact fun _ h => by cases h
  · exact fun h => by cases h

/-- One passage comes before another. -/
theorem Passage.before {w w' w'' : World L S} (h : Passage env may w w') (hs : w.Sound)
    (next : w'.Sound → Passage env may w' w'') : Passage env may w w'' :=
  h.trans (next (h.walk.sound hs))

/-- The first step of a shutdown. -/
theorem Walk.stop {w : World L S} (hn : n.number < w.nodes.length) (hstate : ¬ (w.node n).IsOver)
    (hstop : (stopServer env n (w.setState n .stopping)).1 = true) :
    Walk env may w (stopServer env n (w.setState n .stopping)).2 := by
  refine .single ⟨.stop w hn hstate hstop, fun m => ?_⟩
  by_cases hm : m = n
  · subst hm
    exact .stops (.stop hn hstate)
  · exact .goes (.stays (.stop_of_ne fun h => hm h.1))

/-- A node terminates, and sets about telling its listeners. -/
theorem Walk.terminate {w : World L S}
    (hend : Ends n w (Turn.tell n (.shutDown n) ⟨[], w.terminate n⟩).world) :
    Walk env may w (Turn.tell n (.shutDown n) ⟨[], w.terminate n⟩).world := by
  refine .single ⟨.terminate w n, fun m => ?_⟩
  by_cases hm : m = n
  · subst hm
    exact .ends hend
  · exact .goes (.stays (.terminate_of_ne hm w))

/-- A node that has closed its connections ends: what was in the table was closed, and a node that is
stopping takes up nothing. -/
theorem Ends.shut {w w₁ : World L S} (hs : w.Sound) (hn : n.number < w.nodes.length)
    (hstate : ¬ (w.node n).IsOver)
    (hstop : (stopServer env n (w.setState n .stopping)).1 = true)
    (hclosing : Passage env may (stopServer env n (w.setState n .stopping)).2 w₁)
    (hlater : Later w w₁) (hlasting : Lasting w w₁)
    (hclosed : ∀ c, (w.node n).table.contains c = true → w.owns n c = true →
      ∃ reason, .closed n c reason ∈ w₁.history) :
    Ends n w₁ (Turn.tell n (.shutDown n) ⟨[], w₁.terminate n⟩).world := by
  let w₀ := (stopServer env n (w.setState n .stopping)).2
  have hstopping : (w₀.node n).state = .stopping := by
    rw [node_stop, if_pos ⟨rfl, hn⟩]
  have hempty (c : ConnectionRef) : (w₁.node n).table.contains c = false := by
    have hbegins : Walk env may w w₀ := .stop hn hstate hstop
    have hs₀ : w₀.Sound := hbegins.sound hs
    refine hs.not_contains_of_closed (hclosing.walk.sound hs₀) hlater (fun c hc => ?_) hclosed c
    have hbefore := (hclosing.walk.isOver (.inl hstopping)).2 c hc
    obtain ⟨s, hw₀⟩ := stop_eq env n w
    rwa [hw₀] at hbefore
  exact .terminate (Nat.lt_of_lt_of_le hn hlasting.nodes) (hclosing.stopping n hstopping) hempty

/-- A shutdown from the first step to the last. -/
theorem Passage.shut {w w₁ w₂ : World L S} (hs : w.Sound) (hn : n.number < w.nodes.length)
    (hstate : ¬ (w.node n).IsOver)
    (hstop : (stopServer env n (w.setState n .stopping)).1 = true)
    (hclosing : Passage env may (stopServer env n (w.setState n .stopping)).2 w₁)
    (hlater : Later w w₁) (hlasting : Lasting w w₁)
    (hclosed : ∀ c, (w.node n).table.contains c = true → w.owns n c = true →
      ∃ reason, .closed n c reason ∈ w₁.history)
    (htelling : Passage env may (Turn.tell n (.shutDown n) ⟨[], w₁.terminate n⟩).world w₂) :
    Passage env may w (w₂.dropListeners n) := by
  let told := (Turn.tell n (.shutDown n) ⟨[], w₁.terminate n⟩).world
  have hend : Ends n w₁ told := .shut hs hn hstate hstop hclosing hlater hlasting hclosed
  have hterminated : (told.node n).state = .terminated := congrArg Phase.state hend.phase
  have hdropped : Passage env may w₂ (w₂.dropListeners n) :=
    (Step.dropListeners w₂ n).passage fun m =>
      .stays (.setNode n (fun _ => by rfl) (fun _ => by rfl) w₂)
  have hafter := htelling.trans hdropped
  -- nothing comes of all this for another node
  have hfirst {m : NodeRef} (hm : m ≠ n) :
      Stays m w (stopServer env n (w.setState n .stopping)).2 := .stop_of_ne fun h => hm h.1
  have hother {m : NodeRef} (hm : m ≠ n) : Stays m w₁ told := .terminate_of_ne hm w₁
  have hbegins : Walk env may w (stopServer env n (w.setState n .stopping)).2 :=
    .stop hn hstate hstop
  have hends : Walk env may w₁ told := .terminate hend
  refine ⟨(hbegins.trans hclosing.walk).trans (hends.trans hafter.walk), fun m hm => ?_,
    fun m hm => ?_⟩
  · have hne : m ≠ n := by
      rintro rfl
      exact hstate (.inl hm)
    have hclosed := hclosing.stopping m ((hfirst hne).state.trans hm)
    exact hafter.stopping m ((hother hne).state.trans hclosed)
  · by_cases hne : m = n
    · subst hne
      have hlast := (hafter.walk.stays hterminated).state.trans hterminated
      exact nomatch hlast.symm.trans hm
    · rcases hafter.stuck m hm with htold | hstuck
      · rcases hclosing.stuck m ((hother hne).state.symm.trans htold) with hclosed | hstuck
        · exact .inl ((hfirst hne).state.symm.trans hclosed)
        · exact .inr (hstuck.mono hbegins (hends.trans hafter.walk))
      · exact .inr (hstuck.mono ((hbegins.trans hclosing.walk).trans hends) .refl)

/-- **A story that begins in a sound world is a walk**, in which no shutdown comes to its end that
was going on before. -/
theorem Story.passage {t : Turn L S} {w' : World L S} (h : Story env may t w')
    (hs : t.world.Sound) : Passage env may t.world w' := by
  induction h with
  | done w => exact .refl w
  | change h next ih => exact h.passage.before hs ih
  | first h next ihFirst ih => exact (ihFirst hs).before hs ih
  | @call due l e w w' w'' during next ihDuring ih =>
    exact ((Passage.call w l e).before hs ihDuring).before hs ih
  | @relay due r e w w' w'' pass hstay next ihPass ih =>
    exact ((Passage.relay w r e).before hs ihPass).before hs ih
  | @leave due r n w w₁ w₂ w₃ pass hthere gone next ihPass ihGone ih =>
    have hpass := (Passage.relay w r (.shutDown n)).before hs ihPass
    exact ((hpass.trans (.leave hthere)).before hs ihGone).before hs ih
  | @tell n c payload w w' h next ih => exact (Passage.tell h payload).before hs ih
  | @connect n conn w w' hn hstate hadmitted next ih =>
    exact (Passage.connect hn hstate hadmitted).before hs ih
  | @disconnect n c reason w w' howns hthere next ih =>
    exact (Passage.disconnect howns hthere).before hs ih
  | @join r id w w' hopen hnew next ih => exact (Passage.join hopen hnew).before hs ih
  | @nobody n w hn =>
    exact (Step.nobody w hn).passage fun m => .stays (.nobody n m _ w)
  | @shut n w w₁ w₂ hn hstate hstop closing hclosed telling ihClosing ihTelling =>
    have hstopped : Step env may w (stopServer env n (w.setState n .stopping)).2 :=
      .stop w hn hstate hstop
    have hclosing := ihClosing (hstopped.sound hs)
    have hterminated : Step env may w₁ _ := .terminate w₁ n
    have htelling := ihTelling (hterminated.sound (hclosing.walk.sound (hstopped.sound hs)))
    exact .shut hs hn hstate hstop hclosing (hstopped.later.trans closing.later)
      (hstopped.lasting.trans closing.lasting) hclosed htelling

end World
end Courier
