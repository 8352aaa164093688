import Courier.Proofs.Worlds.Dials

/-!
# Courier — what dials leave behind

While a node opens a connection, it keeps a note of the address, and when the dial is over the note is
gone, whatever came of it: the listeners who hear of the new connection may dial in turn, but they
find the note and leave it; and where they shut the node down, all its notes go.

* `Keeps` — what any act keeps of the notes, and a mild one of connections and nodes as well;
* `performWith_keeps` — an act, function by function;
* `run_leaves_no_dials` — no run leaves a note behind.
-/

namespace Courier

variable {L S : Type}

/-- No node is shut down by the act, and no connection closed that was there before, whatever comes
of it. A payload that cannot be written costs the connection, and so sending is not among these
acts. -/
def Act.isMild : Act L → Bool
  | .send .. | .sendFrom .. | .close .. | .read .. | .shutDownNode .. | .shutDown .. => false
  | _ => true

namespace World

variable {env : Surroundings L S} {call : L → Event → World L S → World L S} {n : NodeRef}
  {a : Address} {w : World L S}

-- ---------------------------------------------------------------------------
-- What is kept
-- ---------------------------------------------------------------------------

/-- What is kept from one world to another: the notes of all nodes, except for those who have been
shut down and have none; and, where all is mild, what is open and who is alive. A mild act may close
a connection that it has opened itself, and that nobody can read from. -/
structure Keeps (mild : Prop) (w w' : World L S) : Prop where
  terminated : ∀ m, (w.node m).state = .terminated → (w'.node m).state = .terminated
  dials : ∀ m, (w'.node m).dials = (w.node m).dials ∨
    (w'.node m).state = .terminated ∧ (w'.node m).dials = []
  alive : mild → ∀ m, (w'.node m).state = .terminated → (w.node m).state = .terminated
  connections : w.connections.length ≤ w'.connections.length
  closings : mild → ∀ m c reason, c.number < w.connections.length →
    .closed m c reason ∈ w'.history → .closed m c reason ∈ w.history

variable {mild : Prop} {w' w'' : World L S}

theorem Keeps.refl (w : World L S) : Keeps mild w w :=
  ⟨fun _ h => h, fun _ => .inl rfl, fun _ _ h => h, Nat.le_refl _, fun _ _ _ _ _ h => h⟩

theorem Keeps.trans (h : Keeps mild w w') (h' : Keeps mild w' w'') : Keeps mild w w'' where
  terminated m hm := h'.terminated m (h.terminated m hm)
  dials m := by
    rcases h'.dials m with heq' | hover'
    · rcases h.dials m with heq | ⟨hover, hnone⟩
      · exact .inl (heq'.trans heq)
      · exact .inr ⟨h'.terminated m hover, heq'.trans hnone⟩
    · exact .inr hover'
  alive hmild m hm := h.alive hmild m (h'.alive hmild m hm)
  connections := Nat.le_trans h.connections h'.connections
  closings hmild m c reason hc hmem := h.closings hmild m c reason hc
    (h'.closings hmild m c reason (Nat.lt_of_lt_of_le hc h.connections) hmem)

/-- Nobody's notes or life have changed, and nothing is on record that was not before. -/
theorem Keeps.of_nodes (hstate : ∀ m, (w'.node m).state = (w.node m).state)
    (hdials : ∀ m, (w'.node m).dials = (w.node m).dials)
    (hconnections : w.connections.length ≤ w'.connections.length)
    (hhistory : w'.history = w.history) : Keeps mild w w' where
  terminated m hm := (hstate m).trans hm
  dials m := .inl (hdials m)
  alive _ m hm := (hstate m).symm.trans hm
  connections := hconnections
  closings _ _ _ _ _ hmem := hhistory ▸ hmem

/-- Calls, registries and the surroundings do not matter, nor what becomes of connections that were
not closed. -/
theorem Keeps.of_eq (hnodes : w'.nodes = w.nodes)
    (hconnections : w.connections.length ≤ w'.connections.length)
    (hhistory : w'.history = w.history) : Keeps mild w w' := by
  have hnode (m : NodeRef) : w'.node m = w.node m := by rw [World.node, World.node, hnodes]
  exact .of_nodes (fun m => by rw [hnode]) (fun m => by rw [hnode]) hconnections hhistory

/-- A connection may change. -/
theorem Keeps.setConnection (c : ConnectionRef) (f : Connection → Connection) (w : World L S) :
    Keeps mild w (w.setConnection c f) :=
  .of_eq rfl (Nat.le_of_eq (List.length_modify ..).symm) rfl

theorem Keeps.addConnection (conn : Connection) (w : World L S) :
    Keeps mild w (w.addConnection conn).2 := by
  refine .of_eq rfl ?_ rfl
  rw [World.addConnection, List.length_append]
  exact Nat.le_add_right ..

/-- A deed that closes no connection. -/
theorem Keeps.record {d : Deed L} (h : ∀ m c reason, d ≠ .closed m c reason) (w : World L S) :
    Keeps mild w (w.record d) where
  terminated _ hm := hm
  dials _ := .inl rfl
  alive _ _ hm := hm
  connections := Nat.le_refl _
  closings _ m c reason _ hmem := (List.mem_append.mp hmem).resolve_right fun hd =>
    h m c reason (List.mem_singleton.mp hd).symm

/-- A node may have something to tell. -/
theorem Keeps.nodeTold (n : NodeRef) (r : RegistryRef) (e : Event)
    (listeners : List (NodeListener L)) (w : World L S) :
    Keeps mild w (w.record (.nodeTold n r e listeners)) := by
  refine .record (fun m c reason h => ?_) w
  cases h

theorem Keeps.registryTold (r : RegistryRef) (e : Event) (listeners : List L) (w : World L S) :
    Keeps mild w (w.record (.registryTold r e listeners)) := by
  refine .record (fun m c reason h => ?_) w
  cases h

/-- A change of a node in something else than its notes and its life. -/
theorem Keeps.setNode (n : NodeRef) {f : Node L → Node L}
    (h : ∀ node, (f node).state = node.state ∧ (f node).dials = node.dials) (w : World L S) :
    Keeps mild w (w.setNode n f) :=
  .of_nodes (fun m => node_setNode_congr (·.state) (fun node => (h node).1) n m w)
    (fun m => node_setNode_congr (·.dials) (fun node => (h node).2) n m w) (Nat.le_refl _) rfl

/-- A change of a node that has not been shut down, and is not shut down by it. -/
theorem Keeps.setNode_of_alive {f : Node L → Node L} (hstate : (w.node n).state ≠ .terminated)
    (h : ∀ node, (f node).state ≠ .terminated ∧ (f node).dials = node.dials) :
    Keeps mild w (w.setNode n f) where
  terminated m hm := by
    rw [node_setNode]
    split
    · rename_i hmn
      exact absurd (hmn.1 ▸ hm) hstate
    · exact hm
  dials m := .inl (node_setNode_congr (·.dials) (fun node => (h node).2) n m w)
  alive _ m hm := by
    rw [node_setNode] at hm
    split at hm
    · exact absurd hm (h _).1
    · exact hm
  connections := Nat.le_refl _
  closings _ _ _ _ _ hmem := hmem

/-- A node may take a connection into its table. -/
theorem Keeps.takeIn (n : NodeRef) (c : ConnectionRef) (w : World L S) :
    Keeps mild w (w.takeIn n c) := by
  apply Keeps.setNode
  exact fun _ => ⟨rfl, rfl⟩

/-- A new node has no notes and has not been started. -/
theorem Keeps.addNode {node : Node L} (hstate : node.state = .new) (hdials : node.dials = [])
    (w : World L S) : Keeps mild w (w.addNode node).2 := by
  have hnew (m : NodeRef) : ((w.addNode node).2.node m).state = (w.node m).state ∧
      ((w.addNode node).2.node m).dials = (w.node m).dials := by
    rw [node_addNode]
    split
    · rename_i hm
      rw [node_of_length_le (Nat.le_of_eq hm.symm), hstate, hdials]
      exact ⟨rfl, rfl⟩
    · exact ⟨rfl, rfl⟩
  exact .of_nodes (fun m => (hnew m).1) (fun m => (hnew m).2) (Nat.le_refl _) rfl

/-- Where not all is mild, only notes are kept. -/
theorem Keeps.of_not_mild (h : ¬ mild)
    (hover : ∀ m, (w.node m).state = .terminated → (w'.node m).state = .terminated)
    (hdials : ∀ m, (w'.node m).dials = (w.node m).dials ∨
      (w'.node m).state = .terminated ∧ (w'.node m).dials = [])
    (hconnections : w.connections.length ≤ w'.connections.length) : Keeps mild w w' :=
  ⟨hover, hdials, fun hmild => absurd hmild h, hconnections, fun hmild => absurd hmild h⟩

/-- What is kept by each of many steps is kept by all. -/
theorem Keeps.foldl {α : Type} {f : World L S → α → World L S} {xs : List α}
    (h : ∀ w, ∀ x ∈ xs, Keeps mild w (f w x)) (w : World L S) : Keeps mild w (xs.foldl f w) := by
  induction xs generalizing w with
  | nil => exact .refl w
  | cons x xs ih =>
    exact (h w x (List.mem_cons_self ..)).trans
      (ih (fun w y hy => h w y (List.mem_cons_of_mem x hy)) (f w x))

/-- The end of a dial takes back its note, and no other. -/
theorem dials_endDial (n m : NodeRef) (a : Address) (w : World L S) :
    ((w.endDial n a).node m).dials =
      if m = n then (w.node m).dials.filter (· ≠ a) else (w.node m).dials := by
  rw [endDial, node_setNode]
  by_cases hm : m = n
  · subst hm
    rw [if_pos rfl]
    split
    · rfl
    · rename_i hlength
      rw [node_of_length_le (Nat.le_of_not_lt fun h => hlength ⟨rfl, h⟩)]
      rfl
  · rw [if_neg fun h => hm h.1, if_neg hm]

/-- What is kept while an address is noted is kept, once the note has been taken back. -/
theorem Keeps.ofDial {s : S} (hn : n.number < w.nodes.length) (hdial : a ∉ (w.node n).dials)
    (h : Keeps mild { w.noteDial n a with outside := s } w') : Keeps mild w (w'.endDial n a) := by
  have hbefore (m : NodeRef) : ((w.noteDial n a).node m).state = (w.node m).state :=
    node_noteDial (·.state) (fun _ _ => rfl) a
  have hafter (m : NodeRef) : ((w'.endDial n a).node m).state = (w'.node m).state :=
    node_endDial (·.state) (fun _ _ => rfl) a
  refine ⟨fun m hm => ?_, fun m => ?_, fun hmild m hm => ?_, h.connections, h.closings⟩
  · rw [hafter]
    exact h.terminated m ((hbefore m).trans hm)
  · rw [hafter, dials_endDial]
    rcases h.dials m with heq | ⟨hover, hnone⟩
    · replace heq : (w'.node m).dials = ((w.noteDial n a).node m).dials := heq
      rw [noteDial, node_setNode] at heq
      left
      by_cases hm : m = n
      · rw [if_pos ⟨hm, hn⟩] at heq
        rw [if_pos hm, heq, hm, filter_note hdial]
      · rw [if_neg fun h => hm h.1] at heq
        rw [if_neg hm, heq]
    · right
      rw [hnone]
      exact ⟨hover, by split <;> rfl⟩
  · rw [hafter] at hm
    rw [← hbefore m]
    exact h.alive hmild m hm

-- ---------------------------------------------------------------------------
-- What acts keep
-- ---------------------------------------------------------------------------

variable (hcall : ∀ l e (w : World L S), Keeps mild w (call l e w))

include hcall in
/-- To call listeners keeps what these keep. -/
theorem tell_keeps (listeners : List L) (e : Event) (w : World L S) :
    Keeps mild w (tell call listeners e w) :=
  .foldl (fun w l _ => hcall l e w) w

include hcall in
theorem announce_keeps (r : RegistryRef) (e : Event) (w : World L S) :
    Keeps mild w (announce call r e w) :=
  (Keeps.registryTold r e _ w).trans (tell_keeps hcall _ e _)

include hcall in
theorem registryHears_keeps (r : RegistryRef) (e : Event) (w : World L S) :
    Keeps mild w (registryHears call r e w) := by
  have htold := (Keeps.registryTold r e (w.registry r).nodeListeners.snapshot w).trans
    (tell_keeps hcall (w.registry r).nodeListeners.snapshot e _)
  unfold registryHears
  cases e with
  | shutDown n =>
    refine htold.trans ?_
    unfold giveUp
    dsimp only
    split
    · have hdropped (id : String) (v : World L S) : Keeps mild v (v.dropNode r id) :=
        .of_eq rfl (Nat.le_refl _) rfl
      exact (hdropped _ _).trans (announce_keeps hcall r _ _)
    · exact .refl _
  | _ => exact htold

include hcall in
theorem hear_keeps (n : NodeRef) (listeners : List (NodeListener L)) (e : Event) (w : World L S) :
    Keeps mild w (hear call n listeners e w) := by
  unfold hear
  refine .foldl (fun w l _ => ?_) w
  cases l with
  | registry => exact registryHears_keeps hcall _ e w
  | own l => exact hcall l e w

include hcall in
/-- A node that tells of something keeps what its listeners keep. -/
theorem raise_keeps (n : NodeRef) (e : Event) (w : World L S) :
    Keeps mild w (raise call n e w) :=
  (Keeps.nodeTold n (w.node n).registry e _ w).trans (hear_keeps hcall n _ e _)

/-- What was not there before can be closed, and if not all is mild, anything. -/
theorem Keeps.closed (h : Keeps mild w w') {c : ConnectionRef}
    (hc : mild → w.connections.length ≤ c.number) (n : NodeRef) (reason : CloseReason) :
    Keeps mild w
      ((w'.setConnection c fun conn => (conn.markClosed reason).2).record (.closed n c reason)) where
  terminated := h.terminated
  dials := h.dials
  alive := h.alive
  connections := Nat.le_trans h.connections (Nat.le_of_eq (List.length_modify ..).symm)
  closings hmild m d reason' hd hmem := by
    refine h.closings hmild m d reason' hd ((List.mem_append.mp hmem).resolve_right fun heq => ?_)
    cases List.mem_singleton.mp heq
    exact absurd hd (Nat.not_lt_of_le (hc hmild))

include hcall in
/-- A node closes a connection that was not there before, or any, if not all is mild. -/
theorem Keeps.closeConnection (h : Keeps mild w w') {c : ConnectionRef}
    (hc : mild → w.connections.length ≤ c.number) (n : NodeRef) (reason : CloseReason) :
    Keeps mild w (closeConnection call n c reason w') := by
  have hremoved (table : ConnectionTable) (w : World L S) :
      Keeps mild w (w.setNode n fun node => { node with table }) := by
    apply Keeps.setNode
    exact fun _ => ⟨rfl, rfl⟩
  have htaken : Keeps mild w (w'.takeOut n c reason).2 :=
    (h.closed hc n reason).trans (hremoved _ _)
  unfold World.closeConnection
  split
  · exact h
  · dsimp only
    split
    · exact htaken.trans (raise_keeps hcall n _ _)
    · exact htaken

include hcall in
/-- `close_connection` leaves the notes of dials alone. -/
theorem closeConnection_keeps (hmild : ¬ mild) (n : NodeRef) (c : ConnectionRef)
    (reason : CloseReason) (w : World L S) :
    Keeps mild w (closeConnection call n c reason w) :=
  (Keeps.refl w).closeConnection hcall (fun h => absurd h hmild) n reason

include hcall in
/-- `send_on` does. -/
theorem sendOn_keeps (hmild : ¬ mild) (n : NodeRef) (payload : Payload) (c : ConnectionRef)
    (w : World L S) : Keeps mild w (sendOn env call n payload c w).2 := by
  unfold sendOn
  dsimp only
  split
  · exact .refl w
  · have hsent (conn : Connection) : Keeps mild w (w.setConnection c fun _ => conn) :=
      .setConnection c _ w
    split
    · exact hsent _
    · exact (hsent _).trans (closeConnection_keeps hcall hmild n c .writeError _)

include hcall in
theorem takeUp_keeps (n : NodeRef) (conn : Connection) (w : World L S) :
    Keeps mild w (takeUp call n conn w) :=
  ((Keeps.addConnection conn w).trans (.takeIn n _ _)).trans (raise_keeps hcall n _ _)

include hcall in
/-- Taking up a connection that was dialed keeps what is kept, also if it is closed again. -/
theorem TakeUpEnd.keeps {conn : Connection} {result : Except NetworkError ConnectionRef × World L S}
    (h : TakeUpEnd env call n conn w result) : Keeps mild w result.2 := by
  have houtside (w : World L S) (s : S) : Keeps mild w { w with outside := s } :=
    .of_eq rfl (Nat.le_refl _) rfl
  cases h with
  | read hstart s => exact (takeUp_keeps hcall n conn w).trans (houtside _ s)
  | unread hstart s =>
    exact ((takeUp_keeps hcall n conn w).trans (houtside _ s)).closeConnection hcall
      (fun _ => Nat.le_refl _) n .readError

include hcall in
/-- `handle_inbound` closes no connection that was there. -/
theorem accept_keeps (n : NodeRef) (stream : StreamEnd) (origin : Option Address)
    (w : World L S) : Keeps mild w (accept env call n stream origin w) := by
  unfold accept
  split
  · exact .of_eq rfl (Nat.le_refl _) rfl
  · unfold welcome
    dsimp only
    rw [setConnection_addConnection]
    split
    · unfold register
      dsimp only
      split
      · exact takeUp_keeps hcall n _ w
      · exact (Keeps.addConnection _ w).trans (.setConnection _ _ _)
    · exact (Keeps.addConnection _ w).trans (.setConnection _ _ _)

include hcall in
/-- A dial takes its note back, if the node has not been shut down in its course. -/
theorem connectNode_keeps (n : NodeRef) (a : Address) (w : World L S) :
    Keeps mild w (connectNode env call n a w).2 := by
  have hend := connectNode_end env call n a w
  generalize connectNode env call n a w = result at hend
  cases hend with
  | found hfound => exact .refl w
  | failed hnone h s => exact .of_eq rfl (Nat.le_refl _) rfl
  | dialed hnone hrunning hdial hopened hanswered h =>
    have hn : n.number < w.nodes.length :=
      lt_length_of_state (.inr (of_decide_eq_true hrunning))
    exact .ofDial hn hdial (h.keeps hcall)

include hcall in
/-- `send` takes back the note of the dial that it makes. -/
theorem sendFrom_keeps (hmild : ¬ mild) (n : NodeRef) (payload : Payload) (target : Target)
    (w : World L S) : Keeps mild w (sendFrom env call n payload target w).2 := by
  unfold sendFrom
  split
  · exact sendOn_keeps hcall hmild n payload _ w
  · rename_i a
    have hconnected : Keeps mild w (connectNode env call n a w).2 := connectNode_keeps hcall n a w
    split
    all_goals
      rename_i heq
      rw [heq] at hconnected
    · exact hconnected
    · exact hconnected.trans (sendOn_keeps hcall hmild n payload _ _)

include hcall in
/-- A turn of `read_loop` leaves the notes alone. -/
theorem readNext_keeps (hmild : ¬ mild) (n : NodeRef) (c : ConnectionRef) (w : World L S) :
    Keeps mild w (readNext env call n c w) := by
  have hread : Keeps mild w
      (w.setConnection c fun _ => ((w.connection c).receive env.timing).2) :=
    .setConnection c _ w
  unfold readNext
  dsimp only
  split
  · exact .refl w
  split
  · refine hread.trans ?_
    unfold onPayload
    split
    · exact .refl _
    · exact sendOn_keeps hcall hmild n _ c _
    · exact .setConnection c _ _
    · exact raise_keeps hcall n _ _
  · exact hread.trans (closeConnection_keeps hcall hmild n c _ _)
  · exact hread.trans (closeConnection_keeps hcall hmild n c _ _)

/-- `initialize` leaves them alone, whether it fails or not. -/
theorem startNode_keeps (n : NodeRef) (port : UInt16) (w : World L S) :
    Keeps mild w (startNode env n port w).2 := by
  have houtside (s : S) : Keeps mild w { w with outside := s } :=
    .of_eq rfl (Nat.le_refl _) rfl
  have halive (h : (w.node n).state = .new ∨ (w.node n).state = .starting) :
      (w.node n).state ≠ .terminated := by
    rcases h with h | h <;> simp [h]
  have hend := startNode_end env n port w
  generalize startNode env n port w = result at hend
  cases hend with
  | running hstate => exact .refl w
  | refused hstate e => exact .refl w
  | bound hstate a s =>
    exact (houtside s).trans (.setNode_of_alive (halive hstate) fun _ => ⟨by simp, rfl⟩)
  | failed hstate e s =>
    exact (houtside s).trans (.setNode_of_alive (halive hstate) fun _ => ⟨by simp, rfl⟩)

/-- A node that terminates has no notes any more. -/
theorem terminate_keeps (hmild : ¬ mild) (n : NodeRef) (w : World L S) :
    Keeps mild w (w.terminate n) := by
  refine .of_not_mild hmild (fun m hm => ?_) (fun m => ?_) (Nat.le_refl _)
  all_goals
    rw [terminate, node_setNode]
    split
  · rfl
  · exact hm
  · exact .inr ⟨rfl, rfl⟩
  · exact .inl rfl

include hcall in
/-- So it is when a node is shut down. -/
theorem shutDownNode_keeps (hmild : ¬ mild) (n : NodeRef) (w : World L S) :
    Keeps mild w (shutDownNode env call n w).2 := by
  have hstopped (h : ¬ ((w.node n).state = .stopping ∨ (w.node n).state = .terminated)) :
      Keeps mild w (stopServer env n (w.setState n .stopping)).2 := by
    obtain ⟨s, hs⟩ := stop_eq env n w
    rw [hs]
    have hstop : Keeps mild w
        (w.setNode n fun node => { node with state := .stopping, server := none }) :=
      .setNode_of_alive (fun hover => h (.inr hover)) fun _ => ⟨by simp, rfl⟩
    exact hstop.trans (.of_eq rfl (Nat.le_refl _) rfl)
  have hclosed (w : World L S) : Keeps mild w (closeAll call n w) :=
    .foldl (fun w c _ => closeConnection_keeps hcall hmild n c _ w) w
  have hdropped (w : World L S) : Keeps mild w (w.dropListeners n) := by
    apply Keeps.setNode
    exact fun _ => ⟨rfl, rfl⟩
  have hend := shutDownNode_end env call n w
  generalize shutDownNode env call n w = result at hend
  cases hend with
  | already hstate => exact .refl w
  | nobody hn => exact .nodeTold n _ _ [] w
  | stuck hstate hstop => exact hstopped hstate
  | shut hn hstate hstop =>
    exact ((((hstopped hstate).trans (hclosed _)).trans (terminate_keeps hmild n _)).trans
      (raise_keeps hcall n _ _)).trans (hdropped _)

include hcall in
/-- `get_or_create` creates nodes without notes. -/
theorem nodeOf_keeps (r : RegistryRef) (id : String) (w : World L S) :
    Keeps mild w (nodeOf call r id w).2 := by
  unfold nodeOf
  dsimp only
  split
  · exact .refl w
  split
  · exact .refl w
  · have hhandle : Keeps mild w w.freshListener.2 := .of_eq rfl (Nat.le_refl _) rfl
    have hlisted (n : NodeRef) (w : World L S) : Keeps mild w
        (w.setRegistry r fun reg => { reg with nodes := reg.nodes ++ [(id, n)] }) :=
      .of_eq rfl (Nat.le_refl _) rfl
    have hcreated : Keeps mild w (w.createNode r id).2 :=
      (hhandle.trans (.addNode rfl rfl _)).trans (hlisted _ _)
    exact hcreated.trans (announce_keeps hcall r _ _)

include hcall in
/-- What is done on the node of an id, which may be a new one. -/
theorem nodeOf_keeps_then {α : Type} (r : RegistryRef) (id : String) (w : World L S)
    {act : NodeRef → World L S → Except NetworkError α × World L S}
    (h : ∀ n w, Keeps mild w (act n w).2) :
    Keeps mild w (match nodeOf call r id w with
      | (.error e, w) => (Except.error e, w)
      | (.ok n, w) => act n w).2 := by
  have hnode := nodeOf_keeps hcall r id w
  split
  all_goals
    rename_i heq
    rw [heq] at hnode
  · exact hnode
  · exact hnode.trans (h _ _)

include hcall in
/-- Starting a node by its registry is creating and starting it. -/
theorem startIn_keeps (r : RegistryRef) (id : String) (port : UInt16) (w : World L S) :
    Keeps mild w (startIn env call r id port w).2 := by
  refine nodeOf_keeps_then hcall r id w fun n w => ?_
  have hstarted : Keeps mild w (startNode env n port w).2 := startNode_keeps n port w
  split
  all_goals
    rename_i heq
    rwa [heq] at hstarted

include hcall in
/-- Shutting down a registry is shutting down its nodes. -/
theorem shutDownRegistry_keeps (hmild : ¬ mild) (r : RegistryRef) (w : World L S) :
    Keeps mild w (shutDownRegistry env call r w).2 := by
  have hall (nodes : List NodeRef) (w : World L S) :
      Keeps mild w (shutDownAll (shutDownNode env call) nodes w).2 := by
    induction nodes generalizing w with
    | nil => exact .refl w
    | cons n nodes ih =>
      rw [shutDownAll_cons]
      exact (shutDownNode_keeps hcall hmild n w).trans (ih _)
  unfold shutDownRegistry shutDownRegistryBy
  dsimp only
  split
  · exact .refl w
  · have hclosed : Keeps mild w (w.closeRegistry r) := .of_eq rfl (Nat.le_refl _) rfl
    have hemptied (completed : Bool) (w : World L S) :
        Keeps mild w (w.emptyRegistry r completed) := .of_eq rfl (Nat.le_refl _) rfl
    exact (hclosed.trans (hall _ _)).trans (hemptied _ _)

include hcall in
/-- **What an act keeps**, if calling a listener keeps it: the notes, and, if the act is mild, all
connections and nodes. -/
theorem performWith_keeps {act : Act L} (hact : mild → act.isMild = true) (w : World L S) :
    Keeps mild w (performWith env call act w).2 := by
  have hharsh (h : act.isMild = false) : ¬ mild := fun hmild => by
    rw [hact hmild] at h
    cases h
  cases act with
  | node r id => exact nodeOf_keeps hcall r id w
  | start r id port => exact startIn_keeps hcall r id port w
  | connect r id a => exact nodeOf_keeps_then hcall r id w fun n w => connectNode_keeps hcall n a w
  | send r id payload target =>
    exact nodeOf_keeps_then hcall r id w fun n w =>
      sendFrom_keeps hcall (hharsh rfl) n payload target w
  | shutDown r => exact shutDownRegistry_keeps hcall (hharsh rfl) r w
  | startNode n port => exact startNode_keeps n port w
  | connectNode n a => exact connectNode_keeps hcall n a w
  | sendFrom n payload target => exact sendFrom_keeps hcall (hharsh rfl) n payload target w
  | close n c reason => exact closeConnection_keeps hcall (hharsh rfl) n c reason w
  | shutDownNode n => exact shutDownNode_keeps hcall (hharsh rfl) n w
  | ping c nonce => exact .setConnection c _ w
  | accept n stream origin => exact accept_keeps hcall n stream origin w
  | read n c => exact readNext_keeps hcall (hharsh rfl) n c w
  | listen n l =>
    have hhandle : Keeps mild w w.freshListener.2 := .of_eq rfl (Nat.le_refl _) rfl
    refine hhandle.trans ?_
    apply Keeps.setNode
    exact fun _ => ⟨rfl, rfl⟩
  | unlisten n id =>
    apply Keeps.setNode
    exact fun _ => ⟨rfl, rfl⟩
  | listenToRegistry r l => exact .of_eq rfl (Nat.le_refl _) rfl
  | unlistenToRegistry r id => exact .of_eq rfl (Nat.le_refl _) rfl
  | listenToNodes r l => exact .of_eq rfl (Nat.le_refl _) rfl
  | unlistenToNodes r id => exact .of_eq rfl (Nat.le_refl _) rfl

/-- What listeners keep, to whatever depth, if where all is to be mild they react mildly. -/
theorem call_keeps
    (hreact : mild → ∀ l e (w : World L S), ∀ act ∈ env.react l e w, act.isMild = true)
    (depth : Nat) (l : L) (e : Event) (w : World L S) :
    Keeps mild w (World.call env depth l e w) := by
  have hlogged : Keeps mild w (w.log l e) := .of_eq rfl (Nat.le_refl _) rfl
  induction depth generalizing l e w with
  | zero => exact hlogged
  | succ depth ih =>
    unfold World.call
    refine hlogged.trans (.foldl (fun v act hact => ?_) _)
    exact performWith_keeps (fun l e w => ih l e w (.of_eq rfl (Nat.le_refl _) rfl))
      (fun hmild => hreact hmild l e _ act hact) v

/-- **No run leaves a note behind**: after any acts, no dial is going on. -/
theorem run_leaves_no_dials (env : Surroundings L S) (depth : Nat) (acts : List (Act L))
    (registries : List (Registry L)) (outside : S) (n : NodeRef) :
    ((run env depth acts { World.start outside with registries }).2.node n).dials = [] := by
  have hkeeps (w : World L S) : Keeps False w (run env depth acts w).2 := by
    induction acts generalizing w with
    | nil => exact .refl w
    | cons act acts ih =>
      rw [run_cons]
      have hact : Keeps False w (perform env depth act w).2 :=
        performWith_keeps (call_keeps (fun h => h.elim) depth) (fun h => h.elim) w
      exact hact.trans (ih _)
  rcases (hkeeps _).dials n with hsame | hnone
  · exact hsame
  · exact hnone.2

end World
end Courier
