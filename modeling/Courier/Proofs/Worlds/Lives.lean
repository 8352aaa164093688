import Courier.Proofs.Worlds.Acts

/-!
# Courier — the lives of connections

What is on record of a connection, in order, is its life: a node takes it up, it is closed by nodes
that own it by name, and the node that has it in its table tells of the end when it takes it out.
However acts and listeners interleave, a life takes one of three courses, and where it stands is seen
from the tables and from the reason in the connection itself.

* `World.life` — what is on record of a connection;
* `Standing` — not taken up, in a table, or over;
* `World.Sound` — tables and lives agree, and every move keeps it so.
-/

namespace Courier

variable {L S : Type}

/-- What is on record of a connection. -/
inductive Moment where
  /-- The node told its listeners that it has taken up the connection. -/
  | began (n : NodeRef)
  /-- The node closed the connection, for the first time or once more. -/
  | closed (n : NodeRef) (reason : CloseReason)
  /-- The node told its listeners that the connection has ended. -/
  | ended (n : NodeRef) (reason : CloseReason)
deriving DecidableEq

/-- What a deed means to a connection. -/
def Deed.moment? (c : ConnectionRef) : Deed L → Option Moment
  | .nodeTold n _ (.connected d) _ => if d = c then some (.began n) else none
  | .nodeTold n _ (.disconnected d reason) _ => if d = c then some (.ended n reason) else none
  | .closed n d reason => if d = c then some (.closed n reason) else none
  | _ => none

/-- Nodes that close a connection, one after the other. -/
def closings (closes : List (NodeRef × CloseReason)) : List Moment :=
  closes.map fun x => .closed x.1 x.2

namespace World

/-- What is on record of a connection, in order. -/
def life (c : ConnectionRef) (w : World L S) : List Moment :=
  w.history.filterMap (Deed.moment? c)

/-- What is put on record is added to the life of the connection that it is about. -/
theorem life_record (c : ConnectionRef) (d : Deed L) (w : World L S) :
    (w.record d).life c = w.life c ++ (d.moment? c).toList := by
  rw [life, record, List.filterMap_append]
  rfl

/-- Where the life of a connection stands. -/
inductive Standing (c : ConnectionRef) (w : World L S) : Prop where
  /-- No node has taken it up. -/
  | unknown (closes : List (NodeRef × CloseReason)) (life : w.life c = closings closes)
      (table : ∀ m, (w.node m).table.contains c = false)
      (reason : c.number < w.connections.length → (w.connection c).closeReason ≠ none)
  /-- It is in the table of its node, which has not closed it. Other nodes of the same id may
  have. -/
  | listed (n : NodeRef) (closes : List (NodeRef × CloseReason))
      (life : w.life c = .began n :: closings closes) (others : ∀ x ∈ closes, x.1 ≠ n)
      (node : n.number < w.nodes.length) (owns : w.owns n c = true)
      (table : ∀ m, (w.node m).table.contains c = decide (m = n))
      (reason : (w.connection c).closeReason = (closes.map (·.2)).head?)
  /-- Its node has closed it and told of its end, with the reason of the first close. -/
  | ended (n : NodeRef) (before : List (NodeRef × CloseReason)) (reason first : CloseReason)
      (after : List (NodeRef × CloseReason))
      (life : w.life c = .began n :: closings before ++
        .closed n reason :: .ended n first :: closings after)
      (others : ∀ x ∈ before, x.1 ≠ n) (node : n.number < w.nodes.length)
      (owns : w.owns n c = true) (table : ∀ m, (w.node m).table.contains c = false)
      (closed : (w.connection c).closeReason = some first)
      (isFirst : first = ((before.map (·.2)).head?).getD reason)

/-- Tables and lives agree. -/
structure Sound (w : World L S) : Prop where
  table : ∀ n, (w.node n).table.Sound
  /-- What is in a table is there, under the address of its peer. -/
  entries : ∀ n, ∀ e ∈ (w.node n).table.entries,
    e.1.number < w.connections.length ∧ (w.connection e.1).peerAddress = e.2
  /-- Nothing is on record of connections to come. -/
  future : ∀ c, w.connections.length ≤ c.number → w.life c = []
  standing : ∀ c, Standing c w

/-- A new world is sound. -/
theorem Sound.start (outside : S) : Sound (start outside : World L S) where
  table _ := .empty
  entries _ _ he := absurd he List.not_mem_nil
  future _ _ := rfl
  standing _ := .unknown [] rfl (fun _ => rfl) fun h => absurd h (Nat.not_lt_zero _)

/-- No table holds a connection that there is not. -/
theorem Sound.not_contains {w : World L S} (h : w.Sound) {c : ConnectionRef}
    (hc : w.connections.length ≤ c.number) (m : NodeRef) :
    (w.node m).table.contains c = false :=
  ConnectionTable.contains_eq_false_iff.mpr fun _ ha =>
    absurd (h.entries m _ ha).1 (Nat.not_lt_of_le hc)

-- ---------------------------------------------------------------------------
-- Changes that do not concern a connection
-- ---------------------------------------------------------------------------

/-- A change from one world to another does not concern a connection. -/
structure Unmoved (c : ConnectionRef) (w w' : World L S) : Prop where
  life : w'.life c = w.life c
  connection : SameLife (w.connection c) (w'.connection c)
  known : c.number < w'.connections.length ↔ c.number < w.connections.length
  table : ∀ m, (w'.node m).table.contains c = (w.node m).table.contains c
  nodes : w.nodes.length ≤ w'.nodes.length
  ids : ∀ n, n.number < w.nodes.length → (w'.node n).id = (w.node n).id

/-- An unmoved connection belongs to the node that it belonged to. -/
theorem Unmoved.owns {c : ConnectionRef} {w w' : World L S} (h : Unmoved c w w') {n : NodeRef}
    (hn : n.number < w.nodes.length) (howns : w.owns n c = true) : w'.owns n c = true := by
  obtain ⟨hc, hid⟩ := owns_iff.mp howns
  exact owns_iff.mpr ⟨h.known.mpr hc, by rw [h.connection.nodeId, h.ids n hn, hid]⟩

theorem Unmoved.trans {c : ConnectionRef} {w w' w'' : World L S} (h : Unmoved c w w')
    (h' : Unmoved c w' w'') : Unmoved c w w'' where
  life := h'.life.trans h.life
  connection := h.connection.trans h'.connection
  known := h'.known.trans h.known
  table m := (h'.table m).trans (h.table m)
  nodes := Nat.le_trans h.nodes h'.nodes
  ids n hn := (h'.ids n (Nat.lt_of_lt_of_le hn h.nodes)).trans (h.ids n hn)

/-- A connection is left alone if neither nodes nor connections nor its life change. -/
theorem Unmoved.of_eq {c : ConnectionRef} {w w' : World L S} (hnodes : w'.nodes = w.nodes)
    (hconnections : w'.connections = w.connections) (hlife : w'.life c = w.life c) :
    Unmoved c w w' where
  life := hlife
  connection := by
    rw [World.connection, World.connection, hconnections]
    exact .refl _
  known := by rw [hconnections]
  table m := by rw [node, node, hnodes]
  nodes := Nat.le_of_eq (by rw [hnodes])
  ids n _ := by rw [node, node, hnodes]

theorem Unmoved.record {c : ConnectionRef} {d : Deed L} (h : d.moment? c = none)
    (w : World L S) : Unmoved c w (w.record d) :=
  .of_eq rfl rfl (by rw [life_record, h, Option.toList_none, List.append_nil])

/-- A connection that is left alone stands as it stood. -/
theorem Unmoved.standing {c : ConnectionRef} {w w' : World L S} (h : Unmoved c w w')
    (hs : Standing c w) : Standing c w' := by
  have hreason := h.connection.closeReason
  cases hs with
  | unknown closes life table reason =>
    refine .unknown closes (h.life.trans life) (fun m => (h.table m).trans (table m)) fun hc => ?_
    rw [hreason]
    exact reason (h.known.mp hc)
  | listed n closes life others node owns table reason =>
    exact .listed n closes (h.life.trans life) others (Nat.lt_of_lt_of_le node h.nodes)
      (h.owns node owns) (fun m => (h.table m).trans (table m)) (hreason.trans reason)
  | ended n before reason first after life others node owns table closed isFirst =>
    exact .ended n before reason first after (h.life.trans life) others
      (Nat.lt_of_lt_of_le node h.nodes) (h.owns node owns)
      (fun m => (h.table m).trans (table m)) (hreason.trans closed) isFirst

/-- A change from one world to another leaves all connections where they are. -/
structure Quiet (w w' : World L S) : Prop where
  life : ∀ c, w'.life c = w.life c
  connection : ∀ c, SameLife (w.connection c) (w'.connection c)
  length : w'.connections.length = w.connections.length
  table : ∀ m, (w'.node m).table = (w.node m).table
  nodes : w.nodes.length ≤ w'.nodes.length
  ids : ∀ n, n.number < w.nodes.length → (w'.node n).id = (w.node n).id

/-- A quiet step leaves all connections alone. -/
theorem Quiet.unmoved {w w' : World L S} (h : Quiet w w') (c : ConnectionRef) :
    Unmoved c w w' :=
  ⟨h.life c, h.connection c, by rw [h.length], fun m => by rw [h.table m], h.nodes, h.ids⟩

theorem Quiet.sound {w w' : World L S} (h : Quiet w w') (hs : w.Sound) : w'.Sound where
  table n := by
    rw [h.table n]
    exact hs.table n
  entries n e he := by
    rw [h.table n] at he
    rw [h.length, (h.connection e.1).peerAddress]
    exact hs.entries n e he
  future c hc := by
    rw [h.life c]
    exact hs.future c (h.length ▸ hc)
  standing c := (h.unmoved c).standing (hs.standing c)

/-- Registries, calls and the surroundings do not matter. -/
theorem Sound.of_eq {w w' : World L S} (hs : w.Sound) (hnodes : w'.nodes = w.nodes)
    (hconnections : w'.connections = w.connections) (hhistory : w'.history = w.history) :
    w'.Sound := by
  refine Quiet.sound ⟨fun c => ?_, fun c => ?_, ?_, fun m => ?_, ?_, fun n _ => ?_⟩ hs
  · rw [life, life, hhistory]
  · rw [connection, connection, hconnections]
    exact .refl _
  · rw [hconnections]
  · rw [node, node, hnodes]
  · exact Nat.le_of_eq (by rw [hnodes])
  · rw [node, node, hnodes]

/-- What is put on record may be about no connection. -/
theorem Quiet.record {d : Deed L} (h : ∀ c, d.moment? c = none) (w : World L S) :
    Quiet w (w.record d) where
  life c := by rw [life_record, h c, Option.toList_none, List.append_nil]
  connection _ := .refl _
  length := rfl
  table _ := rfl
  nodes := Nat.le_refl _
  ids _ _ := rfl

/-- A node may change in what is neither its id nor its table. -/
theorem Quiet.setNode (n : NodeRef) {f : Node L → Node L} (hid : ∀ node, (f node).id = node.id)
    (htable : ∀ node, (f node).table = node.table) (w : World L S) : Quiet w (w.setNode n f) where
  life _ := rfl
  connection _ := .refl _
  length := rfl
  table m := node_setNode_congr (·.table) htable n m w
  nodes := Nat.le_of_eq (List.length_modify ..).symm
  ids m _ := node_setNode_congr (·.id) hid n m w

/-- A new node has an empty table. -/
theorem Quiet.addNode {node : Node L} (h : node.table = .empty) (w : World L S) :
    Quiet w (w.addNode node).2 where
  life _ := rfl
  connection _ := .refl _
  length := rfl
  table m := by
    rw [node_addNode]
    split
    · rename_i hm
      rw [node_of_length_le (Nat.le_of_eq hm.symm), h]
      rfl
    · rfl
  nodes := by
    rw [World.addNode, List.length_append]
    omega
  ids n hn := by rw [node_addNode, if_neg (Nat.ne_of_lt hn)]

/-- A connection may change in what is not its life. -/
theorem Quiet.setConnection {c : ConnectionRef} {f : Connection → Connection} {w : World L S}
    (h : SameLife (w.connection c) (f (w.connection c))) : Quiet w (w.setConnection c f) where
  life _ := rfl
  connection d := by
    rw [connection_setConnection]
    split
    · rename_i hd
      rw [hd.1]
      exact h
    · exact .refl _
  length := List.length_modify ..
  table _ := rfl
  nodes := Nat.le_refl _
  ids _ _ := rfl

-- ---------------------------------------------------------------------------
-- Closing a connection
-- ---------------------------------------------------------------------------

variable (n : NodeRef) (c : ConnectionRef) (reason : CloseReason)

/-- `close_connection` is put on record for this connection only. -/
theorem life_takeOut (d : ConnectionRef) (w : World L S) :
    (w.takeOut n c reason).2.life d =
      w.life d ++ if c = d then [.closed n reason] else [] := by
  have h := life_record d (.closed n c reason)
    (w.setConnection c fun conn => (conn.markClosed reason).2)
  have hmoment : (Deed.moment? d (.closed n c reason : Deed L)).toList =
      if c = d then [.closed n reason] else [] := by
    unfold Deed.moment?
    dsimp only
    split <;> rfl
  rw [hmoment] at h
  exact h

/-- It marks this connection as closed, and no other. -/
theorem connection_takeOut (d : ConnectionRef) {w : World L S}
    (hc : c.number < w.connections.length) :
    (w.takeOut n c reason).2.connection d =
      if d = c then ((w.connection d).markClosed reason).2 else w.connection d := by
  have h := connection_setConnection c d (fun conn => (conn.markClosed reason).2) w
  simp only [hc, and_true] at h
  exact h

/-- It takes the connection out of the table of the node that closes it. -/
theorem table_takeOut (m : NodeRef) (w : World L S) :
    ((w.takeOut n c reason).2.node m).table =
      if m = n then
        ((w.node m).table.remove (w.takeOut n c reason).2.isOpen c
          ((w.takeOut n c reason).2.connection c).peerAddress).2
      else (w.node m).table := by
  rw [show (w.takeOut n c reason).2.node m = _ from node_setNode ..]
  by_cases hm : m = n
  · subst hm
    by_cases hlt : m.number < w.nodes.length
    · rw [if_pos ⟨rfl, hlt⟩, if_pos rfl]
      rfl
    · -- there is no such node
      have hempty : (w.node m).table = .empty := by
        rw [node_of_length_le (Nat.le_of_not_lt hlt)]
        rfl
      rw [if_neg fun h => hlt h.2, if_pos rfl, hempty,
        ConnectionTable.remove_of_not_contains _ .empty rfl]
      exact hempty
  · rw [if_neg fun h => hm h.1, if_neg hm]
    rfl

theorem contains_takeOut (m : NodeRef) (d : ConnectionRef) (w : World L S) :
    ((w.takeOut n c reason).2.node m).table.contains d =
      (!decide (m = n ∧ d = c) && (w.node m).table.contains d) := by
  rw [table_takeOut]
  by_cases hm : m = n
  · rw [if_pos hm, ConnectionTable.contains_remove]
    simp [hm]
  · rw [if_neg hm]
    simp [hm]

/-- Taking out a connection changes the id of no node. -/
theorem id_takeOut (m : NodeRef) (w : World L S) :
    ((w.takeOut n c reason).2.node m).id = (w.node m).id := by
  rw [show (w.takeOut n c reason).2.node m = _ from node_setNode ..]
  split <;> rfl

/-- Taking out a connection answers whether the table held it. -/
theorem fst_takeOut (w : World L S) :
    (w.takeOut n c reason).1 = (w.node n).table.contains c :=
  ConnectionTable.fst_remove ..

/-- It leaves other connections alone. -/
theorem Unmoved.takeOut {d : ConnectionRef} (hd : d ≠ c) {w : World L S}
    (hc : c.number < w.connections.length) : Unmoved d w (w.takeOut n c reason).2 where
  life := by rw [life_takeOut, if_neg (Ne.symm hd), List.append_nil]
  connection := by
    rw [connection_takeOut n c reason d hc, if_neg hd]
    exact .refl _
  known := Iff.of_eq (congrArg (d.number < ·) (List.length_modify ..))
  table m := by
    rw [contains_takeOut]
    simp [hd]
  nodes := Nat.le_of_eq (List.length_modify ..).symm
  ids m _ := id_takeOut n c reason m w

variable {n c}

/-- A connection belongs to the node that it belonged to. -/
theorem owns_takeOut {w : World L S} {m : NodeRef} (howns : w.owns m c = true) :
    (w.takeOut n c reason).2.owns m c = true := by
  obtain ⟨hc, hid⟩ := owns_iff.mp howns
  refine owns_iff.mpr ⟨?_, ?_⟩
  · rwa [show (w.takeOut n c reason).2.connections.length = _ from List.length_modify ..]
  · rw [connection_takeOut n c reason c hc, if_pos rfl, id_takeOut, ← hid]
    unfold Connection.markClosed
    split <;> rfl

/-- The first close decides the reason. -/
theorem closeReason_takeOut {w : World L S} (hc : c.number < w.connections.length) :
    ((w.takeOut n c reason).2.connection c).closeReason =
      some ((w.connection c).closeReason.getD reason) := by
  rw [connection_takeOut n c reason c hc, if_pos rfl, closeReason_markClosed]
  cases (w.connection c).closeReason <;> rfl

/-- It changes the peer of no connection. -/
theorem peerAddress_takeOut (d : ConnectionRef) {w : World L S}
    (hc : c.number < w.connections.length) :
    ((w.takeOut n c reason).2.connection d).peerAddress = (w.connection d).peerAddress := by
  rw [connection_takeOut n c reason d hc]
  split
  · unfold Connection.markClosed
    split <;> rfl
  · rfl

/-- A close that takes nothing out of a table is one more of the kind that there were. -/
theorem Standing.closes {w : World L S} (hs : Standing c w) (howns : w.owns n c = true)
    (hthere : (w.node n).table.contains c = false) : Standing c (w.takeOut n c reason).2 := by
  have hc := (owns_iff.mp howns).1
  have hlife := life_takeOut n c reason c w
  rw [if_pos rfl] at hlife
  have hcontains (m : NodeRef) : ((w.takeOut n c reason).2.node m).table.contains c =
      (w.node m).table.contains c := by
    rw [contains_takeOut]
    by_cases hm : m = n
    · simp [hm, hthere]
    · simp [hm]
  have hnodes : (w.takeOut n c reason).2.nodes.length = w.nodes.length := List.length_modify ..
  have hclosed := closeReason_takeOut (n := n) reason hc
  cases hs with
  | unknown closes life table _ =>
    refine .unknown (closes ++ [(n, reason)]) ?_ (fun m => (hcontains m).trans (table m))
      fun _ => ?_
    · rw [hlife, life, closings, closings, List.map_append]
      rfl
    · rw [hclosed]
      exact fun h => nomatch h
  | listed n' closes life others node owns table reason' =>
    have hne : n ≠ n' := fun h => by
      rw [table, decide_eq_false_iff_not] at hthere
      exact hthere h
    refine .listed n' (closes ++ [(n, reason)]) ?_ ?_ (hnodes ▸ node) (owns_takeOut reason owns)
      (fun m => (hcontains m).trans (table m)) ?_
    · rw [hlife, life, closings, closings, List.map_append]
      rfl
    · intro x hx
      rcases List.mem_append.mp hx with hx | hx
      · exact others x hx
      · rw [List.mem_singleton.mp hx]
        exact hne
    · rw [hclosed, reason', List.map_append]
      cases closes <;> rfl
  | ended n' before reason' first after life others node owns table closed isFirst =>
    refine .ended n' before reason' first (after ++ [(n, reason)]) ?_ others (hnodes ▸ node)
      (owns_takeOut reason owns) (fun m => (hcontains m).trans (table m)) ?_ isFirst
    · rw [hlife, life, closings, closings, closings, List.map_append]
      simp
    · rw [hclosed, closed]
      rfl

/-- When a connection leaves its table, its node tells of the end. -/
theorem Standing.ends {w : World L S} (hs : Standing c w) (howns : w.owns n c = true)
    (hthere : (w.node n).table.contains c = true) (r : RegistryRef)
    (listeners : List (NodeListener L)) :
    Standing c ((w.takeOut n c reason).2.record (.nodeTold n r (.disconnected c
      (((w.takeOut n c reason).2.connection c).closeReason.getD reason)) listeners)) := by
  have hc := (owns_iff.mp howns).1
  have hclosed := closeReason_takeOut (n := n) reason hc
  have hnodes : (w.takeOut n c reason).2.nodes.length = w.nodes.length := List.length_modify ..
  cases hs with
  | unknown closes life table _ =>
    rw [table] at hthere
    cases hthere
  | listed n' closes life others node owns table reason' =>
    rw [table, decide_eq_true_eq] at hthere
    subst hthere
    refine .ended n closes reason _ [] ?_ others (hnodes ▸ node) (owns_takeOut reason owns)
      (fun m => ?_) hclosed ?_
    · rw [life_record, life_takeOut, if_pos rfl, life, hclosed]
      simp [Deed.moment?, closings]
    · refine (contains_takeOut n c reason m c w).trans ?_
      rw [table]
      by_cases hm : m = n <;> simp [hm]
    · rw [reason']
  | ended n' before reason' first after life others node owns table closed isFirst =>
    rw [table] at hthere
    cases hthere

/-- After a close all is as it should be, if it is so with the closed connection. -/
theorem Sound.of_takeOut {w w' : World L S} (hs : w.Sound) (howns : w.owns n c = true)
    (hnodes : w'.nodes = (w.takeOut n c reason).2.nodes)
    (hconnections : w'.connections = (w.takeOut n c reason).2.connections)
    (hlife : ∀ d, d ≠ c → w'.life d = w.life d) (hstanding : Standing c w') : w'.Sound := by
  have hc := (owns_iff.mp howns).1
  have hnode (m : NodeRef) : w'.node m = (w.takeOut n c reason).2.node m := by
    rw [node, node, hnodes]
  have hconnection (d : ConnectionRef) :
      w'.connection d = (w.takeOut n c reason).2.connection d := by
    rw [connection, connection, hconnections]
  have hlength : w'.connections.length = w.connections.length := by
    rw [hconnections]
    exact List.length_modify ..
  have haddress (d : ConnectionRef) :
      (w'.connection d).peerAddress = (w.connection d).peerAddress := by
    rw [hconnection, peerAddress_takeOut reason d hc]
  refine ⟨fun m => ?_, fun m e he => ?_, fun d hd => ?_, fun d => ?_⟩
  · -- the node looks the connection up under the address that it is entered with
    rw [hnode, table_takeOut]
    split
    · refine (hs.table m).remove _ fun a ha => ?_
      rw [← hconnection, haddress, (hs.entries m _ ha).2]
    · exact hs.table m
  · rw [hnode, table_takeOut] at he
    rw [hlength, haddress]
    split at he
    · rw [ConnectionTable.entries_remove] at he
      exact hs.entries m e (List.mem_filter.mp he).1
    · exact hs.entries m e he
  · rw [hlength] at hd
    rw [hlife d fun h => absurd hc (Nat.not_lt_of_le (h ▸ hd)), hs.future d hd]
  · by_cases hd : d = c
    · exact hd ▸ hstanding
    · have hun := Unmoved.takeOut n c reason hd hc
      have hsame : Unmoved d _ w' := .of_eq hnodes hconnections ((hlife d hd).trans hun.life.symm)
      exact (hun.trans hsame).standing (hs.standing d)

-- ---------------------------------------------------------------------------
-- A new connection
-- ---------------------------------------------------------------------------

/-- A new connection leaves the others alone. -/
theorem Unmoved.addConnection {d : ConnectionRef} {w : World L S}
    (hd : d.number ≠ w.connections.length) (conn : Connection) :
    Unmoved d w (w.addConnection conn).2 where
  life := rfl
  connection := by
    rw [connection_addConnection, if_neg hd]
    exact .refl _
  known := by
    rw [World.addConnection, List.length_append, List.length_singleton]
    omega
  table _ := rfl
  nodes := Nat.le_refl _
  ids _ _ := rfl

/-- A connection that is not taken up is closed and in no table. -/
theorem Sound.addConnection {w : World L S} (hs : w.Sound) {conn : Connection}
    (hclosed : conn.closeReason ≠ none) : (w.addConnection conn).2.Sound where
  table := hs.table
  entries m e he := by
    obtain ⟨hlt, haddress⟩ := hs.entries m e he
    rw [connection_addConnection, if_neg (Nat.ne_of_lt hlt)]
    refine ⟨?_, haddress⟩
    rw [World.addConnection, List.length_append]
    omega
  future d hd := by
    rw [World.addConnection, List.length_append, List.length_singleton] at hd
    exact hs.future d (by omega)
  standing d := by
    by_cases hd : d.number = w.connections.length
    · refine .unknown [] (hs.future d (Nat.le_of_eq hd.symm))
        (hs.not_contains (Nat.le_of_eq hd.symm)) fun _ => ?_
      rwa [connection_addConnection, if_pos hd]
    · exact (Unmoved.addConnection hd conn).standing (hs.standing d)

/-- `register` puts a connection into the table of one node. -/
theorem table_takeIn (m : NodeRef) {w : World L S} (hn : n.number < w.nodes.length) :
    ((w.takeIn n c).node m).table =
      if m = n then
        (w.node m).table.insert w.isOpen c (w.connection c).peerAddress
      else (w.node m).table := by
  rw [show (w.takeIn n c).node m = _ from node_setNode ..]
  simp only [hn, and_true]
  split <;> rfl

theorem id_takeIn (m : NodeRef) (w : World L S) :
    ((w.takeIn n c).node m).id = (w.node m).id := by
  rw [show (w.takeIn n c).node m = _ from node_setNode ..]
  split <;> rfl

theorem contains_takeIn (m : NodeRef) (d : ConnectionRef) {w : World L S}
    (hn : n.number < w.nodes.length) :
    ((w.takeIn n c).node m).table.contains d =
      (decide (m = n ∧ d = c) || (w.node m).table.contains d) := by
  rw [table_takeIn m hn]
  by_cases hm : m = n
  · rw [if_pos hm, ConnectionTable.contains_insert]
    simp [hm]
  · rw [if_neg hm]
    simp [hm]

/-- Taking in a connection leaves other ones alone. -/
theorem Unmoved.takeIn {d : ConnectionRef} (hd : d ≠ c) {w : World L S}
    (hn : n.number < w.nodes.length) : Unmoved d w (w.takeIn n c) where
  life := rfl
  connection := .refl _
  known := Iff.rfl
  table m := by
    rw [contains_takeIn m d hn]
    simp [hd]
  nodes := Nat.le_of_eq (List.length_modify ..).symm
  ids m _ := id_takeIn m w

variable {w : World L S} {conn : Connection}

/-- A connection that is taken up is in the table of its node, which tells of its beginning. -/
theorem Sound.standing_new (hs : w.Sound) (hn : n.number < w.nodes.length)
    (hnode : conn.nodeId = (w.node n).id) (hopen : conn.closeReason = none) (r : RegistryRef)
    (listeners : List (NodeListener L)) :
    Standing (w.addConnection conn).1
      (((w.addConnection conn).2.takeIn n (w.addConnection conn).1).record
        (.nodeTold n r (.connected (w.addConnection conn).1) listeners)) := by
  let new := (w.addConnection conn).1
  let added := (w.addConnection conn).2
  have hnew : w.connections.length ≤ new.number := Nat.le_refl _
  have hlength : added.connections.length = w.connections.length + 1 := List.length_append
  have hself : added.connection new = conn := by
    rw [connection_addConnection]
    exact if_pos rfl
  refine .listed n [] ?_ (fun _ h => absurd h List.not_mem_nil) ?_ ?_ (fun m => ?_) ?_
  · -- nothing was on record of it before
    rw [life_record, show (added.takeIn n new).life new = [] from hs.future new hnew]
    simp [Deed.moment?, closings]
  · exact Nat.lt_of_lt_of_eq hn (List.length_modify ..).symm
  · refine owns_iff.mpr ⟨Nat.lt_of_lt_of_eq (Nat.lt_succ_self _) hlength.symm, ?_⟩
    exact (congrArg Connection.nodeId hself).trans (hnode.trans (id_takeIn n added).symm)
  · refine (contains_takeIn m new (w := added) hn).trans ?_
    rw [show (added.node m).table.contains new = false from hs.not_contains hnew m]
    simp [new]
  · exact (congrArg Connection.closeReason hself).trans hopen

/-- A node may take up an open connection of its own. -/
theorem Sound.begins (hs : w.Sound) (hn : n.number < w.nodes.length)
    (hnode : conn.nodeId = (w.node n).id) (hopen : conn.closeReason = none) (r : RegistryRef)
    (listeners : List (NodeListener L)) :
    (((w.addConnection conn).2.takeIn n (w.addConnection conn).1).record
      (.nodeTold n r (.connected (w.addConnection conn).1) listeners)).Sound := by
  let new := (w.addConnection conn).1
  let added := (w.addConnection conn).2
  have hnew : w.connections.length ≤ new.number := Nat.le_refl _
  have hlength : added.connections.length = w.connections.length + 1 := List.length_append
  have hothers {d : ConnectionRef} (hd : d.number ≠ w.connections.length) :
      Unmoved d w ((added.takeIn n new).record (.nodeTold n r (.connected new) listeners)) := by
    have hne : d ≠ new := fun h => hd (congrArg (·.number) h)
    have hmoment : Deed.moment? d (.nodeTold n r (.connected new) listeners) = none :=
      if_neg (Ne.symm hne)
    exact ((Unmoved.addConnection hd conn).trans (.takeIn hne hn)).trans (.record hmoment _)
  refine ⟨fun m => ?_, fun m e he => ?_, fun d hd => ?_, fun d => ?_⟩
  · show ((added.takeIn n new).node m).table.Sound
    rw [table_takeIn m (w := added) hn]
    split
    · exact (hs.table m).insert _ fun b hb =>
        absurd hb (ConnectionTable.contains_eq_false_iff.mp (hs.not_contains hnew m) b)
    · exact hs.table m
  · have hold (he : e ∈ (w.node m).table.entries) :
        e.1.number < added.connections.length ∧ (added.connection e.1).peerAddress = e.2 := by
      obtain ⟨hlt, haddress⟩ := hs.entries m e he
      have hun := Unmoved.addConnection (Nat.ne_of_lt hlt) conn
      exact ⟨hun.known.mpr hlt, hun.connection.peerAddress.trans haddress⟩
    replace he : e ∈ ((added.takeIn n new).node m).table.entries := he
    rw [table_takeIn m (w := added) hn] at he
    split at he
    · rw [ConnectionTable.entries_insert] at he
      rcases List.mem_append.mp he with he | he
      · exact hold (List.mem_filter.mp he).1
      · rw [List.mem_singleton.mp he]
        exact ⟨Nat.lt_of_lt_of_eq (Nat.lt_succ_self _) hlength.symm, rfl⟩
    · exact hold he
  · replace hd : w.connections.length + 1 ≤ d.number := hlength ▸ hd
    rw [(hothers (by omega)).life]
    exact hs.future d (Nat.le_of_succ_le hd)
  · -- the new connection begins its life, and no other life is concerned
    by_cases hd : d.number = w.connections.length
    · obtain rfl : d = new := congrArg ConnectionRef.mk hd
      exact hs.standing_new hn hnode hopen r listeners
    · exact (hothers hd).standing (hs.standing d)

-- ---------------------------------------------------------------------------
-- Every move
-- ---------------------------------------------------------------------------

/-- **Every move keeps tables and lives in agreement.** -/
theorem Move.sound {t t' : Turn L S} (h : Move t t') (hs : t.world.Sound) : t'.world.Sound := by
  cases h with
  | outside due w s => exact hs.of_eq rfl rfl rfl
  | registry due w r hsame => exact hs.of_eq rfl rfl rfl
  | handle due w => exact hs.of_eq rfl rfl rfl
  | node due w n hsame htable =>
    exact Quiet.sound (.setNode n (fun node => (hsame node).id) htable w) hs
  | newNode due w h => exact Quiet.sound (.addNode h w) hs
  | traffic due w c h => exact Quiet.sound (.setConnection h) hs
  | begins due w hn hnode hopen => exact hs.begins hn hnode hopen _ _
  | turnedAway due w h => exact hs.addConnection h
  | @ends due w n c reason howns hthere =>
    rw [fst_takeOut] at hthere
    refine hs.of_takeOut reason howns rfl rfl (fun d hd => ?_)
      ((hs.standing c).ends reason howns hthere _ _)
    show (World.record _ _).life d = _
    rw [life_record, life_takeOut, if_neg (Ne.symm hd)]
    simp [Deed.moment?, Ne.symm hd]
  | @closes due w n c reason howns hthere =>
    rw [fst_takeOut] at hthere
    refine hs.of_takeOut reason howns rfl rfl (fun d hd => ?_)
      ((hs.standing c).closes reason howns hthere)
    rw [life_takeOut, if_neg (Ne.symm hd), List.append_nil]
  | @tells due w n e h =>
    refine Quiet.sound (.record (fun c => ?_) w) hs
    cases e with
    | connected d => exact absurd trivial h
    | disconnected d reason => exact absurd trivial h
    | _ => rfl
  | @announces due w r e h => exact Quiet.sound (.record (fun _ => rfl) w) hs
  | relays due w r e => exact Quiet.sound (.record (fun _ => rfl) w) hs
  | calls due w l e => exact hs.of_eq rfl rfl rfl

/-- All moves keep the world sound. -/
theorem Moves.sound {t t' : Turn L S} (h : Moves t t') (hs : t.world.Sound) : t'.world.Sound :=
  h.keeps (fun hmove hs => hmove.sound hs) hs

end World
end Courier
