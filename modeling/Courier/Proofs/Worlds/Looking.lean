import Courier.World.Run

/-!
# Courier — what is found in a changed world

Looking up a node, a connection or a registry after one part of a world has been changed.
-/

namespace Courier.World

variable {L S : Type}

/-- A change that leaves an element as it is changes nothing. -/
theorem modify_eq_self {α : Type} {f : α → α} {i : Nat} {d : α} {xs : List α}
    (h : f (xs.getD i d) = xs.getD i d) : xs.modify i f = xs := by
  refine List.ext_getElem? fun j => ?_
  rw [List.getD_eq_getElem?_getD] at h
  rw [List.getElem?_modify]
  by_cases hj : i = j
  · subst hj
    cases hget : xs[i]? with
    | none => rfl
    | some x =>
      rw [hget] at h
      simpa using h
  · simp [hj]

-- ---------------------------------------------------------------------------
-- Nodes
-- ---------------------------------------------------------------------------

/-- There is nothing to see of a node that there is not. -/
theorem node_of_length_le {n : NodeRef} {w : World L S} (h : w.nodes.length ≤ n.number) :
    w.node n = default := by
  rw [node, List.getD_eq_getElem?_getD, List.getElem?_eq_none h, Option.getD_none]

/-- A change of one node is seen there, and nowhere else. -/
theorem node_setNode (n m : NodeRef) (f : Node L → Node L) (w : World L S) :
    (w.setNode n f).node m =
      if m = n ∧ n.number < w.nodes.length then f (w.node m) else w.node m := by
  simp only [node, setNode, List.getD_eq_getElem?_getD, List.getElem?_modify]
  by_cases hm : m = n
  · subst hm
    by_cases hlt : m.number < w.nodes.length <;> simp [hlt]
  · have hne : n.number ≠ m.number := fun h => hm (by cases n; cases m; exact congrArg _ h.symm)
    simp [hm, hne]

/-- A change that leaves the node as it is changes nothing. -/
theorem setNode_self {n : NodeRef} {f : Node L → Node L} {w : World L S}
    (h : f (w.node n) = w.node n) : w.setNode n f = w := by
  rw [setNode, modify_eq_self h]

/-- Nodes that are not there do not change. -/
theorem setNode_of_length_le {n : NodeRef} {w : World L S} (h : w.nodes.length ≤ n.number)
    (f : Node L → Node L) : w.setNode n f = w := by
  rw [setNode, List.modify_eq_self h]

/-- Two changes of a node are one. -/
theorem setNode_setNode (n : NodeRef) (f g : Node L → Node L) (w : World L S) :
    (w.setNode n f).setNode n g = w.setNode n (g ∘ f) := by
  rw [setNode, setNode, setNode, List.modify_modify_eq]

/-- What a change leaves alone in the changed node it leaves alone in all nodes. -/
theorem node_setNode_congr {α : Type} (look : Node L → α) {f : Node L → Node L}
    (h : ∀ node, look (f node) = look node) (n m : NodeRef) (w : World L S) :
    look ((w.setNode n f).node m) = look (w.node m) := by
  rw [node_setNode]
  split
  · exact h _
  · rfl

/-- A new node is seen at its place. -/
theorem node_addNode (node : Node L) (m : NodeRef) (w : World L S) :
    (w.addNode node).2.node m = if m.number = w.nodes.length then node else w.node m := by
  simp only [World.node, addNode, List.getD_eq_getElem?_getD, List.getElem?_append]
  by_cases hlt : m.number < w.nodes.length
  · simp [hlt, Nat.ne_of_lt hlt]
  · by_cases heq : m.number = w.nodes.length
    · simp [heq]
    · have hne : m.number - w.nodes.length ≠ 0 := by omega
      simp [hlt, heq, hne]

-- ---------------------------------------------------------------------------
-- Connections
-- ---------------------------------------------------------------------------

/-- A change of one connection is seen there, and nowhere else. -/
theorem connection_setConnection (c d : ConnectionRef) (f : Connection → Connection)
    (w : World L S) :
    (w.setConnection c f).connection d =
      if d = c ∧ c.number < w.connections.length then f (w.connection d) else w.connection d := by
  simp only [connection, setConnection, List.getD_eq_getElem?_getD, List.getElem?_modify]
  by_cases hd : d = c
  · subst hd
    by_cases hlt : d.number < w.connections.length <;> simp [hlt]
  · have hne : c.number ≠ d.number := fun h => hd (by cases c; cases d; exact congrArg _ h.symm)
    simp [hd, hne]

/-- A change that leaves the connection as it is changes nothing. -/
theorem setConnection_self {c : ConnectionRef} {f : Connection → Connection} {w : World L S}
    (h : f (w.connection c) = w.connection c) : w.setConnection c f = w := by
  rw [setConnection, modify_eq_self h]

/-- A new connection is seen at its place. -/
theorem connection_addConnection (conn : Connection) (d : ConnectionRef) (w : World L S) :
    (w.addConnection conn).2.connection d =
      if d.number = w.connections.length then conn else w.connection d := by
  simp only [connection, addConnection, List.getD_eq_getElem?_getD, List.getElem?_append]
  by_cases hlt : d.number < w.connections.length
  · simp [hlt, Nat.ne_of_lt hlt]
  · by_cases heq : d.number = w.connections.length
    · simp [heq]
    · have hne : d.number - w.connections.length ≠ 0 := by omega
      simp [hlt, heq, hne]

/-- There is one connection more. -/
theorem length_addConnection (conn : Connection) (w : World L S) :
    (w.addConnection conn).2.connections.length = w.connections.length + 1 :=
  List.length_append

/-- A connection that is changed right after it was added might as well be added in that form. -/
theorem setConnection_addConnection (conn conn' : Connection) (f : Connection → Connection)
    (w : World L S) :
    (w.addConnection conn).2.setConnection (w.addConnection conn').1 f =
      (w.addConnection (f conn)).2 := by
  simp only [addConnection, setConnection]
  rw [List.modify_eq_take_drop, List.take_left, List.drop_left, List.modifyHead_cons]

/-- A node owns the connections that bear its id. -/
theorem owns_iff {n : NodeRef} {c : ConnectionRef} {w : World L S} :
    w.owns n c = true ↔
      c.number < w.connections.length ∧ (w.connection c).nodeId = (w.node n).id := by
  rw [owns, Bool.and_eq_true, decide_eq_true_eq, decide_eq_true_eq]

-- ---------------------------------------------------------------------------
-- Registries
-- ---------------------------------------------------------------------------

/-- A change of one registry is seen there, and nowhere else. -/
theorem registry_setRegistry (r q : RegistryRef) (f : Registry L → Registry L) (w : World L S) :
    (w.setRegistry r f).registry q =
      if q = r ∧ r.number < w.registries.length then f (w.registry q) else w.registry q := by
  simp only [registry, setRegistry, List.getD_eq_getElem?_getD, List.getElem?_modify]
  by_cases hq : q = r
  · subst hq
    by_cases hlt : q.number < w.registries.length <;> simp [hlt]
  · have hne : r.number ≠ q.number := fun h => hq (by cases r; cases q; exact congrArg _ h.symm)
    simp [hq, hne]

/-- Registries that are not there do not change. -/
theorem setRegistry_of_length_le {r : RegistryRef} {w : World L S}
    (h : w.registries.length ≤ r.number) (f : Registry L → Registry L) : w.setRegistry r f = w := by
  rw [setRegistry, List.modify_eq_self h]

/-- There is nothing to see of a registry that there is not. -/
theorem registry_of_length_le {r : RegistryRef} {w : World L S}
    (h : w.registries.length ≤ r.number) : w.registry r = default := by
  rw [registry, List.getD_eq_getElem?_getD, List.getElem?_eq_none h, Option.getD_none]

/-- What holds of a registry that was not used yet, and of all that there are, holds of any. -/
theorem registry_of_forall {P : Registry L → Prop} {w : World L S} (hfresh : P default)
    (h : ∀ reg ∈ w.registries, P reg) (r : RegistryRef) : P (w.registry r) := by
  rw [registry, List.getD_eq_getElem?_getD]
  cases hget : w.registries[r.number]? with
  | none => exact hfresh
  | some reg => exact h reg (List.mem_of_getElem? hget)

/-- What a change leaves alone in the changed registry it leaves alone in all registries. -/
theorem registry_setRegistry_congr {α : Type} (look : Registry L → α)
    {f : Registry L → Registry L} (h : ∀ reg, look (f reg) = look reg) (r q : RegistryRef)
    (w : World L S) : look ((w.setRegistry r f).registry q) = look (w.registry q) := by
  rw [registry_setRegistry]
  split
  · exact h _
  · rfl

end Courier.World
