import Courier.Proofs.Frames
import Courier.Proofs.Worlds.Lifetimes

/-!
# Courier — whose connections are whose

A connection belongs to the node that has taken it up. Any other node is to be refused: it cannot
send on the connection, and it cannot close it. Nodes are told apart by their ids, and so this holds
of nodes of other ids, wherever they are. A node of the same id passes for the owner. No two nodes
in one registry are of the same id, but nodes of two registries may be, and a node and its
successor are.

* `owns_iff_of_began` — who passes for the owner of a connection;
* `Refused` — what becomes of the requests of a node that is refused;
* `refused_iff_other_id` — after any run, who is refused;
* `not_refused_namesake` — a node of another registry that is not.
-/

namespace Courier.World

variable {L S : Type}

/-- A connection that a node has taken up belongs to it by name. -/
theorem Sound.owns_of_began {w : World L S} (hs : w.Sound) {m : NodeRef} {c : ConnectionRef}
    (hbegan : .began m ∈ w.life c) : w.owns m c = true := by
  cases hs.standing c with
  | unknown closes life _ _ => exact absurd (life ▸ hbegan) not_mem_closings_of_began
  | listed n closes life _ _ owns _ _ =>
    have hm : m = n := hs.began_unique hbegan (by simp [life])
    exact hm ▸ owns
  | ended n before _ _ after life _ _ owns _ _ _ =>
    have hm : m = n := hs.began_unique hbegan (by simp [life])
    exact hm ▸ owns

/-- Those who have the id of the owner pass for the owner, and nobody else. -/
theorem Sound.owns_iff_of_began {w : World L S} (hs : w.Sound) {n m : NodeRef}
    {c : ConnectionRef} (hbegan : .began m ∈ w.life c) :
    w.owns n c = true ↔ (w.node n).id = (w.node m).id := by
  obtain ⟨hc, hid⟩ := owns_iff.mp (hs.owns_of_began hbegan)
  rw [owns_iff, hid]
  exact ⟨fun h => h.2.symm, fun h => ⟨hc, h.symm⟩⟩

/-- A node is refused on a connection: a send fails with the owner's name and its own, a close comes
to nothing, and neither leaves anything behind in the world. -/
structure Refused (env : Surroundings L S) (call : L → Event → World L S → World L S)
    (n : NodeRef) (c : ConnectionRef) (w : World L S) : Prop where
  send : ∀ payload, sendOn env call n payload c w =
    let conn := w.connection c
    (.error (.connectionFailed
      s!"connection {conn.id} belongs to node {conn.nodeId}, not {(w.node n).id}"), w)
  close : ∀ reason, closeConnection call n c reason w = w

/-- Who does not pass for the owner is refused. -/
theorem Refused.of_not_owns (env : Surroundings L S) (call : L → Event → World L S → World L S)
    {n : NodeRef} {c : ConnectionRef} {w : World L S} (h : w.owns n c = false) :
    Refused env call n c w where
  send payload := by
    unfold sendOn
    dsimp only
    rw [h]
    rfl
  close reason := by
    unfold closeConnection
    rw [h]
    rfl

variable {env : Surroundings L S} {may : Act L → World L S → Prop}
  {call : L → Event → World L S → World L S} {n : NodeRef} {c : ConnectionRef} {w : World L S}

/-- When the owner has closed a connection, it is closed, whatever listeners do about it. -/
theorem closeConnection_closes (hcall : Faithful env may call) (howns : w.owns n c = true)
    (reason : CloseReason) :
    ((closeConnection call n c reason w).connection c).closeReason ≠ none := by
  have htaken := closeReason_takeOut (n := n) reason (owns_iff.mp howns).1
  unfold closeConnection
  rw [howns, Bool.not_true, if_neg Bool.false_ne_true]
  dsimp only
  split
  · have htold := ((raise_story hcall n
      (.disconnected c (((w.takeOut n c reason).2.connection c).closeReason.getD reason))
      (w.takeOut n c reason).2).moves []).stays_closed htaken
    exact fun h => nomatch htold.symm.trans h
  · exact fun h => nomatch htaken.symm.trans h

/-- Who passes for the owner is not refused: it closes a connection that is open, and on one that is
closed it gets the answer that the owner would get. -/
theorem not_refused_of_owns (hcall : Faithful env may call) (howns : w.owns n c = true) :
    ¬ Refused env call n c w := by
  intro h
  cases hclosed : (w.connection c).closeReason with
  | none =>
    have hcloses := closeConnection_closes hcall howns .explicit
    rw [h.close, hclosed] at hcloses
    exact hcloses rfl
  | some reason =>
    have hne : (w.connection c).closeReason ≠ none := hclosed ▸ Option.some_ne_none reason
    have hsend := congrArg Prod.fst (h.send (.ping ⟨0⟩))
    unfold sendOn at hsend
    dsimp only at hsend
    rw [howns, send_of_closed hne] at hsend
    cases hsend

/-- **A connection obeys only its own node**, as far as ids tell nodes apart. After any run, those
who are refused on a connection are the nodes of other ids than that of the node that has taken it
up, in its registry or in another one. -/
theorem refused_iff_other_id (env : Surroundings L S) (depth : Nat) (acts : List (Act L))
    (registries : List (Registry L)) (outside : S) (n m : NodeRef) (c : ConnectionRef) :
    let w := (run env depth acts { start outside with registries }).2
    .began m ∈ w.life c →
      (Refused env (World.call env depth) n c w ↔ (w.node n).id ≠ (w.node m).id) := by
  intro w hbegan
  have hw : w.Sound := ((Settled.start registries outside).run env depth acts).sound
  have howns := hw.owns_iff_of_began (n := n) hbegan
  constructor
  · exact fun hrefused hid => not_refused_of_owns (call_faithful env depth) (howns.mpr hid) hrefused
  · exact fun hid => .of_not_owns env _ (Bool.eq_false_iff.mpr fun h => hid (howns.mp h))

/-- Two nodes of a registry, one of which has a connection. The other one is refused on it. -/
theorem refused_iff_other_id_sample :
    let hello : Envelope := .ofPayload (.handshake ⟨"bob", none, protocolVersion⟩)
    let env : Surroundings Unit Unit :=
      .plain (fun _ _ _ => []) ⟨0, ⟨Frame.ofEnvelope hello, [], .ended⟩, .unlimited⟩
    let acts : List (Act Unit) :=
      [.start ⟨0⟩ "alice" 0, .start ⟨0⟩ "carol" 0, .connectNode ⟨0⟩ (.localhost 7002)]
    let w := (run env 1 acts { start () with registries := [.fresh .default .clearNet] }).2
    .began ⟨0⟩ ∈ w.life ⟨0⟩ ∧ Refused env (World.call env 1) ⟨1⟩ ⟨0⟩ w ∧
      ¬ Refused env (World.call env 1) ⟨0⟩ ⟨0⟩ w := by
  intro hello env acts w
  have hbegan : .began ⟨0⟩ ∈ w.life ⟨0⟩ := by decide +kernel
  have hid : (w.node ⟨1⟩).id ≠ (w.node ⟨0⟩).id := by decide +kernel
  have hrefused (n : NodeRef) := refused_iff_other_id env 1 acts [.fresh .default .clearNet] () n
    ⟨0⟩ ⟨0⟩ hbegan
  exact ⟨hbegan, (hrefused ⟨1⟩).mpr hid, fun h => (hrefused ⟨0⟩).mp h rfl⟩

/-- Ids do not tell all nodes apart: a node of another registry that has the id of the owner writes
to the connection, and closes it while the owner still has it in its table and nobody is told. -/
theorem not_refused_namesake :
    let hello : Envelope := .ofPayload (.handshake ⟨"bob", none, protocolVersion⟩)
    let env : Surroundings Unit Unit :=
      .plain (fun _ _ _ => []) ⟨0, ⟨Frame.ofEnvelope hello, [], .ended⟩, .unlimited⟩
    let acts : List (Act Unit) := [.listenToNodes ⟨0⟩ (), .start ⟨0⟩ "alice" 0,
      .start ⟨1⟩ "alice" 0, .connectNode ⟨0⟩ (.localhost 7002)]
    let w := (run env 1 acts
      { start () with registries := [.fresh .default .clearNet, .fresh .default .clearNet] }).2
    let sent := sendOn env (World.call env 1) ⟨1⟩ (.ping ⟨1⟩) ⟨0⟩ w
    let closed := closeConnection (World.call env 1) ⟨1⟩ ⟨0⟩ .explicit w
    ¬ (∀ n m : NodeRef, n ≠ m → ∀ c, .began m ∈ w.life c →
        Refused env (World.call env 1) n c w) ∧
      .began ⟨0⟩ ∈ w.life ⟨0⟩ ∧ (w.node ⟨0⟩).registry ≠ (w.node ⟨1⟩).registry ∧
      sent.1.toOption = some ⟨0⟩ ∧
      (w.connection ⟨0⟩).socket.stream.sink.written.length <
        (sent.2.connection ⟨0⟩).socket.stream.sink.written.length ∧
      (w.connection ⟨0⟩).closeReason = none ∧
      (closed.connection ⟨0⟩).closeReason = some .explicit ∧
      ⟨0⟩ ∈ (closed.node ⟨0⟩).table.toList ∧ closed.calls = w.calls := by
  intro hello env acts w sent closed
  have hbegan : .began ⟨0⟩ ∈ w.life ⟨0⟩ := by decide +kernel
  have hopen : (w.connection ⟨0⟩).closeReason = none := by decide +kernel
  have hclosed : (closed.connection ⟨0⟩).closeReason = some .explicit := by decide +kernel
  refine ⟨fun h => ?_, hbegan, by decide +kernel, by decide +kernel, by decide +kernel, hopen,
    hclosed, by decide +kernel, by decide +kernel⟩
  have hrefused := h ⟨1⟩ ⟨0⟩ (by decide) ⟨0⟩ hbegan
  have hsame : closed = w := hrefused.close .explicit
  rw [hsame, hopen] at hclosed
  cases hclosed

end Courier.World
