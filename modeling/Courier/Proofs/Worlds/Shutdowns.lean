import Courier.Proofs.Worlds.Lifecycle
import Courier.Proofs.Worlds.Ordered

/-!
# Courier — what the answer to a shutdown says

A shutdown answers that it has come to its end. It says so, too, when another shutdown of the same
node is going on and may have closed nothing yet; in any other case the node is down. A registry passes
this on: when it answers that its shutdown is complete, its nodes are down, but for those that were
being shut down when their turn came.

* `IsDown` — what a shutdown is to achieve;
* `Ledger` — registries list nodes that are there, and nobody once they were shut down;
* `Fit`, `Walk.fit` — what holds at every moment;
* `shutDownNode_terminated`, `shutDownRegistry_terminated` — what an answer comes to;
* `down_or_being_shut_down` — all this at every moment of a run.
-/

namespace Courier.World

variable {L S : Type}

/-- The node was shut down. -/
structure IsDown (n : NodeRef) (w : World L S) : Prop where
  state : (w.node n).state = .terminated
  server : (w.node n).server = none
  closed : ∀ c, .began n ∈ w.life c → (w.connection c).closeReason ≠ none

-- ---------------------------------------------------------------------------
-- What registries list
-- ---------------------------------------------------------------------------

/-- Registries list nodes that are there. One whose shutdown is over lists nobody. -/
structure Ledger (w : World L S) : Prop where
  created : ∀ r id n, (id, n) ∈ (w.registry r).nodes → n.number < w.nodes.length
  emptied : ∀ r, (w.registry r).outcome ≠ none →
    (w.registry r).isShutDown = true ∧ (w.registry r).nodes = []

/-- Registries list no more than before, and none comes to the end of its shutdown. -/
def ListsNoMore (w w' : World L S) : Prop :=
  ∀ r, (w'.registry r).nodes ⊆ (w.registry r).nodes ∧
    (w'.registry r).outcome = (w.registry r).outcome

theorem ListsNoMore.of_eq {w w' : World L S} (h : w'.registries = w.registries) :
    ListsNoMore w w' := fun r => by
  rw [World.registry, World.registry, h]
  exact ⟨fun _ => id, rfl⟩

theorem ListsNoMore.setRegistry {w : World L S} (r : RegistryRef) {f : Registry L → Registry L}
    (hnodes : ∀ reg, (f reg).nodes ⊆ reg.nodes) (houtcome : ∀ reg, (f reg).outcome = reg.outcome) :
    ListsNoMore w (w.setRegistry r f) := fun q => by
  rw [registry_setRegistry]
  split
  · exact ⟨hnodes _, houtcome _⟩
  · exact ⟨fun _ => id, rfl⟩

theorem Ledger.listsNoMore {w w' : World L S} (hw : Ledger w) (hlasting : Lasting w w')
    (h : ListsNoMore w w') : Ledger w' where
  created r id n hmem := Nat.lt_of_lt_of_le (hw.created r id n ((h r).1 hmem)) hlasting.nodes
  emptied r hsome := by
    rw [(h r).2] at hsome
    obtain ⟨hshut, hempty⟩ := hw.emptied r hsome
    exact ⟨(hlasting.rules r).shutDown hshut, List.subset_nil.mp (hempty ▸ (h r).1)⟩

variable {env : Surroundings L S} {may : Act L → World L S → Prop}
  {call : L → Event → World L S → World L S} {n : NodeRef}

/-- When the shutdown of a registry is over, it lists nobody. -/
theorem Ledger.emptyRegistry {w : World L S} (hw : Ledger w) {r : RegistryRef}
    (hshut : r.number < w.registries.length → (w.registry r).isShutDown = true)
    (completed : Bool) : Ledger (w.emptyRegistry r completed) := by
  unfold World.emptyRegistry
  constructor
  · intro q id n hmem
    rw [registry_setRegistry] at hmem
    split at hmem
    · exact absurd hmem List.not_mem_nil
    · exact hw.created q id n hmem
  · intro q hsome
    rw [registry_setRegistry] at hsome ⊢
    split
    · rename_i hq
      exact ⟨hq.1 ▸ hshut hq.2, rfl⟩
    · rename_i hq
      rw [if_neg hq] at hsome
      exact hw.emptied q hsome

/-- A node that joins a registry is there, and the registry is not shut down. -/
theorem Ledger.join {w : World L S} (hw : Ledger w) {r : RegistryRef} {id : String}
    (hopen : (w.registry r).isShutDown = false) : Ledger (w.createNode r id).2 := by
  constructor
  · intro q id' n hmem
    rw [entries_createNode] at hmem
    rw [length_createNode]
    rcases List.mem_append.mp hmem with hold | hnew
    · exact Nat.lt_succ_of_lt (hw.created q id' n hold)
    · split at hnew
      · obtain ⟨-, rfl⟩ := Prod.mk.inj (List.mem_singleton.mp hnew)
        exact Nat.lt_succ_self _
      · exact absurd hnew List.not_mem_nil
  · intro q hsome
    have houtcome : ((w.createNode r id).2.registry q).outcome = (w.registry q).outcome := by
      refine registry_setRegistry_congr (·.outcome) ?_ r q _
      exact fun _ => rfl
    obtain ⟨hshut, hempty⟩ := hw.emptied q (houtcome ▸ hsome)
    have hne : ¬ (q = r ∧ r.number < w.registries.length) := by
      rintro ⟨rfl, -⟩
      exact nomatch hopen.symm.trans hshut
    rw [isShutDown_createNode, entries_createNode, if_neg hne, hempty]
    exact ⟨hshut, rfl⟩

theorem Change.ledger {w w' : World L S} (h : Change env may w w') (hw : Ledger w) :
    Ledger w' := by
  have hlasting : Lasting w w' := (Step.change h).lasting
  rcases h.rosters with hsame | ⟨r, -, rfl⟩ | ⟨r, completed, -, hshut, rfl⟩
  · exact hw.listsNoMore hlasting fun r => ⟨(hsame r).1 ▸ fun _ => id, (hsame r).2.2⟩
  · exact hw.listsNoMore hlasting (.setRegistry r (fun _ _ => id) fun _ => rfl)
  · exact hw.emptyRegistry hshut completed

theorem Step.ledger {w w' : World L S} (h : Step env may w w') (hw : Ledger w) : Ledger w' := by
  have hlasting : Lasting w w' := h.lasting
  cases h with
  | change h => exact h.ledger hw
  | @leave r n hthere =>
    have hdropped : ListsNoMore w (w.dropNode r (w.node n).id) :=
      .setRegistry r (fun _ => List.filter_sublist.subset) fun _ => rfl
    exact hw.listsNoMore hlasting hdropped
  | @join r id hopen hnew =>
    exact (hw.join hopen).listsNoMore (.record _ (w.createNode r id).2) (.of_eq rfl)
  | @stop n hn hstate hstop =>
    obtain ⟨s, hs⟩ := stop_eq env n w
    rw [hs] at hlasting ⊢
    exact hw.listsNoMore hlasting (.of_eq rfl)
  | _ => exact hw.listsNoMore hlasting (.of_eq rfl)

theorem Walk.ledger {w w' : World L S} (h : Walk env may w w') (hw : Ledger w) : Ledger w' := by
  induction h with
  | refl => exact hw
  | tail _ hlast ih => exact hlast.1.ledger ih

/-- A program begins with registries that have not been used yet. -/
theorem Ledger.start {registries : List (Registry L)}
    (h : ∀ reg ∈ registries, reg.nodes = [] ∧ reg.outcome = none) (outside : S) :
    Ledger ({ World.start outside with registries } : World L S) := by
  let w : World L S := { World.start outside with registries }
  have hfresh (r : RegistryRef) : (w.registry r).nodes = [] ∧ (w.registry r).outcome = none :=
    registry_of_forall (w := w) (P := fun reg => reg.nodes = [] ∧ reg.outcome = none) ⟨rfl, rfl⟩ h r
  exact ⟨fun r id n hmem => absurd ((hfresh r).1 ▸ hmem) List.not_mem_nil,
    fun r hsome => absurd (hfresh r).2 hsome⟩

-- ---------------------------------------------------------------------------
-- Every moment
-- ---------------------------------------------------------------------------

/-- What holds at every moment, also while listeners are called. -/
structure Fit (w : World L S) : Prop where
  sound : w.Sound
  coherent : ∀ n, Coherent n w
  ledger : Ledger w

theorem Walk.fit {w w' : World L S} (h : Walk env may w w') (hw : Fit w) : Fit w' :=
  ⟨h.sound hw.sound, fun n => (h.coherent (hw.coherent n)).1, h.ledger hw.ledger⟩

theorem Fit.start {registries : List (Registry L)}
    (h : ∀ reg ∈ registries, reg.nodes = [] ∧ reg.outcome = none) (outside : S) :
    Fit ({ World.start outside with registries } : World L S) :=
  ⟨(Settled.start registries outside).sound, fun _ => .start registries outside, .start h outside⟩

theorem Fit.story {w w' : World L S} (hw : Fit w) (h : Story env may ⟨[], w⟩ w') : Fit w' :=
  Walk.fit (h.passage hw.sound).walk hw

/-- A node that has terminated is down. -/
theorem Fit.isDown {w : World L S} (hw : Fit w) (hover : (w.node n).state = .terminated) :
    IsDown n w where
  state := hover
  server := (hw.coherent n).phase.server fun hrunning => nomatch hover.symm.trans hrunning
  closed _ hbegan := (hw.coherent n).closed hw.sound hover hbegan

-- ---------------------------------------------------------------------------
-- What an answer comes to
-- ---------------------------------------------------------------------------

/-- A shutdown answers, unless the server does not stop. -/
theorem shutDownNode_answers (n : NodeRef) (w : World L S) :
    (shutDownNode env call n w).1 = some true ∨
      (shutDownNode env call n w).1 = none ∧ Stuck env n w := by
  have hend := shutDownNode_end env call n w
  generalize shutDownNode env call n w = result at hend
  cases hend with
  | already hstate => exact .inl rfl
  | nobody hle => exact .inl rfl
  | stuck hstate hstop => exact .inr ⟨rfl, stopServer_eq_false_iff.mp hstop⟩
  | shut hn hstate hstop => exact .inl rfl

variable (hcall : Faithful env may call)

include hcall in
/-- A node that was shut down has terminated, if it was not being shut down already. -/
theorem shutDownNode_terminated {w : World L S} (hw : Fit w) (hn : n.number < w.nodes.length)
    (h : (shutDownNode env call n w).1 = some true) :
    ((shutDownNode env call n w).2.node n).state = .terminated ∨
      (w.node n).state = .stopping ∧ (shutDownNode env call n w).2 = w := by
  by_cases hover : (w.node n).IsOver
  · rw [shutDownNode_of_isOver hover]
    exact hover.symm.imp_right fun hstopping => ⟨hstopping, rfl⟩
  by_cases hstuck : Stuck env n w
  · -- such a shutdown does not answer
    have hend := shutDownNode_end env call n w
    generalize shutDownNode env call n w = result at hend h
    cases hend with
    | already hstate => exact absurd hstate hover
    | nobody hle => exact absurd hn (Nat.not_lt_of_le hle)
    | stuck => cases h
    | shut _ _ hstop => exact nomatch hstop.symm.trans (stopServer_eq_false_iff.mpr hstuck)
  · exact .inl (((hw.coherent n).shutsDown hcall hw.sound).first hn hover hstuck).2.1

theorem shutDownAll_append (shut : NodeRef → World L S → Option Bool × World L S)
    (before after : List NodeRef) (w : World L S) :
    shutDownAll shut (before ++ after) w =
      ((shutDownAll shut before w).1 && (shutDownAll shut after (shutDownAll shut before w).2).1,
        (shutDownAll shut after (shutDownAll shut before w).2).2) := by
  unfold shutDownAll
  rw [List.foldl_append]
  exact foldl_shutDown shut after _ _

/-- The moment in the shutdown of a registry when these nodes have had their turn. -/
def turnAfter (env : Surroundings L S) (call : L → Event → World L S → World L S)
    (r : RegistryRef) (before : List NodeRef) (w : World L S) : World L S :=
  (shutDownAll (shutDownNode env call) before (w.closeRegistry r)).2

include hcall in
/-- When all nodes of a registry were shut down, each has terminated that was not being shut down
when it was its turn. -/
theorem shutDownRegistry_terminated {r : RegistryRef} {w : World L S} (hw : Fit w)
    (hmay : may (.shutDown r) w) (h : (shutDownRegistry env call r w).1 = true)
    {before after : List NodeRef} (hnodes : (w.registry r).nodes.map (·.2) = before ++ n :: after) :
    ((shutDownRegistry env call r w).2.node n).state = .terminated ∨
      ((turnAfter env call r before w).node n).state = .stopping ∧
        ((shutDownRegistry env call r w).2.node n).state = .stopping := by
  unfold shutDownRegistry shutDownRegistryBy at h ⊢
  dsimp only at h ⊢
  split at h
  · -- a registry that answers so once more lists nobody
    have hsome : (w.registry r).outcome ≠ none := fun hnone => by
      rw [hnone] at h
      cases h
    rw [(hw.ledger.emptied r hsome).2] at hnodes
    exact absurd hnodes.symm (List.append_ne_nil_of_right_ne_nil _ (List.cons_ne_nil _ _))
  · rename_i hopen
    rw [if_neg hopen]
    dsimp only at h ⊢
    -- the nodes before, the node itself, and those after it
    rw [hnodes, shutDownAll_append, shutDownAll_cons] at h ⊢
    dsimp only at h ⊢
    let closed := w.closeRegistry r
    let u := turnAfter env call r before w
    let u' := (shutDownNode env call n u).2
    have hanswer : (shutDownNode env call n u).1 = some true := by
      have hgetD := (Bool.and_eq_true_iff.mp (Bool.and_eq_true_iff.mp h).2).1
      cases hcases : (shutDownNode env call n u).1 with
      | none => exact nomatch (congrArg (·.getD false) hcases).symm.trans hgetD
      | some b => exact congrArg some ((congrArg (·.getD false) hcases).symm.trans hgetD)
    have hshut (n : NodeRef) (w : World L S) :
        Story env may ⟨[], w⟩ (shutDownNode env call n w).2 := shutDownNode_story hcall n w
    have hbefore : Story env may ⟨[], w⟩ u :=
      .first (Change.closeRegistry w hmay).story (shutDownAll_story hshut before closed)
    have hn : n.number < u.nodes.length := by
      have hlisted : n ∈ (w.registry r).nodes.map (·.2) := by simp [hnodes]
      obtain ⟨⟨id, m⟩, hmem, rfl⟩ := List.mem_map.mp hlisted
      exact Nat.lt_of_lt_of_le (hw.ledger.created r id m hmem) hbefore.lasting.nodes
    have hu : Fit u := hw.story hbefore
    have hafter := (shutDownAll_story hshut after u').passage (hu.story (hshut n u)).sound
    rcases shutDownNode_terminated hcall hu hn hanswer with hover | ⟨hstopping, heq⟩
    · exact .inl ((hafter.walk.stays hover).state.trans hover)
    · refine .inr ⟨hstopping, hafter.stopping n ?_⟩
      exact (congrArg (fun w : World L S => (w.node n).state) heq).trans hstopping

/-- **What the answer to a shutdown says**, at any moment of what a program does, also while a
listener is called: that the node is down, or that it is being shut down already. There is one
unless the server does not stop. And if a registry answers that its shutdown is complete, each node
that it has listed is down, or was being shut down already when it was its turn. -/
theorem down_or_being_shut_down (env : Surroundings L S) (depth : Nat)
    (registries : List (Registry L))
    (hfresh : ∀ reg ∈ registries, reg.nodes = [] ∧ reg.outcome = none) (outside : S)
    (w : World L S)
    (hw : Walk env (fun _ _ => True) { start outside with registries } w) :
    let call := World.call env depth
    (∀ n, n.number < w.nodes.length →
      let result := shutDownNode env call n w
      (result.1 = some true ∨ result.1 = none ∧ Stuck env n w) ∧
        (result.1 = some true →
          IsDown n result.2 ∨ (w.node n).state = .stopping ∧ result.2 = w)) ∧
    ∀ r,
      let result := shutDownRegistry env call r w
      result.1 = true →
        ∀ before n after, (w.registry r).nodes.map (·.2) = before ++ n :: after →
          IsDown n result.2 ∨ ((turnAfter env call r before w).node n).state = .stopping ∧
            (result.2.node n).state = .stopping := by
  intro call
  have hcall : Faithful env (fun _ _ => True) call := call_faithful env depth
  have hfit : Fit w := Walk.fit hw (.start hfresh outside)
  constructor
  · intro n hn result
    have hdown : Fit result.2 := hfit.story (shutDownNode_story hcall n w)
    exact ⟨shutDownNode_answers n w, fun h =>
      (shutDownNode_terminated hcall hfit hn h).imp_left hdown.isDown⟩
  · intro r result h before n after hnodes
    have hdown : Fit result.2 := hfit.story (shutDownRegistry_story hcall trivial)
    exact (shutDownRegistry_terminated hcall hfit trivial h hnodes).imp_left hdown.isDown

/-- Two nodes of a registry, one of which has a connection. -/
theorem down_or_being_shut_down_sample :
    let hello : Envelope := .ofPayload (.handshake ⟨"c", none, protocolVersion⟩)
    let peer : StreamEnd :=
      ⟨0, ⟨Bytes.bigEndian Frame.headerSize hello.size ++ hello.toBytes, [], .ended⟩, .unlimited⟩
    let env : Surroundings Unit Unit := .plain (fun _ _ _ => []) peer
    let acts : List (Act Unit) :=
      [.start ⟨0⟩ "a" 0, .start ⟨0⟩ "b" 0, .connectNode ⟨1⟩ (.localhost 7003)]
    let w := (run env 1 acts { start () with registries := [.fresh .default .clearNet] }).2
    (w.connection ⟨0⟩).closeReason = none ∧
      IsDown ⟨1⟩ (shutDownNode env (World.call env 1) ⟨1⟩ w).2 ∧
      (shutDownRegistry env (World.call env 1) ⟨0⟩ w).1 = true ∧
      IsDown ⟨1⟩ (shutDownRegistry env (World.call env 1) ⟨0⟩ w).2 := by
  intro hello peer env acts w
  have hfresh : ∀ reg ∈ [(Registry.fresh .default .clearNet : Registry Unit)],
      reg.nodes = [] ∧ reg.outcome = none := by
    intro reg hreg
    obtain rfl := List.mem_singleton.mp hreg
    exact ⟨rfl, rfl⟩
  have hwalk := ((run_story_free env 1 acts
    { start () with registries := [.fresh .default .clearNet] }).passage
      (Settled.start _ ()).sound).walk
  obtain ⟨hnode, hregistry⟩ :=
    down_or_being_shut_down env 1 [.fresh .default .clearNet] hfresh () w hwalk
  have hanswer : (shutDownNode env (World.call env 1) ⟨1⟩ w).1 = some true := by decide +kernel
  have hcomplete : (shutDownRegistry env (World.call env 1) ⟨0⟩ w).1 = true := by decide +kernel
  have hnodes : (w.registry ⟨0⟩).nodes.map (·.2) = [⟨0⟩] ++ ⟨1⟩ :: [] := by decide +kernel
  have hrunning : (w.node ⟨1⟩).state ≠ .stopping := by decide +kernel
  have hturn : ((turnAfter env (World.call env 1) ⟨0⟩ [⟨0⟩] w).node ⟨1⟩).state ≠ .stopping := by
    decide +kernel
  refine ⟨by decide +kernel, ?_, hcomplete, ?_⟩
  · exact ((hnode ⟨1⟩ (by decide +kernel)).2 hanswer).resolve_right fun h => hrunning h.1
  · exact (hregistry ⟨0⟩ hcomplete [⟨0⟩] ⟨1⟩ [] hnodes).resolve_right fun h => hturn h.1

/-- A shutdown may answer while all is still there. The server of this node does not stop. The
shutdown of its registry says that it is not complete, and a second one, of the node, says that it
is. The registry says so, too, where the node comes first. -/
theorem not_down_when_answered :
    let hello : Envelope := .ofPayload (.handshake ⟨"c", none, protocolVersion⟩)
    let peer : StreamEnd :=
      ⟨0, ⟨Bytes.bigEndian Frame.headerSize hello.size ++ hello.toBytes, [], .ended⟩, .unlimited⟩
    let env : Surroundings Unit Unit :=
      { Surroundings.plain (fun _ _ _ => []) peer with stopServer := fun _ s => (false, s) }
    let n : NodeRef := ⟨0⟩
    let acts : List (Act Unit) := [.start ⟨0⟩ "b" 0, .connectNode n (.localhost 7003)]
    let w := (run env 1 acts { start () with registries := [.fresh .default .clearNet] }).2
    let first := shutDownRegistry env (World.call env 1) ⟨0⟩ w
    let second := shutDownNode env (World.call env 1) n first.2
    let alone := shutDownNode env (World.call env 1) n w
    let all := shutDownRegistry env (World.call env 1) ⟨0⟩ alone.2
    (first.1 = false ∧ second.1 = some true ∧ ¬ IsDown n second.2) ∧
      alone.1 = none ∧ (alone.2.registry ⟨0⟩).nodes = [("b", n)] ∧ all.1 = true ∧
        ¬ IsDown n all.2 ∧ (all.2.connection ⟨0⟩).closeReason = none := by
  intro hello peer env n acts w first second alone all
  have hsecond : (second.2.node n).state = .stopping := by decide +kernel
  have hall : (all.2.node n).state = .stopping := by decide +kernel
  refine ⟨⟨by decide +kernel, by decide +kernel, fun h => ?_⟩, by decide +kernel,
    by decide +kernel, by decide +kernel, fun h => ?_, by decide +kernel⟩
  · exact nomatch hsecond.symm.trans h.state
  · exact nomatch hall.symm.trans h.state

end Courier.World
