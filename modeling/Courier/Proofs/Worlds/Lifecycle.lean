import Courier.Proofs.Worlds.Walks

/-!
# Courier — the life of a node

A node is new, runs, and has terminated, in this order; it is stopping only as long as it is shut
down, which never ends where a server does not stop. State, addresses, table and listeners go
together at every moment: the address is there from when the node runs, the server as long as it
runs, and nothing is in the table of a node that is new or has terminated. When it has terminated,
those who listened to it at that moment have been told, and nobody is told again.

* `Coherent` — what goes with the state of a node;
* `Onward` — what is different later;
* `Lives.coherent`, `Walk.coherent` — one step, and any number of them;
* `Starts`, `ShutsDown` — what starting a node and shutting it down come to;
* `Gone` — what is left of a node that has terminated;
* `node_lifecycle` — all this after any run.
-/

namespace Courier

variable {L S : Type}

/-- How far along its life a node is in this state. -/
def NodeState.rank : NodeState → Nat
  | new => 0
  | starting => 1
  | running => 2
  | stopping => 3
  | terminated => 4

/-- The last state is the terminated one. -/
theorem NodeState.rank_le (s : NodeState) : s.rank ≤ NodeState.terminated.rank := by
  cases s <;> decide

/-- Nothing comes after it. -/
theorem NodeState.eq_terminated_of_rank_le {s : NodeState}
    (h : NodeState.terminated.rank ≤ s.rank) : s = .terminated := by
  cases s <;> first | rfl | exact absurd h (by decide)

/-- Before it a node stops. -/
theorem NodeState.rank_le_stopping {s : NodeState} (h : s ≠ .terminated) :
    s.rank ≤ NodeState.stopping.rank := by
  cases s <;> first | decide | exact absurd rfl h

/-- The addresses that go with the state of a node. -/
structure Phase.Coherent (p : Phase) : Prop where
  starting : p.state ≠ .starting
  new : p.state = .new → p.address = none
  running : p.state = .running → ∃ a, p.address = some a ∧ p.server = some a
  server : p.state ≠ .running → p.server = none

namespace World

/-- What goes with the state of a node. -/
structure Coherent (n : NodeRef) (w : World L S) : Prop where
  phase : (w.node n).phase.Coherent
  table : (w.node n).state = .new ∨ (w.node n).state = .terminated → (w.node n).table.toList = []
  parted : (w.node n).state ≠ .terminated → w.parted n = []

/-- What is different later: the node may have come further. -/
structure Onward (n : NodeRef) (w w' : World L S) : Prop where
  state : (w.node n).state.rank ≤ (w'.node n).state.rank
  address : ∀ a, (w.node n).address = some a → (w'.node n).address = some a
  parted : (w.node n).state = .terminated → w'.parted n = w.parted n

variable {n : NodeRef}

theorem Onward.refl (w : World L S) : Onward n w w :=
  ⟨Nat.le_refl _, fun _ => id, fun _ => rfl⟩

/-- A node that has terminated stays so. -/
theorem Onward.terminated {w w' : World L S} (h : Onward n w w')
    (hover : (w.node n).state = .terminated) : (w'.node n).state = .terminated :=
  NodeState.eq_terminated_of_rank_le (hover ▸ h.state)

theorem Onward.trans {w w' w'' : World L S} (h : Onward n w w') (h' : Onward n w' w'') :
    Onward n w w'' :=
  ⟨Nat.le_trans h.state h'.state, fun a ha => h'.address a (h.address a ha),
    fun hover => (h'.parted (h.terminated hover)).trans (h.parted hover)⟩

-- ---------------------------------------------------------------------------
-- Step by step
-- ---------------------------------------------------------------------------

/-- Nothing is in a table in which there was nothing before. -/
theorem Aside.toList_eq_nil {w w' : World L S} (h : Aside n w w')
    (hempty : (w.node n).table.toList = []) : (w'.node n).table.toList = [] := by
  rw [ConnectionTable.toList_eq_nil_iff] at hempty ⊢
  exact fun c => Bool.eq_false_iff.mpr fun hc => Bool.eq_false_iff.mp (hempty c) (h.table c hc)

/-- What leaves a node as it is leaves its account in order. -/
theorem Stays.coherent {w w' : World L S} (h : Stays n w w') (hw : Coherent n w) :
    Coherent n w' ∧ Onward n w w' := by
  have haddress : (w'.node n).address = (w.node n).address := congrArg Phase.address h.phase
  refine ⟨⟨h.phase ▸ hw.phase, fun hstate => ?_, fun hstate => ?_⟩, ?_⟩
  · exact h.toAside.toList_eq_nil (hw.table (h.state ▸ hstate))
  · exact h.parted.trans (hw.parted (h.state ▸ hstate))
  · exact ⟨Nat.le_of_eq (by rw [h.state]), fun a ha => haddress.trans ha, fun _ => h.parted⟩

/-- A node that begins to stop has no server any more. -/
theorem Stops.coherent {w w' : World L S} (h : Stops n w w') (hw : Coherent n w) :
    Coherent n w' ∧ Onward n w w' := by
  have hstate : (w'.node n).state = .stopping := congrArg Phase.state h.phase
  have haddress : (w'.node n).address = (w.node n).address := congrArg Phase.address h.phase
  have halive : (w.node n).state ≠ .terminated := fun hover => h.alive (.inr hover)
  refine ⟨⟨?_, fun hearly => ?_, fun _ => h.parted.trans (hw.parted halive)⟩, ?_⟩
  · rw [h.phase]
    exact ⟨fun h => (nomatch h), fun h => (nomatch h), fun h => (nomatch h), fun _ => rfl⟩
  · rw [hstate] at hearly
    exact hearly.elim (fun h => nomatch h) fun h => nomatch h
  · exact ⟨hstate ▸ NodeState.rank_le_stopping halive, fun a ha => haddress.trans ha,
      fun hover => absurd hover halive⟩

/-- A node that has closed its connections has come to its end, and tells of it. -/
theorem Ends.coherent {w w' : World L S} (h : Ends n w w') (hw : Coherent n w) :
    Coherent n w' ∧ Onward n w w' := by
  have hstate : (w'.node n).state = .terminated := congrArg Phase.state h.phase
  have haddress : (w'.node n).address = (w.node n).address := congrArg Phase.address h.phase
  have hserver : (w.node n).server = none :=
    hw.phase.server fun hrunning => nomatch h.stopping.symm.trans hrunning
  refine ⟨⟨?_, fun _ => ?_, fun halive => absurd hstate halive⟩, ?_⟩
  · rw [h.phase]
    exact ⟨fun h => (nomatch h), fun h => (nomatch h), fun h => (nomatch h), fun _ => hserver⟩
  · rw [h.table]
    exact ConnectionTable.toList_eq_nil_iff.mpr h.empty
  · exact ⟨hstate ▸ NodeState.rank_le _, fun a ha => haddress.trans ha,
      fun hover => nomatch h.stopping.symm.trans hover⟩

variable {env : Surroundings L S} {may : Act L → World L S → Prop}

/-- So it is whatever happens to the node in a step. -/
theorem Goes.coherent {w w' : World L S} (h : Goes env n w w') (hw : Coherent n w) :
    Coherent n w' ∧ Onward n w w' := by
  have hearly (h : (w.node n).state = .new ∨ (w.node n).state = .starting) :
      (w.node n).state = .new := h.resolve_right hw.phase.starting
  cases h with
  | stays h => exact h.coherent hw
  | connects alive phase parted =>
    -- it is not seen as starting, so it runs
    have hrunning : (w.node n).state = .running := alive.resolve_left hw.phase.starting
    have hstate : (w'.node n).state = .running := (congrArg Phase.state phase).trans hrunning
    have haddress : (w'.node n).address = (w.node n).address := congrArg Phase.address phase
    refine ⟨⟨phase ▸ hw.phase, fun h => ?_, fun _ => parted.trans (hw.parted ?_)⟩, ?_⟩
    · rw [hstate] at h
      exact h.elim (fun h => nomatch h) fun h => nomatch h
    · exact fun h => nomatch hrunning.symm.trans h
    · exact ⟨Nat.le_of_eq (by rw [hstate, hrunning]), fun a ha => haddress.trans ha,
        fun _ => parted⟩
  | starts early a phase rest =>
    -- a new node has no address that could change
    have hnew := hearly early
    have hstate : (w'.node n).state = .running := congrArg Phase.state phase
    refine ⟨⟨?_, fun h => ?_, fun _ => rest.parted.trans (hw.parted ?_)⟩, ?_⟩
    · rw [phase]
      exact ⟨fun h => (nomatch h), fun h => (nomatch h), fun _ => ⟨a, rfl, rfl⟩,
        fun h => absurd rfl h⟩
    · rw [hstate] at h
      exact h.elim (fun h => nomatch h) fun h => nomatch h
    · exact fun h => nomatch hnew.symm.trans h
    · refine ⟨by rw [hstate, hnew]; decide, fun b hb => ?_, fun _ => rest.parted⟩
      have hnone : (w.node n).address = none := hw.phase.new hnew
      exact nomatch hnone.symm.trans hb
  | fails early phase rest =>
    have hnew := hearly early
    have hstate : (w'.node n).state = .new := congrArg Phase.state phase
    have haddress : (w'.node n).address = (w.node n).address := congrArg Phase.address phase
    have hserver : (w.node n).server = none :=
      hw.phase.server fun hrunning => nomatch hnew.symm.trans hrunning
    refine ⟨⟨?_, fun _ => rest.toList_eq_nil (hw.table (.inl hnew)), fun _ =>
      rest.parted.trans (hw.parted ?_)⟩, ?_⟩
    · rw [phase]
      exact ⟨fun h => (nomatch h), fun _ => hw.phase.new hnew, fun h => (nomatch h),
        fun _ => hserver⟩
    · exact fun h => nomatch hnew.symm.trans h
    · exact ⟨Nat.le_of_eq (by rw [hstate, hnew]), fun a ha => haddress.trans ha,
        fun _ => rest.parted⟩
  | sticks h _ => exact h.coherent hw

/-- **State, addresses, table and listeners go together**, whatever happens to the node. -/
theorem Lives.coherent {w w' : World L S} (h : Lives env n w w') (hw : Coherent n w) :
    Coherent n w' ∧ Onward n w w' := by
  cases h with
  | goes h => exact h.coherent hw
  | stops h => exact h.coherent hw
  | ends h => exact h.coherent hw

theorem Walk.coherent {w w' : World L S} (h : Walk env may w w') (hw : Coherent n w) :
    Coherent n w' ∧ Onward n w w' := by
  -- the invariant is needed for each step, and what only grows adds up
  induction h with
  | refl => exact ⟨hw, .refl w⟩
  | tail _ hlast ih =>
    obtain ⟨hw', honward⟩ := ih
    obtain ⟨hw'', honward'⟩ := (hlast.2 n).coherent hw'
    exact ⟨hw'', honward.trans honward'⟩

/-- A program begins without nodes. -/
theorem Coherent.start (registries : List (Registry L)) (outside : S) :
    Coherent n ({ World.start outside with registries } : World L S) := by
  have hnode : ({ World.start outside with registries } : World L S).node n = default :=
    node_of_length_le (Nat.zero_le _)
  refine ⟨?_, fun _ => ?_, fun _ => rfl⟩
  · rw [hnode]
    exact ⟨fun h => (nomatch h), fun _ => rfl, fun h => (nomatch h), fun _ => rfl⟩
  · rw [hnode]
    rfl

-- ---------------------------------------------------------------------------
-- Starting, shutting down, and what comes after
-- ---------------------------------------------------------------------------

variable (env)

/-- What starting the node comes to. Only a new node binds its server, and where that fails nothing
has become of it. -/
structure Starts (n : NodeRef) (w : World L S) : Prop where
  again : (w.node n).state = .running → ∀ port, startNode env n port w = (.ok (), w)
  late : (w.node n).IsOver → ∀ port, startNode env n port w =
    (.error (.notInitialized s!"{(w.node n).id} has been shut down"), w)
  binds : (w.node n).state = .new → ∀ port a s,
    env.bind (w.node n).registry (w.node n).id port w.outside = (.ok a, s) →
      startNode env n port w =
        (.ok (), World.setNode n (fun node =>
          { node with server := some a, address := some a, state := .running })
          { w with outside := s })
  fails : (w.node n).state = .new → ∀ port e s,
    env.bind (w.node n).registry (w.node n).id port w.outside = (.error e, s) →
      startNode env n port w = (.error e, { w with outside := s })

/-- What shutting the node down comes to. Those who listen to it when all its connections are closed
are told; another time nothing happens. -/
structure ShutsDown (call : L → Event → World L S → World L S) (n : NodeRef) (w : World L S) :
    Prop where
  first : n.number < w.nodes.length → ¬ (w.node n).IsOver → ¬ Stuck env n w →
    (shutDownNode env call n w).1 = some true ∧
      ((shutDownNode env call n w).2.node n).state = .terminated ∧
      (shutDownNode env call n w).2.parted n =
        ((closeAll call n (stopServer env n (w.setState n .stopping)).2).node n).listeners.snapshot
  again : (w.node n).state = .terminated → shutDownNode env call n w = (some true, w)

/-- A node that has terminated: it has no connection that is open and opens none, and its listeners
were called as often as they listened when it terminated. -/
structure Gone (n : NodeRef) (w : World L S) : Prop where
  refuses : ∀ call a, connectNode env call n a w = (.error (.notInitialized (w.node n).id), w)
  closed : ∀ c, .began n ∈ w.life c → (w.connection c).closeReason ≠ none
  relayed : (w.relayed (.shutDown n)).length = (w.parted n).countP (·.isRegistry)
  heard : (w.heard (.shutDown n)).Perm
    ((w.parted n).filterMap (·.own?) ++ (w.relayed (.shutDown n)).flatMap (·.2))

variable {env}

/-- `initialize` leads from one state to another as `start_server` comes out. -/
theorem starts (n : NodeRef) (w : World L S) : Starts env n w where
  again hrunning port := by simp only [startNode, hrunning]
  late hover port := by rcases hover with h | h <;> simp only [startNode, h]
  binds hnew port a s hbind := by
    have hbound : env.bind (w.node n).registry (w.node n).id port
        (w.setState n .starting).outside = (.ok a, s) := hbind
    simp only [startNode, hnew, hbound]
    rw [setNode_starting n fun _ => by rfl]
  fails hnew port e s hbind := by
    have hbound : env.bind (w.node n).registry (w.node n).id port
        (w.setState n .starting).outside = (.error e, s) := hbind
    simp only [startNode, hnew, hbound]
    rw [setState, setNode_starting n fun _ => by rfl]
    -- the node was new before
    refine congrArg _ (setNode_self ?_)
    rw [show ({ w with outside := s } : World L S).node n = w.node n from rfl, ← hnew]

/-- A node that is over is not shut down again. -/
theorem shutDownNode_of_isOver {call : L → Event → World L S → World L S} {w : World L S}
    (hover : (w.node n).IsOver) : shutDownNode env call n w = (some true, w) := by
  unfold Node.IsOver at hover
  unfold shutDownNode tearDown
  dsimp only
  rw [if_pos hover]

/-- A node whose server stops is shut down in one go. -/
theorem Coherent.shutsDown {call : L → Event → World L S → World L S} {w : World L S}
    (hw : Coherent n w) (hcall : Faithful env may call) (hs : w.Sound) :
    ShutsDown env call n w where
  first hn hover hstuck := by
    have hend := shutDownNode_end env call n w
    generalize shutDownNode env call n w = result at hend ⊢
    cases hend with
    | already hstate => exact absurd hstate hover
    | nobody hle => exact absurd hn (Nat.not_lt_of_le hle)
    | stuck _ hstop => exact absurd (stopServer_eq_false_iff.mp hstop) hstuck
    | shut _ _ hstop =>
      let w₀ := (stopServer env n (w.setState n .stopping)).2
      let w₁ := closeAll call n w₀
      let told := (Turn.tell n (.shutDown n) ⟨[], w₁.terminate n⟩).world
      have hstopped : Step env may w w₀ := .stop w hn hover hstop
      have hstops : Stops n w w₀ := .stop hn hover
      have hclosing := (closeAll_story hcall n w₀).passage (hstopped.sound hs)
      have hw₁ : Coherent n w₁ := (hclosing.walk.coherent (hstops.coherent hw).1).1
      have hstopping : (w₁.node n).state = .stopping :=
        hclosing.stopping n (congrArg Phase.state hstops.phase)
      have hn₁ : n.number < w₁.nodes.length :=
        Nat.lt_of_lt_of_le hn (hstopped.lasting.trans (closeAll_story hcall n w₀).lasting).nodes
      have hterminated : (told.node n).state = .terminated :=
        congrArg (·.state) (node_terminate hn₁)
      -- what listeners do does nothing to the node any more
      have htelling := (raise_story hcall n (.shutDown n) (w₁.terminate n)).passage
        ((Step.terminate w₁ n : Step env may w₁ told).sound
          (hclosing.walk.sound (hstopped.sound hs)))
      have hstays : Stays n told ((raise call n (.shutDown n) (w₁.terminate n)).dropListeners n) :=
        (htelling.walk.stays hterminated).trans
          (.setNode n (fun _ => by rfl) (fun _ => by rfl) _)
      refine ⟨rfl, hstays.state.trans hterminated, hstays.parted.trans ?_⟩
      rw [parted_terminate hn₁, hw₁.parted fun h => nomatch hstopping.symm.trans h]
      rfl
  again hover := shutDownNode_of_isOver (.inr hover)

/-- A node that has terminated has no connections. -/
theorem Coherent.not_contains {w : World L S} (hw : Coherent n w)
    (hover : (w.node n).state = .terminated) (c : ConnectionRef) :
    (w.node n).table.contains c = false :=
  ConnectionTable.toList_eq_nil_iff.mp (hw.table (.inr hover)) c

/-- All connections are closed that a node had which has terminated. -/
theorem Coherent.closed {w : World L S} (hw : Coherent n w) (hs : w.Sound)
    (hover : (w.node n).state = .terminated) {c : ConnectionRef} (hbegan : .began n ∈ w.life c) :
    (w.connection c).closeReason ≠ none := by
  cases hs.standing c with
  | unknown closes life _ _ => exact absurd (life ▸ hbegan) not_mem_closings_of_began
  | listed m closes life _ _ _ table _ =>
    obtain rfl : n = m := hs.began_unique hbegan (by simp [life])
    exact nomatch (hw.not_contains hover c).symm.trans ((table n).trans (decide_eq_true rfl))
  | ended m _ _ _ _ _ _ _ _ _ closed _ =>
    rw [closed]
    exact fun h => nomatch h

/-- Nothing is left of a node that has terminated. -/
theorem Coherent.gone {w : World L S} (hw : Coherent n w) (h : Settled w)
    (hover : (w.node n).state = .terminated) : Gone env n w := by
  have hbalanced := h.balanced (.shutDown n) id
  refine ⟨fun call a => ?_, fun c => hw.closed h.sound hover, ?_, ?_⟩
  · have hfind : w.findConnection n a = none := by
      refine Option.eq_none_iff_forall_ne_some.mpr fun c hc => ?_
      have hthere := (ConnectionTable.find_eq_some w.isOpen hc).1
      exact nomatch (hw.not_contains hover c).symm.trans hthere
    simp only [connectNode, beginDial, hfind, Node.isRunning, hover]
    rfl
  · have hrelayed := hbalanced.relayed_perm.length_eq
    rw [List.length_map] at hrelayed
    rw [hrelayed, World.parted, List.countP_flatMap, List.length_flatMap]
    exact congrArg List.sum (List.map_congr_left fun t _ => List.length_replicate)
  · have hheard := hbalanced.calls.heard_perm
    rwa [World.parted, List.filterMap_flatMap]

/-- Nobody is called once more about the end of a node. -/
theorem Gone.heard_perm {w w' : World L S} (h : Gone env n w) (h' : Gone env n w')
    (hlasting : Lasting w w') (hparted : w'.parted n = w.parted n) :
    (w'.heard (.shutDown n)).Perm (w.heard (.shutDown n)) := by
  -- registries have passed it on as often as before, and what is on record stays
  have hprefix : w.relayed (.shutDown n) <+: w'.relayed (.shutDown n) :=
    hlasting.history.filterMap _
  have hlength : (w.relayed (.shutDown n)).length = (w'.relayed (.shutDown n)).length := by
    rw [h.relayed, h'.relayed, hparted]
  have hheard := h'.heard
  rw [hparted, ← hprefix.eq_of_length hlength] at hheard
  exact hheard.trans h.heard.symm

end World
end Courier
