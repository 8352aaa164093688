import Courier.Proofs.Worlds.Joining

/-!
# Courier — rosters in the course of a story

That a registry hears of the end of a node is up to its listener in the node, which is there from the
beginning, and whose handle is never given out: so it is assumed here that nobody takes it away. It
is also assumed that no server refuses to stop, and that no listener shuts down a registry in the
middle of something else.

What is over is over: a node that is shut down stays so, it is never listed again, and a registry
that is shut down lists nobody new.

* `Advances` — what is for good;
* `Regular` — what is assumed;
* `Story.ordered` — order is kept in the course of any story.
-/

namespace Courier.World

variable {L S : Type} {but : Option NodeRef}

-- ---------------------------------------------------------------------------
-- What is for good
-- ---------------------------------------------------------------------------

/-- What is for good: nodes that have terminated, and registries that are shut down. No registry
lists a node again, and one that is shut down lists nobody new. Of all nodes but one at most it also
says that none is left in the middle of a shutdown that was not in the middle of it before. -/
structure Advances (but : Option NodeRef) (w w' : World L S) : Prop where
  nodes : w.nodes.length ≤ w'.nodes.length
  terminated : ∀ n, (w.node n).state = .terminated → (w'.node n).state = .terminated
  shutDown : ∀ r, (w.registry r).isShutDown = true → (w'.registry r).isShutDown = true
  entries : ∀ r id n, (id, n) ∈ (w'.registry r).nodes → (id, n) ∈ (w.registry r).nodes ∨
    w.nodes.length ≤ n.number ∧ (w.registry r).isShutDown = false
  stopping : ∀ n, but ≠ some n → ((w'.node n).state = .stopping ↔ (w.node n).state = .stopping)
  lingering : ∀ n, but ≠ some n → w'.Lists n → (w'.node n).state = .terminated →
    (w.node n).state = .terminated

theorem Advances.refl (w : World L S) : Advances but w w :=
  ⟨Nat.le_refl _, fun _ => id, fun _ => id, fun _ _ _ => .inl, fun _ _ => .rfl,
    fun _ _ _ => id⟩

/-- Only who was listed before, or is new, is listed. -/
theorem Advances.lists {w w' : World L S} (h : Advances but w w') {n : NodeRef}
    (hn : w'.Lists n) : w.Lists n ∨ w.nodes.length ≤ n.number := by
  obtain ⟨r, id, hmem⟩ := hn
  rcases h.entries r id n hmem with hmem | ⟨hlength, -⟩
  · exact .inl ⟨r, id, hmem⟩
  · exact .inr hlength

/-- A node that has terminated is there. -/
theorem lt_length_of_terminated {n : NodeRef} {w : World L S}
    (h : (w.node n).state = .terminated) : n.number < w.nodes.length := by
  refine Nat.lt_of_not_le fun hle => ?_
  rw [node_of_length_le hle] at h
  cases h

theorem Advances.trans {w w' w'' : World L S} (h : Advances but w w')
    (h' : Advances but w' w'') : Advances but w w'' where
  nodes := Nat.le_trans h.nodes h'.nodes
  terminated n hn := h'.terminated n (h.terminated n hn)
  shutDown r hr := h'.shutDown r (h.shutDown r hr)
  entries r id n hmem := by
    rcases h'.entries r id n hmem with hmem | ⟨hlength, hopen⟩
    · exact h.entries r id n hmem
    · refine .inr ⟨Nat.le_trans h.nodes hlength, Bool.eq_false_iff.mpr fun hshut => ?_⟩
      exact Bool.eq_false_iff.mp hopen (h.shutDown r hshut)
  stopping n hn := (h'.stopping n hn).trans (h.stopping n hn)
  lingering n hn hlists hover := by
    have hover' := h'.lingering n hn hlists hover
    rcases h'.lists hlists with hlists | hlength
    · exact h.lingering n hn hlists hover'
    · exact absurd (lt_length_of_terminated hover') (Nat.not_lt_of_le hlength)

/-- What advances without exception does so if one node is left out. -/
theorem Advances.mono {n : NodeRef} {w w' : World L S} (h : Advances none w w') :
    Advances (some n) w w' :=
  { h with
    stopping := fun m _ => h.stopping m (fun heq => nomatch heq)
    lingering := fun m _ => h.lingering m (fun heq => nomatch heq) }

/-- A node that was not in the middle of its shutdown, and has shut down and left, is no exception
any more. -/
theorem Advances.close {n : NodeRef} {w w' : World L S} (h : Advances (some n) w w')
    (hbefore : (w.node n).state ≠ .stopping) (hafter : (w'.node n).state ≠ .stopping)
    (hgone : w'.Lists n → (w'.node n).state = .terminated → (w.node n).state = .terminated) :
    Advances none w w' where
  nodes := h.nodes
  terminated := h.terminated
  shutDown := h.shutDown
  entries := h.entries
  stopping m _ := by
    by_cases hm : some n = some m
    · cases hm
      exact iff_of_false hafter hbefore
    · exact h.stopping m hm
  lingering m _ := by
    by_cases hm : some n = some m
    · cases hm
      exact hgone
    · exact h.lingering m hm

/-- Minor changes undo nothing. -/
theorem Minor.advances {w w' : World L S} (h : Minor but w w') : Advances but w w' where
  nodes := Nat.le_of_eq h.nodes.symm
  terminated n hn := by
    by_contra hne
    exact (h.node n).alive hne hn
  shutDown := h.shutDown
  entries r id n hmem := .inl (h.entries r ▸ hmem)
  stopping n hn := (h.phase n hn).stopping
  lingering n hn _ hover := (h.phase n hn).terminated.mp hover

/-- A node that joins undoes nothing. -/
theorem Advances.join {w : World L S} {r : RegistryRef} {id : String}
    (hopen : (w.registry r).isShutDown = false) (due : List (Due L)) :
    Advances but w (Turn.announce r (.nodeAdded (w.createNode r id).1)
      ⟨due, (w.createNode r id).2⟩).world := by
  have h := joined r id due w
  have hshut (q : RegistryRef) := isShutDown_createNode r id w q
  let w' := (Turn.announce r (.nodeAdded (w.createNode r id).1)
    ⟨due, (w.createNode r id).2⟩).world
  -- whoever was not there before has a state that tells nothing
  have hstate (m : NodeRef) :
      w'.node m = w.node m ∨ (w'.node m).state = .new ∧ (w.node m).state = .new := by
    by_cases hm : m.number < w.nodes.length
    · exact .inl (h.old m hm)
    · have hbefore : w.node m = default := node_of_length_le (Nat.le_of_not_lt hm)
      refine .inr ⟨?_, by rw [hbefore]; rfl⟩
      by_cases hm' : m.number < w'.nodes.length
      · obtain rfl := (h.old_or_self hm').resolve_left hm
        rw [h.self]
        rfl
      · rw [node_of_length_le (Nat.le_of_not_lt hm')]
        rfl
  refine ⟨h.nodes ▸ Nat.le_succ _, fun m hover => ?_, fun q hq => (hshut q).trans hq,
    fun q id' m hmem => ?_, fun m _ => ?_, fun m _ _ hover => ?_⟩
  · rcases hstate m with heq | ⟨-, hnew⟩
    · exact heq ▸ hover
    · rw [hnew] at hover
      cases hover
  · rcases h.mem_iff.mp hmem with hmem | ⟨⟨rfl, -⟩, -, rfl⟩
    · exact .inl hmem
    · exact .inr ⟨Nat.le_refl _, hopen⟩
  · rcases hstate m with heq | ⟨hnew', hnew⟩
    · rw [heq]
    · rw [hnew', hnew]
  · rcases hstate m with heq | ⟨hnew, -⟩
    · exact heq ▸ hover
    · rw [hnew] at hover
      cases hover

theorem Advances.leave (r : RegistryRef) (n : NodeRef) (due : List (Due L)) (w : World L S) :
    Advances but w (Turn.announce r (.nodeRemoved n)
      ⟨due, w.dropNode r (w.node n).id⟩).world where
  nodes := Nat.le_refl _
  terminated _ := id
  shutDown q hq := by
    have hsame := registry_setRegistry_congr (·.isShutDown)
      (f := fun reg => { reg with nodes := reg.nodes.filter fun e => e.1 ≠ (w.node n).id })
      (fun _ => rfl) r q w
    exact hsame.trans hq
  entries _ _ _ hmem := .inl (mem_dropNode.mp hmem).1
  stopping _ _ := .rfl
  lingering _ _ _ := id

-- ---------------------------------------------------------------------------
-- Stories
-- ---------------------------------------------------------------------------

variable {env : Surroundings L S} {may : Act L → World L S → Prop}

/-- What is assumed of all that happens: servers stop, nobody takes a registry away from the
listeners of a node, and no registry is shut down in the middle of something else. -/
structure Regular (env : Surroundings L S) (may : Act L → World L S → Prop) : Prop where
  stops : ∀ a s, (env.stopServer a s).1 = true
  unlisten : ∀ n id w, may (.unlisten n id) w → (id, .registry) ∉ (w.node n).listeners.entries
  shutDown : ∀ r w, ¬ may (.shutDown r) w

/-- A server that does not refuse to stop is stopped. -/
theorem stopServer_stops (hstops : ∀ a s, (env.stopServer a s).1 = true) (n : NodeRef)
    (w : World L S) : (stopServer env n w).1 = true := by
  unfold stopServer
  split
  · rfl
  · exact hstops ..

/-- `initialize` changes no roster. -/
theorem Minor.start (n : NodeRef) (port : UInt16) (w : World L S) :
    Minor but w (startNode env n port w).2 := by
  have hend := startNode_end env n port w
  generalize startNode env n port w = result at hend
  -- the node was at its beginning, and is there still or runs
  have hplace (node : Node L) (hsame : SameNode (w.node n) node)
      (hbefore : (w.node n).state = .new ∨ (w.node n).state = .starting)
      (hafter : node.state = .new ∨ node.state = .running)
      (hlisteners : node.listeners = (w.node n).listeners)
      (haddressed : (w.node n).Addressed → node.Addressed) :
      KeepsPlace (w.node n) node ∧ SamePhase (w.node n) node := by
    refine ⟨⟨hsame, fun _ => ?_, fun _ hmem => hlisteners ▸ hmem, haddressed⟩, ⟨?_, ?_⟩⟩
    all_goals rcases hbefore with h | h <;> rcases hafter with h' | h' <;> simp [h, h']
  cases hend with
  | running hstate => exact .refl w
  | refused hstate e => exact .refl w
  | bound hstate a s =>
    have houtside : Minor but w { w with outside := s } := .of_eq rfl rfl rfl
    let node := { w.node n with server := some a, address := some a, state := .running }
    have haddressed : node.Addressed := ⟨fun _ => rfl, fun h => by rcases h with h | h <;> cases h⟩
    have hnode := hplace node ⟨rfl, rfl, rfl⟩ hstate (.inr rfl) rfl fun _ => haddressed
    exact houtside.trans (.setNode n (fun _ => hnode.1) fun _ _ => hnode.2)
  | failed hstate e s =>
    have houtside : Minor but w { w with outside := s } := .of_eq rfl rfl rfl
    let node := { w.node n with state := .new }
    have haddressed (h : (w.node n).Addressed) : node.Addressed :=
      ⟨fun hrunning => (nomatch hrunning), fun _ => h.2 hstate⟩
    have hnode := hplace node ⟨rfl, rfl, rfl⟩ hstate (.inl rfl) rfl haddressed
    exact houtside.trans (.setNode n (fun _ => hnode.1) fun _ _ => hnode.2)

/-- A listener more does not matter. -/
theorem Minor.listen (n : NodeRef) (l : L) (w : World L S) : Minor but w (listen n l w).2 := by
  have hhandle : Minor but w w.freshListener.2 := .of_eq rfl rfl rfl
  refine hhandle.trans (.setNode n (fun _ => ⟨⟨rfl, rfl, rfl⟩, id, fun _ hmem => ?_, id⟩)
    fun _ _ => .of_eq rfl)
  have hsnapshot : ((w.node n).listeners.add w.freshListener.1 (.own l)).snapshot =
      (w.node n).listeners.snapshot ++ [.own l] := List.map_append
  show NodeListener.registry ∈ ((w.node n).listeners.add w.freshListener.1 (.own l)).snapshot
  rw [hsnapshot]
  exact List.mem_append_left _ hmem

/-- A listener less does not matter, as long as it is not the registry. -/
theorem Minor.unlisten {n : NodeRef} {id : ListenerId} {w : World L S}
    (h : (id, .registry) ∉ (w.node n).listeners.entries) :
    Minor but w (unlisten n id w).2 := by
  refine .setNode n (fun _ => ⟨⟨rfl, rfl, rfl⟩, fun h => h, fun _ hmem => ?_, fun h => h⟩)
    fun _ _ => .of_eq rfl
  obtain ⟨⟨id', l⟩, hentry, rfl⟩ := List.mem_map.mp hmem
  refine List.mem_map.mpr ⟨(id', .registry), List.mem_filter.mpr ⟨hentry, decide_eq_true ?_⟩, rfl⟩
  rintro rfl
  exact h hentry

/-- A node that stops stays listed until it has terminated. -/
theorem Minor.stop (env : Surroundings L S) {n : NodeRef} {w : World L S}
    (hstate : ¬ ((w.node n).state = .stopping ∨ (w.node n).state = .terminated)) :
    Minor (some n) w (stopServer env n (w.setState n .stopping)).2 := by
  obtain ⟨s, hs⟩ := stopServer_eq env n (w.setState n .stopping)
  have hstopping : Minor (some n) w (w.setState n .stopping) :=
    .setNode n (fun _ => ⟨⟨rfl, rfl, rfl⟩, fun _ h => hstate (.inr h), fun _ h => h,
      fun _ => Node.addressed_of_over (.inl rfl)⟩) fun _ hbut => absurd rfl hbut
  have hserver : Minor (some n) (w.setState n .stopping)
      ((w.setState n .stopping).setNode n fun node => { node with server := none }) :=
    .setNode_aside n (fun _ => ⟨rfl, rfl, rfl⟩) (fun _ => rfl) (fun _ => rfl) fun _ => rfl
  rw [hs]
  exact (hstopping.trans hserver).trans (.of_eq rfl rfl rfl)

/-- To terminate is a change of this node only. -/
theorem Minor.terminate (n : NodeRef) (w : World L S) : Minor (some n) w (w.terminate n) :=
  .setNode n (fun _ => ⟨⟨rfl, rfl, rfl⟩, fun h => absurd rfl h, fun h => absurd rfl h,
    fun _ => Node.addressed_of_over (.inr rfl)⟩) fun _ hbut => absurd rfl hbut

/-- A node that has terminated may let go of its listeners. -/
theorem Minor.dropListeners {n : NodeRef} {w : World L S}
    (hover : n.number < w.nodes.length → (w.node n).state = .terminated) :
    Minor but w (w.dropListeners n) :=
  .setNode n (fun hn => ⟨⟨rfl, rfl, rfl⟩, id, fun h => absurd (hover hn) h, id⟩)
    fun _ _ => .of_eq rfl

/-- All that nobody is told of is minor. -/
theorem Change.minor {w w' : World L S} (hr : Regular env may) (h : Change env may w w') :
    Minor none w w' := by
  have aside {w : World L S} (n : NodeRef) {f : Node L → Node L}
      (h : ∀ node, SameNode node (f node)) (hstate : ∀ node, (f node).state = node.state)
      (haddress : ∀ node, (f node).address = node.address)
      (hlisteners : ∀ node, (f node).listeners = node.listeners) :
      Minor none w (w.setNode n f) := .setNode_aside n h hstate haddress hlisteners
  have handle (w : World L S) : Minor none w w.freshListener.2 := .of_eq rfl rfl rfl
  cases h with
  | outside s => exact .of_eq rfl rfl rfl
  | send c payload => exact .of_eq rfl rfl rfl
  | ping c nonce => exact .of_eq rfl rfl rfl
  | receive h => exact .of_eq rfl rfl rfl
  | pong c p => exact .of_eq rfl rfl rfl
  | dials n f => exact aside n (fun _ => ⟨rfl, rfl, rfl⟩) (fun _ => rfl) (fun _ => rfl) fun _ => rfl
  | start n port => exact .start n port w
  | stuck hstate hstop => exact absurd hstop (by rw [stopServer_stops hr.stops]; decide)
  | turnAway h => exact .of_eq rfl rfl rfl
  | close reason howns hthere => exact .takeOut _ _ reason w
  | listen n l => exact .listen n l w
  | unlisten h => exact .unlisten (hr.unlisten _ _ _ h)
  | listenToRegistry r l => exact (handle w).trans (.setRegistry r rfl id)
  | unlistenToRegistry r id => exact .setRegistry r rfl fun h => h
  | listenToNodes h => exact (handle w).trans (.setRegistry _ rfl id)
  | unlistenToNodes h => exact .setRegistry _ rfl fun h => h
  | closeRegistry h => exact absurd h (hr.shutDown _ _)
  | emptyRegistry h hshut completed =>
    obtain ⟨w₀, h⟩ := h
    exact absurd h (hr.shutDown _ _)

/-- What registries are to pass on is nothing about themselves, and that a node has shut down only
when it has. -/
def Fitting (t : Turn L S) : Prop :=
  ∀ r e, .relay r e ∈ t.due →
    ¬ e.IsRoster ∧ ∀ n, e = .shutDown n → (t.world.node n).state = .terminated

/-- What comes of a story: order is kept, and whoever was to leave has left. -/
structure Ordered (t : Turn L S) (w' : World L S) : Prop where
  orderly : w'.Orderly
  advances : Advances none t.world w'
  gone : ∀ r n, .relay r (.shutDown n) ∈ t.due → ∀ id, (id, n) ∉ (w'.registry r).nodes

/-- Calls that are due stay fitting as the world goes on. -/
theorem Fitting.advances {due : List (Due L)} {w w' : World L S} (h : Fitting ⟨due, w⟩)
    (hadvances : Advances none w w') : Fitting ⟨due, w'⟩ :=
  fun r e hmem => ⟨(h r e hmem).1, fun n hn => hadvances.terminated n ((h r e hmem).2 n hn)⟩

/-- Where nothing is due all is fitting. -/
theorem Fitting.nil (w : World L S) : Fitting ⟨[], w⟩ := fun _ _ h => absurd h List.not_mem_nil

/-- A call that is made leaves the others fitting. -/
theorem Fitting.tail {d : Due L} {due : List (Due L)} {w : World L S} (h : Fitting ⟨d :: due, w⟩) :
    Fitting ⟨due, w⟩ := fun r e hmem => h r e (List.mem_cons_of_mem d hmem)

/-- Calls of listeners are always fitting. -/
theorem Fitting.calls (listeners : List L) (e : Event) (w : World L S) :
    Fitting ⟨listeners.map (.call · e) ++ [], w⟩ := by
  intro r e' hmem
  rw [List.append_nil] at hmem
  obtain ⟨l, -, h⟩ := List.mem_map.mp hmem
  cases h

/-- What a node tells is fitting if it tells of its end when it has terminated. -/
theorem Fitting.tell {n : NodeRef} {e : Event} {w : World L S} (he : ¬ e.IsRoster)
    (hover : ∀ m, e = .shutDown m → (w.node m).state = .terminated) :
    Fitting (Turn.tell n e ⟨[], w⟩) := by
  intro r e' hmem
  unfold Turn.tell at hmem
  dsimp only at hmem
  rw [List.append_nil] at hmem
  obtain ⟨l, -, h⟩ := List.mem_map.mp hmem
  cases l with
  | own l => cases h
  | registry =>
    cases h
    exact ⟨he, hover⟩

/-- What comes of the rest of a story when something has happened first. -/
theorem Ordered.after {t t' : Turn L S} {w' : World L S} (h : Ordered t' w')
    (hadvances : Advances none t.world t'.world)
    (hdue : ∀ r n, .relay r (.shutDown n) ∈ t.due → .relay r (.shutDown n) ∈ t'.due) :
    Ordered t w' :=
  ⟨h.orderly, hadvances.trans h.advances, fun r n hmem => h.gone r n (hdue r n hmem)⟩

/-- What is in order after a step that undoes nothing is in order. -/
theorem Ordered.after_nil {t : Turn L S} {w w' : World L S} (h : Ordered t w')
    (hadvances : Advances none w t.world) : Ordered ⟨[], w⟩ w' :=
  h.after hadvances fun _ _ hmem => absurd hmem List.not_mem_nil

/-- What comes of the rest of a story when a registry has passed on what was due. -/
theorem Ordered.relayed {r : RegistryRef} {e : Event} {due : List (Due L)}
    {w w' w'' : World L S} (hdue : Fitting ⟨.relay r e :: due, w⟩) (hadvances : Advances none w w')
    (hgone : ∀ n, e = .shutDown n → ∀ id, (id, n) ∉ (w'.registry r).nodes)
    (h : Ordered ⟨due, w'⟩ w'') : Ordered ⟨.relay r e :: due, w⟩ w'' where
  orderly := h.orderly
  advances := hadvances.trans h.advances
  gone q n hmem id hentry := by
    rcases List.mem_cons.mp hmem with heq | hmem
    · cases heq
      have hover := hadvances.terminated n ((hdue r _ List.mem_cons_self).2 n rfl)
      rcases h.advances.entries r id n hentry with hentry | ⟨hlength, -⟩
      · exact hgone n rfl id hentry
      · exact absurd (lt_length_of_terminated hover) (Nat.not_lt_of_le hlength)
    · exact h.gone q n hmem id hentry

/-- A node is shut down: it is stopping until it terminates, and has left its registry when all its
listeners have been told. -/
theorem Ordered.shut {n : NodeRef} {w w₁ w₂ : World L S} (hn : n.number < w.nodes.length)
    (hstate : ¬ ((w.node n).state = .stopping ∨ (w.node n).state = .terminated))
    (hclosing : Ordered ⟨[], (stopServer env n (w.setState n .stopping)).2⟩ w₁)
    (htelling : Ordered (Turn.tell n (.shutDown n) ⟨[], w₁.terminate n⟩) w₂)
    (hlasting : Lasting (w₁.terminate n) w₂) : Ordered ⟨[], w⟩ (w₂.dropListeners n) := by
  have hstop := Minor.stop env hstate
  have hn₁ : n.number < w₁.nodes.length :=
    Nat.lt_of_lt_of_le hn (Nat.le_trans hstop.advances.nodes hclosing.advances.nodes)
  -- the listeners who are told are those of a node that is stopping
  have hstopping : (w₁.node n).state = .stopping := by
    refine (hclosing.advances.stopping n (Option.some_ne_none n).symm).mpr ?_
    obtain ⟨s, hs⟩ := stopServer_eq env n (w.setState n .stopping)
    rw [hs]
    show (((w.setState n .stopping).setNode n _).node n).state = .stopping
    rw [setState, setNode_setNode, node_setNode, if_pos ⟨rfl, hn⟩]
    rfl
  have halive : (w₁.node n).state ≠ .terminated := by
    rw [hstopping]
    decide
  have hterminated : (w₁.terminate n).node n =
      { w₁.node n with dials := [], state := .terminated } := by
    rw [World.terminate, node_setNode, if_pos ⟨rfl, hn₁⟩]
  have he : ¬ (Event.shutDown n).IsRoster := id
  have htells :
      Minor none (w₁.terminate n) (Turn.tell n (.shutDown n) ⟨[], w₁.terminate n⟩).world :=
    .tell n he ⟨[], w₁.terminate n⟩
  have htold : Advances none (w₁.terminate n) w₂ := htells.advances.trans htelling.advances
  have hover : (w₂.node n).state = .terminated :=
    htold.terminated n (by rw [hterminated])
  -- its registry is among them, and has given it up
  have hgone : ¬ w₂.Lists n := by
    have hlistens := hclosing.orderly.listens n hn₁ halive
    have hregistry : (w₂.node n).registry = ((w₁.terminate n).node n).registry :=
      (hlasting.node n (Nat.lt_of_lt_of_eq hn₁ (List.length_modify ..).symm)).registry
    rw [htelling.orderly.lists_iff, hregistry]
    refine htelling.gone _ n ?_ _
    unfold Turn.tell
    dsimp only
    rw [List.append_nil, hterminated]
    exact List.mem_map.mpr ⟨.registry, hlistens, rfl⟩
  have hdrop : Minor none w₂ (w₂.dropListeners n) := .dropListeners fun _ => hover
  have hall : Advances (some n) w (w₂.dropListeners n) :=
    (hstop.advances.trans hclosing.advances.mono).trans
      ((Minor.terminate n w₁).advances.trans (htold.mono.trans hdrop.advances.mono))
  have hend : ((w₂.dropListeners n).node n).state = .terminated := hdrop.advances.terminated n hover
  refine ⟨htelling.orderly.minor hdrop, hall.close (fun h => hstate (.inl h)) ?_ ?_,
    fun _ _ h => absurd h List.not_mem_nil⟩
  · rw [hend]
    decide
  · intro hlists
    rcases hdrop.advances.lists hlists with hlists | hlength
    · exact absurd hlists hgone
    · exact absurd (lt_length_of_terminated hover) (Nat.not_lt_of_le hlength)

/-- **Order is kept in the course of any story**, whoever is to leave leaves, and nobody is left in
the middle of a shutdown. -/
theorem Story.ordered (hr : Regular env may) {t : Turn L S} {w' : World L S}
    (h : Story env may t w') (hw : t.world.Orderly) (hdue : Fitting t) : Ordered t w' := by
  induction h with
  | done w => exact ⟨hw, .refl w, fun _ _ h => absurd h List.not_mem_nil⟩
  | change h next ih =>
    have hminor := h.minor hr
    have hrest := ih (hw.minor hminor) (hdue.advances hminor.advances)
    exact hrest.after hminor.advances fun _ _ hmem => hmem
  | @first w w' w'' h next ihFirst ih =>
    have hfirst := ihFirst hw (.nil w)
    have hrest := ih hfirst.orderly (hdue.advances hfirst.advances)
    exact hrest.after hfirst.advances fun _ _ hmem => hmem
  | @call due l e w w' w'' during next ihDuring ih =>
    have hminor : Minor none w (w.log l e) := .of_eq rfl rfl rfl
    have hduring := ihDuring (hw.minor hminor) (.nil _)
    have hadvances := hminor.advances.trans hduring.advances
    have hrest := ih hduring.orderly (hdue.tail.advances hadvances)
    exact hrest.after hadvances fun _ _ hmem =>
      (List.mem_cons.mp hmem).resolve_left fun h => nomatch h
  | @relay due r e w w' w'' pass hstay next ihPass ih =>
    have he := (hdue r e List.mem_cons_self).1
    have hminor : Minor none w (Turn.relay r e ⟨[], w⟩).world := .relay r he ⟨[], w⟩
    have hpass := ihPass (hw.minor hminor) (.calls _ e _)
    have hadvances := hminor.advances.trans hpass.advances
    refine .relayed hdue hadvances (fun n hn id hentry => ?_)
      (ih hpass.orderly (hdue.tail.advances hadvances))
    obtain ⟨-, rfl, -⟩ := hpass.orderly.entry r id n hentry
    exact hstay n hn (hpass.orderly.find_eq_some_iff.mpr hentry)
  | @leave due r n w w₁ w₂ w₃ pass hthere gone next ihPass ihGone ih =>
    obtain ⟨he, hover⟩ := hdue r _ List.mem_cons_self
    have hminor : Minor none w (Turn.relay r (.shutDown n) ⟨[], w⟩).world := .relay r he ⟨[], w⟩
    have hpass := ihPass (hw.minor hminor) (.calls _ _ _)
    have hadvances := hminor.advances.trans hpass.advances
    have hover' := hadvances.terminated n (hover n rfl)
    have hgone := ihGone (hpass.orderly.leave hthere hover' []) (.calls _ _ _)
    have hleft : Advances none w₁ w₂ := (Advances.leave r n [] w₁).trans hgone.advances
    refine .relayed hdue (hadvances.trans hleft) (fun m hm id hentry => ?_)
      (ih hgone.orderly (hdue.tail.advances (hadvances.trans hleft)))
    cases hm
    rcases hgone.advances.entries r id n hentry with hentry | ⟨hlength, -⟩
    · obtain ⟨hentry, hnot⟩ := mem_dropNode.mp hentry
      exact hnot ⟨rfl, (hpass.orderly.entry r id n hentry).2.1.symm⟩
    · exact absurd (lt_length_of_terminated hover') (Nat.not_lt_of_le hlength)
  | @tell n c payload w w' h next ih =>
    have he : ¬ (Event.message payload c (w.node n).id).IsRoster := id
    have hminor : Minor none w (Turn.tell n _ ⟨[], w⟩).world := .tell n he ⟨[], w⟩
    have hrest := ih (hw.minor hminor) (.tell he fun _ h => nomatch h)
    exact hrest.after_nil hminor.advances
  | @connect n conn w w' hn hstate hadmitted next ih =>
    have he : ¬ (Event.connected (w.addConnection conn).1).IsRoster := id
    have hadded : Minor none w (w.addConnection conn).2 := .of_eq rfl rfl rfl
    have htaken : Minor none (w.addConnection conn).2
        ((w.addConnection conn).2.takeIn n (w.addConnection conn).1) :=
      .setNode_aside n (fun _ => ⟨rfl, rfl, rfl⟩) (fun _ => rfl) (fun _ => rfl) fun _ => rfl
    have hminor := (hadded.trans htaken).trans (.tell n he ⟨[], _⟩)
    have hrest := ih (hw.minor hminor) (.tell he fun _ h => nomatch h)
    exact hrest.after_nil hminor.advances
  | @disconnect n c reason w w' howns hthere next ih =>
    have he : ¬ (Event.disconnected c
        (((w.takeOut n c reason).2.connection c).closeReason.getD reason)).IsRoster := id
    have htaken : Minor none w (w.takeOut n c reason).2 := .takeOut n c reason w
    have hminor := htaken.trans (.tell n he ⟨[], _⟩)
    have hrest := ih (hw.minor hminor) (.tell he fun _ h => nomatch h)
    exact hrest.after_nil hminor.advances
  | @join r id w w' hopen hnew next ih =>
    exact (ih (hw.join hnew []) (.calls _ _ _)).after_nil (.join hopen [])
  | @nobody n w hn =>
    have hminor : Minor none w (w.record (.nodeTold n (w.node n).registry (.shutDown n) [])) :=
      .record fun e he => ⟨if_neg fun h : .shutDown n = e => by cases h; exact he, rfl⟩
    exact ⟨hw.minor hminor, hminor.advances, fun _ _ h => absurd h List.not_mem_nil⟩
  | @shut n w w₁ w₂ hn hstate hstop closing hclosed telling ihClosing ihTelling =>
    have hstopped := Minor.stop env hstate
    have hclosing := ihClosing (hw.minor hstopped) (.nil _)
    have he : ¬ (Event.shutDown n).IsRoster := id
    have hterminated : Minor (some n) w₁ (Turn.tell n (.shutDown n) ⟨[], w₁.terminate n⟩).world :=
      (Minor.terminate n w₁).trans (.tell n he ⟨[], w₁.terminate n⟩)
    have hn₁ : n.number < w₁.nodes.length :=
      Nat.lt_of_lt_of_le hn (Nat.le_trans hstopped.advances.nodes hclosing.advances.nodes)
    have htelling := ihTelling (hclosing.orderly.minor hterminated) (.tell he fun m hm => by
      cases hm
      rw [World.terminate, node_setNode, if_pos ⟨rfl, hn₁⟩])
    have htells : Lasting (w₁.terminate n) (Turn.tell n (.shutDown n) ⟨[], w₁.terminate n⟩).world :=
      .record ..
    exact .shut hn hstate hclosing htelling (htells.trans telling.lasting)

end Courier.World
