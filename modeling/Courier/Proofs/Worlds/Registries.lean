import Courier.Proofs.Worlds.Ordered

/-!
# Courier — registries, from creation to shutdown

Nodes come to a registry and leave it in any order, on demand of programs and of listeners, which
may ask for a new node in place of the one that they are told has left. When nothing is going on any
more, a registry lists just those of its nodes that have not terminated, each under its own id; it
has told once of each that it has joined, and once of each that has terminated that it has left.
After its own shutdown it lists nobody, for good, and answers as it did the first time.

Assumed is that servers stop when they are told to, that nobody takes away a listener that is not
his, and that a registry is shut down by the program and not by a listener in the middle of
something else.

* `AtRest` — order, and nothing going on;
* `shutDownNode_atRest`, `shutDownRegistry_atRest` — rest after a shutdown;
* `InOrder`, `IsOut` — what can be seen of a registry;
* `registries_in_order` — after any run.
-/

namespace Courier

variable {L S : Type}

/-- A listener is taken away only by who has put it there. Registries do not give out the handles of
their own. -/
def Act.Honest (act : Act L) (w : World L S) : Prop :=
  ∀ n id, act = .unlisten n id → (id, .registry) ∉ (w.node n).listeners.entries

/-- A listener is honest, too, and does not shut down registries. -/
def Act.Mannerly (act : Act L) (w : World L S) : Prop :=
  act.Honest w ∧ ∀ r, act ≠ .shutDown r

namespace World

-- ---------------------------------------------------------------------------
-- Rest
-- ---------------------------------------------------------------------------

/-- Order in the nodes, and no shutdown is going on. -/
structure Resting (w : World L S) : Prop extends Orderly w where
  stopping : ∀ n, (w.node n).state ≠ .stopping
  listed_alive : ∀ n, w.Lists n → (w.node n).state ≠ .terminated

/-- Order in the registries, too. -/
structure AtRest (w : World L S) : Prop extends Resting w where
  shutDown : ∀ r, (w.registry r).isShutDown = true →
    (w.registry r).nodes = [] ∧ (w.registry r).outcome.isSome

/-- No registry has been shut down in between. -/
def SameEnds (w w' : World L S) : Prop :=
  ∀ r, (w'.registry r).isShutDown = (w.registry r).isShutDown ∧
    (w'.registry r).outcome = (w.registry r).outcome

theorem SameEnds.refl (w : World L S) : SameEnds w w := fun _ => ⟨rfl, rfl⟩

theorem SameEnds.trans {w w' w'' : World L S} (h : SameEnds w w') (h' : SameEnds w' w'') :
    SameEnds w w'' :=
  fun r => ⟨(h' r).1.trans (h r).1, (h' r).2.trans (h r).2⟩

/-- No registry ends if none changes. -/
theorem SameEnds.of_eq {w w' : World L S} (h : w'.registries = w.registries) : SameEnds w w' :=
  fun r => by rw [World.registry, World.registry, h]; exact ⟨rfl, rfl⟩

/-- A registry may change in what is not its end. -/
theorem SameEnds.setRegistry {w : World L S} (r : RegistryRef) {f : Registry L → Registry L}
    (h : ∀ reg, (f reg).isShutDown = reg.isShutDown ∧ (f reg).outcome = reg.outcome) :
    SameEnds w (w.setRegistry r f) :=
  fun q => ⟨registry_setRegistry_congr (·.isShutDown) (fun reg => (h reg).1) r q w,
    registry_setRegistry_congr (·.outcome) (fun reg => (h reg).2) r q w⟩

variable {env : Surroundings L S} {may : Act L → World L S → Prop}

/-- No change ends a registry. -/
theorem Change.sameEnds (hr : Regular env may) {w w' : World L S} (h : Change env may w w') :
    SameEnds w w' := by
  rcases h.rosters with hsame | ⟨r, h, -⟩ | ⟨r, completed, ⟨w₀, h⟩, -⟩
  · exact fun r => (hsame r).2
  · exact absurd h (hr.shutDown _ _)
  · exact absurd h (hr.shutDown _ _)

theorem Step.sameEnds (hr : Regular env may) {w w' : World L S} (h : Step env may w w') :
    SameEnds w w' := by
  cases h with
  | change h => exact h.sameEnds hr
  | @leave r n hthere =>
    have hdropped : SameEnds w (w.dropNode r (w.node n).id) :=
      .setRegistry r fun _ => ⟨rfl, rfl⟩
    exact hdropped.trans (.of_eq rfl)
  | @join r id hopen hnew =>
    have hadded : SameEnds w (w.freshListener.2.addNode (w.newcomer r id)).2 := .of_eq rfl
    have hcreated : SameEnds _ (w.createNode r id).2 := .setRegistry r fun _ => ⟨rfl, rfl⟩
    exact (hadded.trans hcreated).trans (.of_eq rfl)
  | @stop n hn hstate hstop =>
    obtain ⟨s, hs⟩ := stopServer_eq env n (w.setState n .stopping)
    rw [hs]
    exact .of_eq rfl
  | _ => exact .of_eq rfl

/-- Minor changes leave registries at rest. -/
theorem Resting.minor {w w' : World L S} (hw : w.Resting) (h : Minor none w w') : w'.Resting where
  toOrderly := hw.toOrderly.minor h
  stopping n hstopping := hw.stopping n ((h.phase n fun h => nomatch h).stopping.mp hstopping)
  listed_alive n hlists hover := by
    obtain ⟨r, id, hmem⟩ := hlists
    exact hw.listed_alive n ⟨r, id, h.entries r ▸ hmem⟩
      ((h.phase n fun h => nomatch h).terminated.mp hover)

/-- What a story leads to from a world at rest is at rest. -/
theorem Resting.story (hr : Regular env may) {w w' : World L S} (hw : w.Resting)
    (h : Story env may ⟨[], w⟩ w') : w'.Resting ∧ Advances none w w' ∧ SameEnds w w' := by
  have hordered := h.ordered hr hw.toOrderly (.nil w)
  have hadvances : Advances none w w' := hordered.advances
  have hends : SameEnds w w' := h.keeps .refl .trans (Step.sameEnds hr)
  refine ⟨⟨hordered.orderly, fun n hstopping => ?_, fun n hlists hover => ?_⟩, hadvances, hends⟩
  · exact hw.stopping n ((hadvances.stopping n fun h => nomatch h).mp hstopping)
  · have hover' := hadvances.lingering n (fun h => nomatch h) hlists hover
    rcases hadvances.lists hlists with hlists | hlength
    · exact hw.listed_alive n hlists hover'
    · exact absurd (lt_length_of_terminated hover') (Nat.not_lt_of_le hlength)

/-- A registry that is shut down and lists nobody lists nobody ever after. -/
theorem Advances.nodes_eq_nil {w w' : World L S} (h : Advances none w w') {r : RegistryRef}
    (hshut : (w.registry r).isShutDown = true) (hempty : (w.registry r).nodes = []) :
    (w'.registry r).nodes = [] := by
  refine List.eq_nil_iff_forall_not_mem.mpr fun ⟨id, n⟩ hmem => ?_
  rcases h.entries r id n hmem with hmem | ⟨-, hopen⟩
  · exact absurd (hempty ▸ hmem) List.not_mem_nil
  · rw [hshut] at hopen
    cases hopen

/-- As long as no registry is shut down, all that was at rest is at rest. -/
theorem AtRest.story (hr : Regular env may) {w w' : World L S} (hw : w.AtRest)
    (h : Story env may ⟨[], w⟩ w') : w'.AtRest ∧ Advances none w w' ∧ SameEnds w w' := by
  obtain ⟨hresting, hadvances, hends⟩ := hw.toResting.story hr h
  refine ⟨⟨hresting, fun r hshut => ?_⟩, hadvances, hends⟩
  obtain ⟨hclosed, houtcome⟩ := hends r
  rw [hclosed] at hshut
  obtain ⟨hempty, hsome⟩ := hw.shutDown r hshut
  exact ⟨hadvances.nodes_eq_nil hshut hempty, houtcome ▸ hsome⟩

-- ---------------------------------------------------------------------------
-- Shutdowns
-- ---------------------------------------------------------------------------

variable {call : L → Event → World L S → World L S} (hr : Regular env may)
  (hcall : Faithful env may call)

/-- A shutdown that is not stuck comes to an end. -/
theorem shutDownNode_answer (hstops : ∀ a s, (env.stopServer a s).1 = true) (n : NodeRef)
    (w : World L S) : (shutDownNode env call n w).1 = some true := by
  have hend := shutDownNode_end env call n w
  generalize shutDownNode env call n w = result at hend
  cases hend with
  | stuck hstate hstop =>
    rw [stopServer_stops hstops] at hstop
    cases hstop
  | _ => rfl

include hr hcall in
/-- **A node that is shut down has terminated and left its registry.** -/
theorem shutDownNode_atRest {w : World L S} (hw : w.Resting) (n : NodeRef) :
    let w' := (shutDownNode env call n w).2
    w'.Resting ∧ Advances none w w' ∧ SameEnds w w' ∧
      (n.number < w.nodes.length → (w'.node n).state = .terminated ∧ ¬ w'.Lists n) := by
  obtain ⟨hresting, hadvances, hends⟩ := hw.story hr (shutDownNode_story hcall n w)
  refine ⟨hresting, hadvances, hends, fun hn => ?_⟩
  have hover : ((shutDownNode env call n w).2.node n).state = .terminated := by
    have hend := shutDownNode_end env call n w
    generalize shutDownNode env call n w = result at hend
    cases hend with
    | already hstate => exact hstate.resolve_left (hw.stopping n)
    | nobody hle => exact absurd hn (Nat.not_lt_of_le hle)
    | stuck hstate hstop =>
      rw [stopServer_stops hr.stops] at hstop
      cases hstop
    | shut hn hstate hstop =>
      have hstopped := Minor.stop env hstate
      have hclosed := (closeAll_story hcall n _).ordered hr (hw.toOrderly.minor hstopped) (.nil _)
      generalize closeAll call n (stopServer env n (w.setState n .stopping)).2 = w₁ at hclosed ⊢
      have hn₁ : n.number < w₁.nodes.length :=
        Nat.lt_of_lt_of_le hn (Nat.le_trans hstopped.advances.nodes hclosed.advances.nodes)
      have hterminated : ((w₁.terminate n).node n).state = .terminated := by
        rw [World.terminate, node_setNode, if_pos ⟨rfl, hn₁⟩]
      have he : ¬ (Event.shutDown n).IsRoster := id
      have hminor : Minor (some n) w₁ (Turn.tell n (.shutDown n) ⟨[], w₁.terminate n⟩).world :=
        (Minor.terminate n w₁).trans (.tell n he ⟨[], w₁.terminate n⟩)
      have htold := (raise_story hcall n (.shutDown n) (w₁.terminate n)).ordered hr
        (hclosed.orderly.minor hminor) (.tell he fun m hm => by cases hm; exact hterminated)
      have hlast := htold.advances.terminated n hterminated
      have hdrop : Minor none _ (dropListeners n _) := .dropListeners fun _ => hlast
      exact hdrop.advances.terminated n hlast
  exact ⟨hover, fun hlists => hresting.listed_alive n hlists hover⟩

include hr hcall in
/-- All nodes that are shut down one after the other have terminated. -/
theorem shutDownAll_atRest (nodes : List NodeRef) {w : World L S} (hw : w.Resting) :
    let w' := (shutDownAll (shutDownNode env call) nodes w).2
    w'.Resting ∧ Advances none w w' ∧ SameEnds w w' ∧
      ∀ n ∈ nodes, n.number < w.nodes.length → (w'.node n).state = .terminated := by
  induction nodes generalizing w with
  | nil => exact ⟨hw, .refl w, .refl w, fun _ h => absurd h List.not_mem_nil⟩
  | cons n nodes ih =>
    rw [shutDownAll_cons]
    obtain ⟨hnode, hadvances, hends, hover⟩ := shutDownNode_atRest hr hcall hw n
    obtain ⟨hrest, hadvances', hends', hall⟩ := ih hnode
    refine ⟨hrest, hadvances.trans hadvances', hends.trans hends', fun m hm hlength => ?_⟩
    rcases List.mem_cons.mp hm with rfl | hm
    · exact hadvances'.terminated m (hover hlength).1
    · exact hall m hm (Nat.lt_of_lt_of_le hlength hadvances.nodes)

include hr hcall in
/-- When a registry is closed and all its nodes are shut down, it lists nobody any more. -/
theorem shutDownAll_closeRegistry {w : World L S} (hw : w.Resting) {r : RegistryRef}
    (hlength : r.number < w.registries.length) :
    let w' := (shutDownAll (shutDownNode env call) ((w.registry r).nodes.map (·.2))
      (w.closeRegistry r)).2
    w'.Resting ∧ Advances none w w' ∧ SameEnds (w.closeRegistry r) w' ∧
      (w'.registry r).isShutDown = true ∧ (w'.registry r).nodes = [] := by
  intro w'
  have hclosing : Minor none w (w.closeRegistry r) := .setRegistry r rfl fun _ => rfl
  have hclosed : ((w.closeRegistry r).registry r).isShutDown = true := by
    rw [closeRegistry, registry_setRegistry, if_pos ⟨rfl, hlength⟩]
  obtain ⟨hrest, hadvances, hends, hover⟩ := shutDownAll_atRest hr hcall
    ((w.registry r).nodes.map (·.2)) (hw.minor hclosing)
  refine ⟨hrest, hclosing.advances.trans hadvances, hends, (hends r).1.trans hclosed, ?_⟩
  -- all nodes that there were have terminated, and no others have come
  refine List.eq_nil_iff_forall_not_mem.mpr ?_
  rintro ⟨id, n⟩ hmem
  rcases hadvances.entries r id n hmem with hentry | ⟨-, hopen⟩
  · rw [hclosing.entries] at hentry
    have hn : (w'.node n).state = .terminated :=
      hover n (List.mem_map.mpr ⟨(id, n), hentry, rfl⟩)
        (hclosing.nodes ▸ (hw.entry r id n hentry).1)
    exact hrest.listed_alive n ⟨r, id, hmem⟩ hn
  · rw [hclosed] at hopen
    cases hopen

/-- What is put on record of a registry that has given up its nodes, as the end of its shutdown, is
no different about other registries than before. -/
theorem AtRest.emptyRegistry {w w₁ : World L S} (hw : w.AtRest) {r : RegistryRef}
    (hrest : w₁.Resting) (hadvances : Advances none w w₁) (hends : SameEnds (w.closeRegistry r) w₁)
    (hshut : (w₁.registry r).isShutDown = true) (hempty : (w₁.registry r).nodes = [])
    (completed : Bool) :
    let w' := w₁.emptyRegistry r completed
    w'.AtRest ∧ Advances none w w' ∧
      (∀ q, q ≠ r → (w'.registry q).outcome = (w.registry q).outcome) ∧
      (w'.registry r).isShutDown = true ∧ (w'.registry r).outcome = some completed := by
  intro w'
  have hlength : r.number < w₁.registries.length := by
    refine Nat.lt_of_not_le fun hle => ?_
    rw [registry_of_length_le hle] at hshut
    cases hshut
  have hemptying : Minor none w₁ w' := .setRegistry r hempty.symm id
  have hall : Advances none w w' := hadvances.trans hemptying.advances
  have hself : w'.registry r = _ := (registry_setRegistry r r _ w₁).trans (if_pos ⟨rfl, hlength⟩)
  have hothers {q : RegistryRef} (hq : q ≠ r) :
      (w'.registry q).isShutDown = (w.registry q).isShutDown ∧
        (w'.registry q).outcome = (w.registry q).outcome := by
    have hafter : w'.registry q = w₁.registry q :=
      (registry_setRegistry r q _ w₁).trans (if_neg fun h => hq h.1)
    have hbefore : (w.closeRegistry r).registry q = w.registry q :=
      (registry_setRegistry r q _ w).trans (if_neg fun h => hq h.1)
    rw [hafter, ← hbefore]
    exact hends q
  refine ⟨⟨hrest.minor hemptying, fun q hq => ?_⟩, hall, fun q hq => (hothers hq).2, ?_, ?_⟩
  · by_cases hqr : q = r
    · subst hqr
      rw [hself]
      exact ⟨rfl, rfl⟩
    · rw [(hothers hqr).1] at hq
      obtain ⟨hnobody, hsome⟩ := hw.shutDown q hq
      exact ⟨hall.nodes_eq_nil hq hnobody, (hothers hqr).2 ▸ hsome⟩
  · rw [hself]
    exact hshut
  · rw [hself]

include hr hcall in
/-- **A registry that is shut down gives up all its nodes**, and its outcome is on record. -/
theorem shutDownRegistry_atRest {w : World L S} (hw : w.AtRest) (r : RegistryRef) :
    let result := shutDownRegistry env call r w
    result.2.AtRest ∧ Advances none w result.2 ∧
      (∀ q, (w.registry q).isShutDown = true →
        (result.2.registry q).outcome = (w.registry q).outcome) ∧
      (r.number < w.registries.length → (w.registry r).isShutDown = false →
        (result.2.registry r).isShutDown = true ∧
          (result.2.registry r).outcome = some result.1) := by
  unfold shutDownRegistry shutDownRegistryBy
  dsimp only
  split
  · rename_i hshut
    refine ⟨hw, .refl w, fun _ _ => rfl, fun _ hopen => ?_⟩
    rw [hshut] at hopen
    cases hopen
  rename_i hopen
  by_cases hlength : r.number < w.registries.length
  · obtain ⟨hrest, hadvances, hends, hshut, hempty⟩ :=
      shutDownAll_closeRegistry hr hcall hw.toResting hlength
    generalize shutDownAll (shutDownNode env call) ((w.registry r).nodes.map (·.2))
      (w.closeRegistry r) = result at hrest hadvances hends hshut hempty
    obtain ⟨hatRest, hall, hothers, hout⟩ :=
      hw.emptyRegistry hrest hadvances hends hshut hempty result.1
    exact ⟨hatRest, hall, fun q hq => hothers q fun h => hopen (h ▸ hq), fun _ _ => hout⟩
  · -- a registry that is not there has nothing to give up
    have hle := Nat.le_of_not_lt hlength
    have hnobody : (w.registry r).nodes = [] := by
      rw [registry_of_length_le hle]
      rfl
    have hclose : w.closeRegistry r = w := setRegistry_of_length_le hle _
    have hall : shutDownAll (shutDownNode env call) [] w = (true, w) := rfl
    have hempty : w.emptyRegistry r true = w := setRegistry_of_length_le hle _
    rw [hnobody, hclose, List.map_nil, hall, hempty]
    exact ⟨hw, .refl w, fun _ _ => rfl, fun h => absurd h hlength⟩

-- ---------------------------------------------------------------------------
-- Runs
-- ---------------------------------------------------------------------------

/-- What is assumed of surroundings: servers stop, and listeners are mannerly. -/
structure Mannerly (env : Surroundings L S) : Prop where
  stops : ∀ a s, (env.stopServer a s).1 = true
  listeners : ∀ depth l e w, Within env Act.Mannerly depth (env.react l e w) w

/-- Mannerly listeners are regular ones. -/
theorem Mannerly.regular (h : Mannerly env) : Regular env Act.Mannerly where
  stops := h.stops
  unlisten n id _ hmay := hmay.1 n id rfl
  shutDown r _ hmay := hmay.2 r rfl

theorem Mannerly.faithful (h : Mannerly env) (depth : Nat) :
    Faithful env Act.Mannerly (World.call env depth) :=
  call_faithful_of env h.listeners depth

/-- **An honest act leaves a world at rest**, and the outcomes of shutdowns that were before it. -/
theorem perform_atRest (henv : Mannerly env) (depth : Nat) {act : Act L} {w : World L S}
    (hact : act.Honest w) (hw : w.AtRest) :
    let w' := (perform env depth act w).2
    w'.AtRest ∧ Advances none w w' ∧ ∀ q, (w.registry q).isShutDown = true →
      (w'.registry q).outcome = (w.registry q).outcome := by
  have hcall := henv.faithful depth
  by_cases hshut : ∃ r, act = .shutDown r
  · obtain ⟨r, rfl⟩ := hshut
    obtain ⟨hrest, hadvances, hkept, -⟩ := shutDownRegistry_atRest henv.regular hcall hw r
    exact ⟨hrest, hadvances, hkept⟩
  · have hmannerly : act.Mannerly w := ⟨hact, fun r h => hshut ⟨r, h⟩⟩
    obtain ⟨hrest, hadvances, hends⟩ := hw.story henv.regular (performWith_story hcall hmannerly)
    exact ⟨hrest, hadvances, fun q _ => (hends q).2⟩

/-- **An honest run leaves a world at rest**, and the outcomes of shutdowns that were before it. -/
theorem run_atRest (henv : Mannerly env) (depth : Nat) {acts : List (Act L)} {w : World L S}
    (hacts : Within env Act.Honest depth acts w) (hw : w.AtRest) :
    let w' := (run env depth acts w).2
    w'.AtRest ∧ Advances none w w' ∧ ∀ q, (w.registry q).isShutDown = true →
      (w'.registry q).outcome = (w.registry q).outcome := by
  induction acts generalizing w with
  | nil => exact ⟨hw, .refl w, fun _ _ => rfl⟩
  | cons act acts ih =>
    obtain ⟨hfirst, hadvances, hkept⟩ := perform_atRest henv depth hacts.1 hw
    obtain ⟨hrest, hadvances', hkept'⟩ := ih hacts.2 hfirst
    rw [run_cons]
    exact ⟨hrest, hadvances.trans hadvances', fun q hq =>
      (hkept' q (hadvances.shutDown q hq)).trans (hkept q hq)⟩

/-- The program begins with registries that were not used yet. -/
theorem AtRest.start {registries : List (Registry L)}
    (h : ∀ reg ∈ registries, reg.nodes = [] ∧ reg.isShutDown = false) (outside : S) :
    ({ World.start outside with registries } : World L S).AtRest := by
  let w : World L S := { World.start outside with registries }
  have hnode (n : NodeRef) : w.node n = default := node_of_length_le (Nat.zero_le _)
  have hopen (r : RegistryRef) : (w.registry r).isShutDown = false :=
    registry_of_forall (w := w) (P := (·.isShutDown = false)) rfl (fun reg hreg => (h reg hreg).2) r
  refine ⟨⟨.start (fun reg hreg => (h reg hreg).1) outside, fun n => ?_, fun n _ => ?_⟩,
    fun r hr => ?_⟩
  · intro hstopping
    cases (hnode n ▸ hstopping : (default : Node L).state = .stopping)
  · intro hover
    cases (hnode n ▸ hover : (default : Node L).state = .terminated)
  · cases (hopen r).symm.trans hr

-- ---------------------------------------------------------------------------
-- What can be seen
-- ---------------------------------------------------------------------------

/-- A node of a registry. -/
structure BelongsTo (r : RegistryRef) (n : NodeRef) (w : World L S) : Prop where
  created : n.number < w.nodes.length
  registry : (w.node n).registry = r

/-- A registry has told of an event once, and just those who listened to it then were called. -/
def ToldBy (r : RegistryRef) (e : Event) (w : World L S) : Prop :=
  ∃ listeners, w.told e = [] ∧ w.relayed e = [(r, listeners)] ∧ (w.heard e).Perm listeners

/-- A registry in which nothing is going on. -/
structure InOrder (call : L → Event → World L S → World L S) (r : RegistryRef)
    (w : World L S) : Prop where
  /-- Every id leads to one node at most, which has this id. -/
  unique : ((w.registry r).nodes.map (·.1)).Nodup
  entry : ∀ id n, (w.registry r).find id = some n → BelongsTo r n w ∧ (w.node n).id = id
  /-- Who asks for a node that is there gets it. -/
  found : ∀ id n, (w.registry r).isShutDown = false → (w.registry r).find id = some n →
    nodeOf call r id w = (.ok n, w)
  /-- Those who have not terminated are there, and nobody else. -/
  present : ∀ n, BelongsTo r n w →
    ((w.registry r).find (w.node n).id = some n ↔ (w.node n).state ≠ .terminated)
  added : ∀ n, BelongsTo r n w → ToldBy r (.nodeAdded n) w
  removed : ∀ n, BelongsTo r n w → (w.node n).state = .terminated → ToldBy r (.nodeRemoved n) w
  remains : ∀ n, BelongsTo r n w → (w.node n).state ≠ .terminated → Untold (.nodeRemoved n) w
  /-- The addresses are those of the nodes that run, each of which has one. -/
  addresses : ((w.addressesById r).map (·.1)).Nodup ∧ ∀ id a, (id, a) ∈ w.addressesById r ↔
    ∃ n, BelongsTo r n w ∧ (w.node n).state = .running ∧ (w.node n).id = id ∧
      (w.node n).address = some a
  addressed : ∀ n, BelongsTo r n w → (w.node n).state = .running → (w.node n).address.isSome

/-- A registry that was shut down with this outcome. -/
structure IsOut (env : Surroundings L S) (call : L → Event → World L S → World L S) (b : Bool)
    (r : RegistryRef) (w : World L S) : Prop where
  nodes : (w.registry r).nodes = []
  node : ∀ id, nodeOf call r id w = (.error .registryShutDown, w)
  start : ∀ id port, startIn env call r id port w = (.error .registryShutDown, w)
  send : ∀ id payload target,
    sendIn env call r id payload target w = (.error .registryShutDown, w)
  connect : ∀ id a, connectIn env call r id a w = (.error .registryShutDown, w)
  shutDown : shutDownRegistry env call r w = (b, w)

/-- Whoever listens to a registry is told once of what it announces. -/
theorem Orderly.toldBy {w : World L S} (hw : w.Orderly) {r : RegistryRef} {e : Event}
    (he : e.IsRoster) (hcalled : Called e ⟨[], w⟩) (h : w.Announced r e) : ToldBy r e w := by
  obtain ⟨⟨q, listeners⟩, hrelayed, rfl⟩ := List.map_eq_singleton_iff.mp h
  refine ⟨listeners, hw.told e he, hrelayed, ?_⟩
  have hheard := hcalled.heard_perm
  rwa [hw.told e he, hrelayed, List.flatMap_nil, List.nil_append, List.flatMap_singleton] at hheard

theorem Orderly.untold {w : World L S} (hw : w.Orderly) {e : Event} (he : e.IsRoster)
    (hcalled : Called e ⟨[], w⟩) (h : w.relayed e = []) : Untold e w := by
  have hheard := hcalled.heard_perm
  rw [hw.told e he, h, List.flatMap_nil, List.flatMap_nil, List.append_nil] at hheard
  exact ⟨hw.told e he, h, hheard.eq_nil⟩

/-- At rest `find_node` finds just the nodes that have not terminated. -/
theorem AtRest.find_eq_some_iff {w : World L S} (hw : w.AtRest) {r : RegistryRef}
    (hr : r.number < w.registries.length) {n : NodeRef} (hn : BelongsTo r n w) :
    (w.registry r).find (w.node n).id = some n ↔ (w.node n).state ≠ .terminated := by
  obtain ⟨hcreated, rfl⟩ := hn
  rw [hw.toOrderly.find_eq_some_iff, ← hw.lists_iff]
  exact ⟨hw.listed_alive n, hw.listed n ⟨hcreated, hr⟩⟩

/-- A node that is there, and has an address, runs. -/
theorem AtRest.running {w : World L S} (hw : w.AtRest) {n : NodeRef} {a : Address}
    (hlists : w.Lists n) (ha : (w.node n).address = some a) : (w.node n).state = .running := by
  have hnone := (hw.addressed n).2
  rw [ha] at hnone
  cases hstate : (w.node n).state with
  | running => rfl
  | new => exact nomatch hnone (.inl hstate)
  | starting => exact nomatch hnone (.inr hstate)
  | stopping => exact absurd hstate (hw.stopping n)
  | terminated => exact absurd hstate (hw.listed_alive n hlists)

/-- At rest a registry is in order. -/
theorem AtRest.inOrder {w : World L S} (hw : w.AtRest) (hcalled : ∀ e, Called e ⟨[], w⟩)
    (call : L → Event → World L S → World L S) {r : RegistryRef}
    (hr : r.number < w.registries.length) : InOrder call r w where
  unique := hw.unique r
  entry id n hfind := by
    obtain ⟨hn, hid, hregistry⟩ := hw.entry r id n (mem_of_find hfind)
    exact ⟨⟨hn, hregistry⟩, hid⟩
  found id n hopen hfind := by
    unfold nodeOf
    dsimp only
    rw [hopen, if_neg Bool.false_ne_true, hfind]
  present n hn := hw.find_eq_some_iff hr hn
  added n hn :=
    hw.toldBy (Event.isRoster_nodeAdded n) (hcalled _) (hn.registry ▸ hw.added n hn.created)
  removed n hn hover := by
    obtain ⟨hcreated, rfl⟩ := hn
    refine hw.toldBy (Event.isRoster_nodeRemoved n) (hcalled _) ?_
    exact hw.removed n ⟨hcreated, hr⟩ fun hlists => hw.listed_alive n hlists hover
  remains n hn halive := by
    obtain ⟨hcreated, rfl⟩ := hn
    refine hw.untold (Event.isRoster_nodeRemoved n) (hcalled _) ?_
    exact hw.remains n (.inl (hw.listed n ⟨hcreated, hr⟩ halive))
  addresses := by
    constructor
    · have hkeys : (w.registry r).nodes.Pairwise fun e e' => e.1 ≠ e'.1 :=
        List.pairwise_map.mp (hw.unique r)
      refine List.pairwise_map.mpr (hkeys.filterMap _ fun e e' hne b hb b' hb' => ?_)
      obtain ⟨a, -, rfl⟩ := Option.map_eq_some_iff.mp hb
      obtain ⟨a', -, rfl⟩ := Option.map_eq_some_iff.mp hb'
      exact hne
    · intro id a
      unfold addressesById
      rw [List.mem_filterMap]
      constructor
      · rintro ⟨⟨id', n⟩, hmem, heq⟩
        obtain ⟨a', ha, heq⟩ := Option.map_eq_some_iff.mp heq
        cases heq
        obtain ⟨hn, hid, hregistry⟩ := hw.entry r _ n hmem
        exact ⟨n, ⟨hn, hregistry⟩, hw.running ⟨r, _, hmem⟩ ha, hid, ha⟩
      · rintro ⟨n, hn, hrunning, rfl, ha⟩
        have halive : (w.node n).state ≠ .terminated := fun h => nomatch hrunning.symm.trans h
        have hmem := mem_of_find ((hw.find_eq_some_iff hr hn).mpr halive)
        exact ⟨_, hmem, congrArg (Option.map fun a => ((w.node n).id, a)) ha⟩
  addressed n _ hrunning := (hw.addressed n).1 hrunning

/-- A registry that was shut down is out for good, and answers as it did. -/
theorem AtRest.isOut {w : World L S} (hw : w.AtRest) (env : Surroundings L S)
    (call : L → Event → World L S → World L S) {r : RegistryRef} {b : Bool}
    (hshut : (w.registry r).isShutDown = true) (houtcome : (w.registry r).outcome = some b) :
    IsOut env call b r w := by
  have hnode (id : String) : nodeOf call r id w = (.error .registryShutDown, w) := by
    unfold nodeOf
    dsimp only
    rw [if_pos hshut]
  refine ⟨(hw.shutDown r hshut).1, hnode, fun id port => ?_, fun id payload target => ?_,
    fun id a => ?_, ?_⟩
  · rw [startIn, hnode]
  · rw [sendIn, hnode]
  · rw [connectIn, hnode]
  · rw [shutDownRegistry, shutDownRegistryBy, if_pos hshut, houtcome]
    rfl

/-- **Registries are in order** after any run. A node of theirs that is shut down then terminates
and leaves, and a registry that is shut down is out for good, with the outcome of that shutdown. -/
theorem registries_in_order (env : Surroundings L S) (henv : Mannerly env) (depth : Nat)
    (acts : List (Act L)) (registries : List (Registry L))
    (hfresh : ∀ reg ∈ registries, reg.nodes = [] ∧ reg.isShutDown = false) (outside : S) :
    let before : World L S := { start outside with registries }
    let w := (run env depth acts before).2
    let call := World.call env depth
    Within env Act.Honest depth acts before →
      (∀ r, r.number < registries.length → InOrder call r w) ∧
      (∀ r n, r.number < registries.length → BelongsTo r n w →
        let result := shutDownNode env call n w
        result.1 = some true ∧ (result.2.node n).state = .terminated ∧ InOrder call r result.2) ∧
      ∀ r more, r.number < registries.length → (w.registry r).isShutDown = false →
        let result := shutDownRegistry env call r w
        Within env Act.Honest depth more result.2 →
          IsOut env call result.1 r (run env depth more result.2).2 := by
  intro before w call hacts
  have hbefore : before.AtRest := .start hfresh outside
  obtain ⟨hrest, -, -⟩ := run_atRest henv depth hacts hbefore
  have hcall : Faithful env Act.Mannerly call := henv.faithful depth
  have hlength : w.registries.length = registries.length :=
    (run_story_free env depth acts before).lasting.registries
  have hcalled (e : Event) : Called e ⟨[], w⟩ :=
    (run_runs env depth acts before []).called (Called.of_eq (.start e outside) rfl rfl)
  refine ⟨fun r hr => ?_, fun r n hr hn => ?_, fun r more hr hopen => ?_⟩
  · exact hrest.inOrder hcalled call (hlength ▸ hr)
  · have hstory := shutDownNode_story hcall n w
    obtain ⟨hrest', -, -⟩ := hrest.story henv.regular hstory
    obtain ⟨-, -, -, hover⟩ := shutDownNode_atRest henv.regular hcall hrest.toResting n
    refine ⟨shutDownNode_answer henv.stops n w, (hover hn.created).1,
      hrest'.inOrder (fun e => ?_) call ?_⟩
    · exact (hstory.runs []).called (hcalled e)
    · rw [hstory.lasting.registries, hlength]
      exact hr
  · intro result hmore
    obtain ⟨hrest', -, -, hout⟩ := shutDownRegistry_atRest henv.regular hcall hrest r
    obtain ⟨hshut, houtcome⟩ := hout (hlength ▸ hr) hopen
    obtain ⟨hlast, hadvances, hkept⟩ := run_atRest henv depth hmore hrest'
    exact hlast.isOut env call (hadvances.shutDown r hshut) ((hkept r hshut).trans houtcome)

/-- A listener that asks for a new node in place of each one that has left. The first node is shut
down twice, and then the registry. -/
theorem registries_in_order_sample :
    let react : Unit → Event → World Unit Unit → List (Act Unit) := fun _ e w => match e with
      | .nodeRemoved n => [.start ⟨0⟩ (w.node n).id 0]
      | _ => []
    let env : Surroundings Unit Unit := .plain react ⟨0, ⟨[], [], .ended⟩, .unlimited⟩
    let acts : List (Act Unit) := [.listenToRegistry ⟨0⟩ (), .start ⟨0⟩ "a" 0, .listen ⟨0⟩ (),
      .unlisten ⟨0⟩ ⟨3⟩, .shutDownNode ⟨0⟩, .shutDownNode ⟨0⟩]
    let w := (run env 1 acts { start () with registries := [.fresh .default .clearNet] }).2
    let result := shutDownRegistry env (World.call env 1) ⟨0⟩ w
    InOrder (World.call env 1) ⟨0⟩ w ∧ (w.registry ⟨0⟩).find "a" = some ⟨1⟩ ∧
      ToldBy ⟨0⟩ (.nodeAdded ⟨0⟩) w ∧ ToldBy ⟨0⟩ (.nodeRemoved ⟨0⟩) w ∧
      Untold (.nodeRemoved ⟨1⟩) w ∧ result.1 = true ∧
      IsOut env (World.call env 1) true ⟨0⟩ (run env 1 [.start ⟨0⟩ "a" 0] result.2).2 := by
  intro react env acts w result
  have henv : Mannerly env := by
    refine ⟨fun _ _ => rfl, fun depth l e w => .of_forall env (fun act hact w => ?_) w⟩
    cases e with
    | nodeRemoved n =>
      obtain rfl := List.mem_singleton.mp hact
      constructor
      · intro m id h
        cases h
      · intro r h
        cases h
    | _ => exact absurd hact List.not_mem_nil
  have hfresh : ∀ reg ∈ [(Registry.fresh .default .clearNet : Registry Unit)],
      reg.nodes = [] ∧ reg.isShutDown = false := by
    intro reg hreg
    obtain rfl := List.mem_singleton.mp hreg
    exact ⟨rfl, rfl⟩
  have hacts : Within env Act.Honest 1 acts
      { start () with registries := [.fresh .default .clearNet] } := by
    refine ⟨?_, ?_, ?_, ?_, ?_, ?_, trivial⟩
    all_goals
      intro n id h
      cases h
    decide +kernel
  obtain ⟨horder, -, hout⟩ :=
    registries_in_order env henv 1 acts [.fresh .default .clearNet] hfresh () hacts
  have hw : InOrder (World.call env 1) ⟨0⟩ w := horder ⟨0⟩ (by decide)
  have hfirst : BelongsTo ⟨0⟩ ⟨0⟩ w := ⟨by decide +kernel, by decide +kernel⟩
  have hsecond : BelongsTo ⟨0⟩ ⟨1⟩ w := ⟨by decide +kernel, by decide +kernel⟩
  have hmore : Within env Act.Honest 1 [.start ⟨0⟩ "a" 0] result.2 := by
    refine ⟨?_, trivial⟩
    intro n id h
    cases h
  have hopen : (w.registry ⟨0⟩).isShutDown = false := by decide +kernel
  have hresult : result.1 = true := by decide +kernel
  refine ⟨hw, by decide +kernel, hw.added ⟨0⟩ hfirst, hw.removed ⟨0⟩ hfirst (by decide +kernel),
    hw.remains ⟨1⟩ hsecond (by decide +kernel), hresult, ?_⟩
  rw [← hresult]
  exact hout ⟨0⟩ [.start ⟨0⟩ "a" 0] (by decide) hopen hmore

end World
end Courier
