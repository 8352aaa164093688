import Courier.Proofs.Fanout
import Courier.Proofs.Worlds.Lifecycle
import Courier.Proofs.Worlds.Registries

/-!
# Courier — events and the listeners of registries

The first to listen to a node is its registry, from before anyone else can get hold of the node, and
it listens until the node has told of its own end. So whatever a node has to tell, the registry has
it passed on before anything else happens, to those who listen to its nodes then. After its end a node
has nothing to tell: it has no open connection to read from or to close.

Nothing is assumed of listeners but what `Act.Proper` says. They may come and go while they are
called, shut down nodes and registries, and raise further events.

* `World.Primed` — registries listen to their nodes;
* `World.Logged` — what happens from one world to another makes up a log;
* `Story.logged` — this is so for any story;
* `events_fan_out` — what those who listen to the nodes of a registry get, in any run;
* `not_always_in_order` — not always in the order in which it came up.
-/

namespace Courier

variable {L S : Type}

/-- What a node had to tell, if this is what happened. -/
def Deed.nodeEvent? : Deed L → Option Event
  | .nodeTold _ _ e _ => some e
  | _ => none

/-- A listener is taken away only by who has put it there, and it is a node itself that reads from
its connections. -/
def Act.Proper (act : Act L) (w : World L S) : Prop :=
  act.Honest w ∧ ∀ n c, act = .read n c → .began n ∈ w.life c

/-- The registry is the first to listen to the node, and listens once. -/
def Node.Hooked (node : Node L) : Prop :=
  ∃ id own, node.listeners.entries = (id, .registry) :: own ∧ ∀ x ∈ own, ∃ l, x.2 = .own l

/-- Those who listen to the node when its registry does. -/
theorem Node.Hooked.snapshot {node : Node L} (h : node.Hooked) :
    ∃ own : List L, node.listeners.snapshot = .registry :: own.map .own := by
  obtain ⟨id, own, hentries, hown⟩ := h
  have hall : ∃ ls : List L, own.map (·.2) = ls.map .own := by
    clear hentries
    induction own with
    | nil => exact ⟨[], rfl⟩
    | cons x own ih =>
      obtain ⟨hx, hrest⟩ := List.forall_mem_cons.mp hown
      obtain ⟨l, hl⟩ := hx
      obtain ⟨ls, hls⟩ := ih hrest
      exact ⟨l :: ls, by rw [List.map_cons, hl, hls, List.map_cons]⟩
  obtain ⟨ls, hls⟩ := hall
  refine ⟨ls, ?_⟩
  rw [Listeners.snapshot, hentries, List.map_cons, hls]

/-- Further listeners come behind the registry. -/
theorem Node.Hooked.add {node : Node L} (h : node.Hooked) (id : ListenerId) (l : L) :
    Node.Hooked { node with listeners := node.listeners.add id (.own l) } := by
  obtain ⟨first, own, hentries, hown⟩ := h
  refine ⟨first, own ++ [(id, .own l)], ?_, fun x hx => ?_⟩
  · show node.listeners.entries ++ _ = _
    rw [hentries, List.cons_append]
  · rcases List.mem_append.mp hx with hx | hx
    · exact hown x hx
    · exact ⟨l, congrArg (·.2) (List.mem_singleton.mp hx)⟩

/-- The registry stays the first if another listener goes. -/
theorem Node.Hooked.remove {node : Node L} (h : node.Hooked) {id : ListenerId}
    (hid : (id, .registry) ∉ node.listeners.entries) :
    Node.Hooked { node with listeners := (node.listeners.remove id).2 } := by
  obtain ⟨first, own, hentries, hown⟩ := h
  have hfirst : first ≠ id := by
    rintro rfl
    exact hid (hentries ▸ List.mem_cons_self)
  refine ⟨first, own.filter fun e => e.1 ≠ id, ?_, fun x hx => hown x (List.mem_filter.mp hx).1⟩
  show node.listeners.entries.filter _ = _
  rw [hentries, List.filter_cons, if_pos (decide_eq_true hfirst)]

namespace World

-- ---------------------------------------------------------------------------
-- Registries listen to their nodes
-- ---------------------------------------------------------------------------

/-- Registries listen to nodes until these have terminated, and the handles that are to be given out
are not in use. -/
structure Wired (w : World L S) : Prop where
  hooked : ∀ n, n.number < w.nodes.length → (w.node n).state ≠ .terminated → (w.node n).Hooked
  handles : ∀ r, ∀ x ∈ (w.registry r).nodeListeners.entries, x.1.number < w.nextListener

/-- All is set for the next event. -/
structure Primed (w : World L S) : Prop where
  sound : w.Sound
  coherent : ∀ n, Coherent n w
  wired : w.Wired

/-- What changes neither nodes nor registries leaves them wired. -/
theorem Wired.of_eq {w w' : World L S} (hw : w.Wired) (hnodes : w'.nodes = w.nodes)
    (hregistries : w'.registries = w.registries) (hnext : w.nextListener ≤ w'.nextListener) :
    w'.Wired where
  hooked n hn halive := by
    rw [World.node, hnodes] at halive ⊢
    exact hw.hooked n (hnodes ▸ hn) halive
  handles r x hx := by
    rw [World.registry, hregistries] at hx
    exact Nat.lt_of_lt_of_le (hw.handles r x hx) hnext

/-- A node changes that is over, or its registry listens to it as before. -/
theorem Wired.setNode {w : World L S} (hw : w.Wired) {n : NodeRef} {f : Node L → Node L}
    (h : n.number < w.nodes.length → (f (w.node n)).state ≠ .terminated →
      (w.node n).state ≠ .terminated ∧ ((w.node n).Hooked → (f (w.node n)).Hooked)) :
    (w.setNode n f).Wired where
  hooked m hm halive := by
    have hlength : m.number < w.nodes.length := Nat.lt_of_lt_of_eq hm (List.length_modify ..)
    rw [node_setNode] at halive ⊢
    split at halive
    · rename_i heq
      obtain ⟨rfl, hn⟩ := heq
      rw [if_pos ⟨rfl, hn⟩]
      obtain ⟨hbefore, hkeeps⟩ := h hn halive
      exact hkeeps (hw.hooked m hn hbefore)
    · rename_i hne
      rw [if_neg hne]
      exact hw.hooked m hlength halive
  handles := hw.handles

/-- A node changes in something that has nothing to do with its listeners. -/
theorem Wired.setNode_aside {w : World L S} (hw : w.Wired) (n : NodeRef) {f : Node L → Node L}
    (hstate : ∀ node, (f node).state = node.state)
    (hlisteners : ∀ node, (f node).listeners = node.listeners) : (w.setNode n f).Wired := by
  refine hw.setNode fun _ halive => ⟨hstate (w.node n) ▸ halive, fun hhooked => ?_⟩
  unfold Node.Hooked
  rw [hlisteners]
  exact hhooked

/-- A registry has no listeners to its nodes but those it had, or a handle to come is not in use. -/
theorem Wired.setRegistry {w : World L S} (hw : w.Wired) (r : RegistryRef)
    {f : Registry L → Registry L}
    (h : ∀ x ∈ (f (w.registry r)).nodeListeners.entries, x.1.number < w.nextListener) :
    (w.setRegistry r f).Wired where
  hooked := hw.hooked
  handles q x hx := by
    rw [registry_setRegistry] at hx
    split at hx
    · rename_i hq
      exact h x (hq.1 ▸ hx)
    · exact hw.handles q x hx

/-- Closing a connection changes no listener. -/
theorem Wired.takeOut {w : World L S} (hw : w.Wired) (n : NodeRef) (c : ConnectionRef)
    (reason : CloseReason) : (w.takeOut n c reason).2.Wired := by
  have hclosed : Wired ((w.setConnection c fun conn =>
      (conn.markClosed reason).2).record (.closed n c reason)) := hw.of_eq rfl rfl (Nat.le_refl _)
  exact hclosed.setNode_aside n (fun _ => rfl) fun _ => rfl

variable {env : Surroundings L S} {may : Act L → World L S → Prop}

theorem Wired.stop {w : World L S} (hw : w.Wired) {n : NodeRef}
    (hstate : ¬ ((w.node n).state = .stopping ∨ (w.node n).state = .terminated)) :
    (stopServer env n (w.setState n .stopping)).2.Wired := by
  obtain ⟨s, hs⟩ := stop_eq env n w
  rw [hs]
  have hstopped : Wired (w.setNode n fun node => { node with state := .stopping, server := none }) :=
    hw.setNode fun _ _ => ⟨fun h => hstate (.inr h), id⟩
  exact hstopped.of_eq rfl rfl (Nat.le_refl _)

theorem Wired.start {w : World L S} (hw : w.Wired) (n : NodeRef) (port : UInt16) :
    (startNode env n port w).2.Wired := by
  have hend := startNode_end env n port w
  generalize startNode env n port w = result at hend
  have halive (h : (w.node n).state = .new ∨ (w.node n).state = .starting) :
      (w.node n).state ≠ .terminated := by
    rcases h with h | h <;> simp [h]
  have houtside (s : S) : Wired { w with outside := s } := hw.of_eq rfl rfl (Nat.le_refl _)
  cases hend with
  | running hstate => exact hw
  | refused hstate e => exact hw
  | bound hstate a s => exact (houtside s).setNode fun _ _ => ⟨halive hstate, id⟩
  | failed hstate e s => exact (houtside s).setNode fun _ _ => ⟨halive hstate, id⟩

/-- What nobody is told of leaves registries listening. -/
theorem Change.wired (hproper : ∀ act w, may act w → act.Proper w) {w w' : World L S}
    (h : Change env may w w') (hw : w.Wired) : w'.Wired := by
  have hhandle : w.freshListener.2.Wired := hw.of_eq rfl rfl (Nat.le_succ _)
  cases h with
  | dials n f => exact hw.setNode_aside n (fun _ => rfl) fun _ => rfl
  | start n port => exact hw.start n port
  | stuck hstate hstop => exact hw.stop hstate
  | close reason howns hthere => exact hw.takeOut _ _ reason
  | listen n l => exact hhandle.setNode fun _ halive => ⟨halive, fun h => h.add _ l⟩
  | @unlisten n id h =>
    exact hw.setNode fun _ halive =>
      ⟨halive, fun hhooked => hhooked.remove ((hproper _ _ h).1 n id rfl)⟩
  | listenToRegistry r l => exact hhandle.setRegistry r (hhandle.handles r)
  | unlistenToRegistry r id => exact hw.setRegistry r (hw.handles r)
  | @listenToNodes r l h =>
    refine hhandle.setRegistry r fun x hx => ?_
    rcases List.mem_append.mp hx with hx | hx
    · exact hhandle.handles r x hx
    · obtain rfl := List.mem_singleton.mp hx
      exact Nat.lt_succ_self _
  | @unlistenToNodes r id h =>
    exact hw.setRegistry r fun x hx => hw.handles r x (List.mem_filter.mp hx).1
  | closeRegistry h => exact hw.setRegistry _ (hw.handles _)
  | emptyRegistry h hshut completed =>
    exact hw.setRegistry _ fun x hx => absurd hx List.not_mem_nil
  | _ => exact hw.of_eq rfl rfl (Nat.le_refl _)

/-- A new node leaves the listeners of its registry as they are. -/
theorem nodeListeners_createNode (r : RegistryRef) (id : String) (q : RegistryRef)
    (w : World L S) :
    ((w.createNode r id).2.registry q).nodeListeners = (w.registry q).nodeListeners :=
  registry_setRegistry_congr (·.nodeListeners)
    (f := fun reg => { reg with nodes := reg.nodes ++ [(id, (w.createNode r id).1)] })
    (fun _ => rfl) r q w

/-- A new node is listened to from the beginning. -/
theorem Wired.createNode {w : World L S} (hw : w.Wired) (r : RegistryRef) (id : String) :
    (w.createNode r id).2.Wired where
  hooked n hn halive := by
    rw [length_createNode] at hn
    by_cases hold : n.number < w.nodes.length
    · rw [node_createNode r id w hold] at halive ⊢
      exact hw.hooked n hold halive
    · obtain rfl : n = (w.createNode r id).1 := by
        obtain ⟨number⟩ := n
        exact congrArg NodeRef.mk (Nat.le_antisymm (Nat.le_of_lt_succ hn) (Nat.le_of_not_lt hold))
      rw [node_createNode_self]
      exact ⟨w.freshListener.1, [], rfl, fun _ hx => absurd hx List.not_mem_nil⟩
  handles q x hx := by
    rw [nodeListeners_createNode] at hx
    exact Nat.lt_succ_of_lt (hw.handles q x hx)

/-- All is set for the next event after a walk as well. -/
theorem Primed.walk {w w' : World L S} (hw : w.Primed) (h : Walk env may w w') (hwired : w'.Wired) :
    w'.Primed :=
  ⟨h.sound hw.sound, fun n => (h.coherent (hw.coherent n)).1, hwired⟩

/-- Nodes, registries and handles are as they were. -/
theorem Primed.same {w w' : World L S} (hw : w.Primed) (h : Passage env may w w')
    (hnodes : w'.nodes = w.nodes) (hregistries : w'.registries = w.registries)
    (hnext : w'.nextListener = w.nextListener) : w'.Primed :=
  hw.walk h.walk (hw.wired.of_eq hnodes hregistries (Nat.le_of_eq hnext.symm))

/-- A program begins without nodes, and nobody listens to any. -/
theorem Primed.start {registries : List (Registry L)}
    (h : ∀ reg ∈ registries, reg.nodeListeners = .empty) (outside : S) :
    Primed ({ World.start outside with registries } : World L S) := by
  refine ⟨(Settled.start registries outside).sound, fun _ => .start registries outside, ?_, ?_⟩
  · exact fun n hn => absurd hn (Nat.not_lt_zero _)
  · intro r x hx
    have hempty := registry_of_forall (w := { World.start outside with registries })
      (P := (·.nodeListeners = .empty)) rfl h r
    rw [hempty] at hx
    exact absurd hx List.not_mem_nil

-- ---------------------------------------------------------------------------
-- Who can have something to tell
-- ---------------------------------------------------------------------------

/-- A node that has taken up a connection is there. -/
theorem Sound.created {w : World L S} (hs : w.Sound) {n : NodeRef} {c : ConnectionRef}
    (h : .began n ∈ w.life c) : n.number < w.nodes.length := by
  cases hs.standing c with
  | unknown closes life _ _ => exact absurd (life ▸ h) not_mem_closings_of_began
  | listed m _ life _ node _ _ _ =>
    obtain rfl : n = m := hs.began_unique h (by simp [life])
    exact node
  | ended m _ _ _ _ life _ node _ _ _ _ =>
    obtain rfl : n = m := hs.began_unique h (by simp [life])
    exact node

/-- Whoever has read from an open connection has not terminated. -/
theorem HasRead.alive (hproper : ∀ act w, may act w → act.Proper w) {n : NodeRef}
    {c : ConnectionRef} {w : World L S} (h : HasRead env may n c w) (hw : w.Primed) :
    n.number < w.nodes.length ∧ (w.node n).state ≠ .terminated := by
  obtain ⟨w₀, hread, hopen, rfl⟩ := h
  have hbegan := (hproper _ _ hread).2 n c rfl
  refine ⟨hw.sound.created hbegan, fun hover => ?_⟩
  refine (hw.coherent n).closed hw.sound hover hbegan ?_
  rw [connection_setConnection]
  split
  · exact (sameLife_receive ..).closeReason.trans hopen
  · exact hopen

/-- Whoever has a connection in its table has not terminated. -/
theorem Primed.alive_of_contains {w : World L S} (hw : w.Primed) {n : NodeRef} {c : ConnectionRef}
    (h : (w.node n).table.contains c = true) :
    n.number < w.nodes.length ∧ (w.node n).state ≠ .terminated := by
  refine ⟨Nat.lt_of_not_le fun hle => ?_, fun hover => ?_⟩
  · rw [node_of_length_le hle] at h
    cases h
  · rw [(hw.coherent n).not_contains hover] at h
    cases h

-- ---------------------------------------------------------------------------
-- Logs
-- ---------------------------------------------------------------------------

/-- What matters to those who listen to the nodes of the registry, when these calls are due. -/
def scene (r : RegistryRef) (due : List (Duty L)) (w : World L S) : Scene L :=
  ⟨w.nodes.length, (w.registry r).nodeListeners, due⟩

/-- Somebody has asked for it who may. -/
def Asked (may : Act L → World L S → Prop) (r : RegistryRef) : Mark L → Prop
  | .registered id l => ∃ w, may (.listenToNodes r l) w ∧ id = w.freshListener.1
  | .removed id => ∃ w, may (.unlistenToNodes r id) w
  | .emptied => ∃ w, may (.shutDown r) w
  | _ => True

/-- The log says what happens from one world to another, in the course of which the calls that were
due are made. -/
structure Log (may : Act L → World L S → Prop) (r : RegistryRef) (due : List (Duty L))
    (w : World L S) (log : List (Mark L)) (w' : World L S) : Prop where
  calls : w'.calls = w.calls ++ log.flatMap (·.calls)
  deeds : w'.history = w.history ++ log.flatMap (·.deeds)
  course : ∀ later, (w.scene r (due ++ later)).Course r log (w'.scene r later)
  asked : ∀ m ∈ log, Asked may r m

/-- What happens from one world to another makes up a log. -/
def Logged (may : Act L → World L S → Prop) (r : RegistryRef) (due : List (Duty L))
    (w w' : World L S) : Prop := ∃ log, Log may r due w log w'

variable {r : RegistryRef}

/-- Nothing has happened that matters. -/
theorem Logged.of_eq {w w' : World L S} (hcalls : w'.calls = w.calls)
    (hhistory : w'.history = w.history) (hnodes : w'.nodes.length = w.nodes.length)
    (hlisteners : (w'.registry r).nodeListeners = (w.registry r).nodeListeners) :
    Logged may r [] w w' := by
  refine ⟨[], hcalls.trans (List.append_nil _).symm, hhistory.trans (List.append_nil _).symm,
    fun later => ?_, fun _ hm => absurd hm List.not_mem_nil⟩
  rw [scene, scene, hnodes, hlisteners]
  exact .nil _

/-- One thing happens first. -/
theorem Logged.cons {due due' : List (Duty L)} {w w' w'' : World L S} (m : Mark L)
    (hcalls : w'.calls = w.calls ++ m.calls) (hdeeds : w'.history = w.history ++ m.deeds)
    (hnext : ∀ later, (w.scene r (due ++ later)).Next r m (w'.scene r (due' ++ later)))
    (hasked : Asked may r m) (h : Logged may r due' w' w'') : Logged may r due w w'' := by
  obtain ⟨log, hlog⟩ := h
  refine ⟨m :: log, ?_, ?_, fun later => .cons (hnext later) (hlog.course later),
    List.forall_mem_cons.mpr ⟨hasked, hlog.asked⟩⟩
  · rw [hlog.calls, hcalls, List.flatMap_cons, List.append_assoc]
  · rw [hlog.deeds, hdeeds, List.flatMap_cons, List.append_assoc]

/-- A step that makes one mark is logged. -/
theorem Logged.single {due : List (Duty L)} {w w' : World L S} (m : Mark L)
    (hcalls : w'.calls = w.calls ++ m.calls) (hdeeds : w'.history = w.history ++ m.deeds)
    (hnext : ∀ later, (w.scene r (due ++ later)).Next r m (w'.scene r later))
    (hasked : Asked may r m) : Logged may r due w w' := by
  have hrest : Logged may r [] w' w' := .of_eq rfl rfl rfl rfl
  refine .cons m hcalls hdeeds ?_ hasked hrest
  exact hnext

theorem Logged.trans {due due' : List (Duty L)} {w w' w'' : World L S}
    (h : Logged may r due w w') (h' : Logged may r due' w' w'') :
    Logged may r (due ++ due') w w'' := by
  obtain ⟨log, hlog⟩ := h
  obtain ⟨log', hlog'⟩ := h'
  refine ⟨log ++ log', ?_, ?_, fun later => ?_, fun m hm => ?_⟩
  · rw [hlog'.calls, hlog.calls, List.flatMap_append, List.append_assoc]
  · rw [hlog'.deeds, hlog.deeds, List.flatMap_append, List.append_assoc]
  · rw [List.append_assoc]
    exact (hlog.course (due' ++ later)).append (hlog'.course later)
  · rcases List.mem_append.mp hm with hm | hm
    · exact hlog.asked m hm
    · exact hlog'.asked m hm

/-- A change to a registry that has nothing to do with those who listen to its nodes. -/
theorem Logged.setRegistry {q : RegistryRef} {f : Registry L → Registry L}
    (h : ∀ reg, (f reg).nodeListeners = reg.nodeListeners) (w : World L S) :
    Logged may r [] w (w.setRegistry q f) :=
  .of_eq rfl rfl rfl (registry_setRegistry_congr (·.nodeListeners) h q r w)

/-- What changes nodes only needs no log. -/
theorem Logged.setNode (n : NodeRef) (f : Node L → Node L) (w : World L S) :
    Logged may r [] w (w.setNode n f) := .of_eq rfl rfl (List.length_modify ..) rfl

/-- The listeners of a registry change, if there is such a registry. -/
theorem Logged.listeners {q : RegistryRef} {f : Registry L → Registry L} {w : World L S}
    (m : Mark L) (hcalls : m.calls = []) (hdeeds : m.deeds = [])
    (h : q = r → Asked may r m ∧ ∀ due,
      (w.scene r due).Next r m ⟨w.nodes.length, (f (w.registry r)).nodeListeners, due⟩) :
    Logged may r [] w (w.setRegistry q f) := by
  by_cases hq : r = q ∧ q.number < w.registries.length
  · obtain ⟨hasked, hnext⟩ := h hq.1.symm
    refine .single m (by rw [hcalls, List.append_nil]; rfl) (by rw [hdeeds, List.append_nil]; rfl)
      (fun later => ?_) hasked
    rw [show (w.setRegistry q f).scene r later = ⟨w.nodes.length, _, later⟩ from rfl,
      registry_setRegistry, if_pos hq]
    exact hnext later
  · refine .of_eq rfl rfl rfl ?_
    rw [registry_setRegistry, if_neg hq]

theorem Logged.takeOut (n : NodeRef) (c : ConnectionRef) (reason : CloseReason) (w : World L S) :
    Logged may r [] w (w.takeOut n c reason).2 := by
  have hclosed : Logged may r [] w
      ((w.setConnection c fun conn => (conn.markClosed reason).2).record (.closed n c reason)) :=
    .single (.closed n c reason) (List.append_nil _).symm rfl (fun _ => .closed n c reason) trivial
  exact hclosed.trans (.setNode ..)

/-- What nobody is told of. -/
theorem Change.logged {w w' : World L S} (h : Change env may w w') (hw : w.Wired) :
    Logged may r [] w w' := by
  have hhandle : Logged may r [] w w.freshListener.2 := .of_eq rfl rfl rfl rfl
  have aside {w : World L S} (q : RegistryRef) (f : Registry L → Registry L)
      (h : ∀ reg, (f reg).nodeListeners = reg.nodeListeners) :
      Logged may r [] w (w.setRegistry q f) := .setRegistry h w
  cases h with
  | dials n f => exact .setNode ..
  | start n port =>
    have hend := startNode_end env n port w
    generalize startNode env n port w = result at hend
    cases hend <;> exact .of_eq rfl rfl (by first | rfl | exact List.length_modify ..) rfl
  | @stuck n hstate hstop =>
    obtain ⟨s, hs⟩ := stop_eq env n w
    rw [hs]
    exact .of_eq rfl rfl (List.length_modify ..) rfl
  | close reason howns hthere => exact .takeOut _ _ reason w
  | listen n l => exact hhandle.trans (.setNode ..)
  | unlisten h => exact .setNode ..
  | listenToRegistry q l => exact hhandle.trans (aside q _ fun _ => rfl)
  | unlistenToRegistry q id => exact aside q _ fun _ => rfl
  | @listenToNodes q l h =>
    refine hhandle.trans (.listeners (.registered w.freshListener.1 l) rfl rfl ?_)
    rintro rfl
    refine ⟨⟨w, h, rfl⟩, fun due => .registered l (Bool.eq_false_iff.mpr fun hin => ?_)⟩
    obtain ⟨l', hl'⟩ := Listeners.contains_iff.mp hin
    exact Nat.lt_irrefl _ (hw.handles q _ hl')
  | @unlistenToNodes q id h =>
    refine .listeners (.removed id) rfl rfl ?_
    rintro rfl
    exact ⟨⟨w, h⟩, fun due => .removed id⟩
  | @closeRegistry q h => exact aside q _ fun _ => rfl
  | @emptyRegistry q h hshut completed =>
    refine .listeners .emptied rfl rfl ?_
    rintro rfl
    exact ⟨h, fun due => .emptied⟩
  | _ => exact .of_eq rfl rfl rfl rfl

-- ---------------------------------------------------------------------------
-- Stories
-- ---------------------------------------------------------------------------

/-- The call that is due. -/
def dueOf (d : Duty L) : Due L := .call d.call.listener d.call.event

/-- Direct duties are the calls of these listeners. -/
theorem map_dueOf_direct (e : Event) (listeners : List L) :
    (Duty.direct e listeners).map dueOf = listeners.map (.call · e) := by
  rw [Duty.direct, List.map_map]
  rfl

/-- The calls that are due when a registry passes an event on. -/
def relaying (r q : RegistryRef) (e : Event) (w : World L S) : List (Duty L) :=
  if q = r then Duty.passingOn e (w.registry q).nodeListeners
  else Duty.direct e (w.registry q).nodeListeners.snapshot

theorem map_dueOf_relaying (r q : RegistryRef) (e : Event) (w : World L S) :
    (relaying r q e w).map dueOf = (w.registry q).nodeListeners.snapshot.map (.call · e) := by
  unfold relaying
  split
  · rw [Duty.passingOn, Listeners.snapshot, List.map_map, List.map_map]
    rfl
  · exact map_dueOf_direct ..

/-- What a story comes to: the calls that are due are made in its course, and what a registry is to
pass on it passes on at once. -/
structure Told (may : Act L → World L S → Prop) (r : RegistryRef) (t : Turn L S) (w' : World L S) :
    Prop where
  primed : w'.Primed
  calls : ∀ due, t.due = due.map dueOf → Logged may r due t.world w'
  relays : ∀ q e due, t.due = .relay q e :: due.map dueOf →
    Logged may r (relaying r q e t.world ++ due)
      (t.world.record (.registryTold q e (t.world.registry q).nodeListeners.snapshot)) w'

/-- The call is made that is due next, and those that are due after it. -/
theorem Logged.call {due : List (Duty L)} (d : Duty L) {w w' w'' : World L S}
    (hduring : Logged may r [] (w.log d.call.listener d.call.event) w')
    (h : Logged may r due w' w'') : Logged may r (d :: due) w w'' := by
  have hcalled : Logged may r [d] w (w.log d.call.listener d.call.event) :=
    .single (.called d) rfl (List.append_nil _).symm (fun later => .called rfl) trivial
  exact hcalled.trans (hduring.trans h)

/-- Nothing was due. -/
theorem Told.of_logged {w w' : World L S} (hprimed : w'.Primed) (h : Logged may r [] w w') :
    Told may r ⟨[], w⟩ w' where
  primed := hprimed
  calls due hdue := by
    obtain rfl := List.map_eq_nil_iff.mp hdue.symm
    exact h
  relays _ _ _ hdue := by cases hdue

/-- What is done when nothing is due is logged. -/
theorem Told.logged {w w' : World L S} (h : Told may r ⟨[], w⟩ w') : Logged may r [] w w' :=
  h.calls [] rfl

/-- What has to be passed on was due. -/
theorem Told.of_relays {q : RegistryRef} {e : Event} {due : List (Due L)} {w w' : World L S}
    (hprimed : w'.Primed) (h : ∀ rest, due = rest.map dueOf → Logged may r (relaying r q e w ++ rest)
      (w.record (.registryTold q e (w.registry q).nodeListeners.snapshot)) w') :
    Told may r ⟨.relay q e :: due, w⟩ w' where
  primed := hprimed
  calls rest hrest := by
    cases rest with
    | nil => cases hrest
    | cons d rest => cases (List.cons.inj hrest).1
  relays q' e' rest hrest := by
    obtain ⟨heq, hdue⟩ := List.cons.inj hrest
    cases heq
    exact h rest hdue

/-- A registry that has set about passing something on calls its listeners. -/
theorem Told.relayed {q : RegistryRef} {e : Event} {w w' : World L S}
    (h : Told may r (Turn.relay q e ⟨[], w⟩) w') :
    Logged may r (relaying r q e w)
      (w.record (.registryTold q e (w.registry q).nodeListeners.snapshot)) w' := by
  refine h.calls _ ?_
  rw [map_dueOf_relaying]
  exact List.append_nil _

/-- A registry that has set about telling of a node calls its listeners. -/
theorem Told.announced {q : RegistryRef} {e : Event} {w w' : World L S}
    (h : Told may r (Turn.announce q e ⟨[], w⟩) w') :
    ∃ heard, Logged may r (Duty.direct e heard) (w.record (.registryTold q e heard)) w' := by
  refine ⟨(w.registry q).listeners.snapshot, h.calls _ ?_⟩
  rw [map_dueOf_direct]
  exact List.append_nil _

/-- **What a node tells of, its registry passes on at once**, as it is the first to listen. -/
theorem Told.raised {n : NodeRef} {e : Event} {w w' : World L S} (hn : n.number < w.nodes.length)
    (hhooked : (w.node n).Hooked) (h : Told may r (Turn.tell n e ⟨[], w⟩) w') :
    Logged may r [] w w' := by
  obtain ⟨own, hsnapshot⟩ := hhooked.snapshot
  let q := (w.node n).registry
  have hdue : (Turn.tell n e ⟨[], w⟩).due = .relay q e :: (Duty.direct e own).map dueOf := by
    rw [map_dueOf_direct, Turn.tell]
    dsimp only
    rw [hsnapshot, List.append_nil, List.map_cons, List.map_map]
    rfl
  refine .cons (.raised n q e (w.registry q).nodeListeners.snapshot own) ?_ ?_ (fun later => ?_)
    trivial (h.relays q e _ hdue)
  · exact (List.append_nil _).symm
  · show (w.history ++ [_]) ++ [_] = _
    rw [hsnapshot, List.append_assoc]
    rfl
  · rw [List.append_assoc]
    show (w.scene r later).Next r _ ⟨w.nodes.length, (w.registry r).nodeListeners, _⟩
    unfold relaying
    by_cases hq : q = r
    · rw [if_pos hq, hq]
      exact .passedOn hn e own
    · rw [if_neg hq]
      exact .elsewhere hn hq e _ own

/-- Something happens to a node that has not terminated, and the node tells of it. -/
theorem Told.telling {n : NodeRef} {e : Event} {w w₁ w' : World L S} (hw : w.Primed)
    (hpassage : Passage env may w (Turn.tell n e ⟨[], w₁⟩).world) (hwired : w₁.Wired)
    (hlogged : Logged may r [] w w₁) (hn : n.number < w₁.nodes.length)
    (halive : (w₁.node n).state ≠ .terminated)
    (htelling : (Turn.tell n e ⟨[], w₁⟩).world.Primed → Told may r (Turn.tell n e ⟨[], w₁⟩) w') :
    Told may r ⟨[], w⟩ w' := by
  have htold := htelling (hw.walk hpassage.walk (hwired.of_eq rfl rfl (Nat.le_refl _)))
  exact .of_logged htold.primed (hlogged.trans (htold.raised hn (hwired.hooked n hn halive)))

/-- A node joins or leaves a registry, which tells its own listeners. -/
theorem Told.announcing {q : RegistryRef} {e : Event} {w w₁ w' : World L S} (hw : w.Primed)
    (hpassage : Passage env may w (Turn.announce q e ⟨[], w₁⟩).world) (hwired : w₁.Wired)
    (hcalls : w₁.calls = w.calls) (hhistory : w₁.history = w.history) (mark : List L → Mark L)
    (hmark : ∀ heard, (mark heard).calls = [] ∧ (mark heard).deeds = [.registryTold q e heard] ∧
      Asked may r (mark heard))
    (hnext : ∀ heard later, (w.scene r later).Next r (mark heard)
      (w₁.scene r (Duty.direct e heard ++ later)))
    (htelling : (Turn.announce q e ⟨[], w₁⟩).world.Primed →
      Told may r (Turn.announce q e ⟨[], w₁⟩) w') : Told may r ⟨[], w⟩ w' := by
  have htold := htelling (hw.walk hpassage.walk (hwired.of_eq rfl rfl (Nat.le_refl _)))
  obtain ⟨heard, hannounced⟩ := htold.announced
  obtain ⟨hnobody, hdeeds, hasked⟩ := hmark heard
  have hrecorded : w₁.history ++ [.registryTold q e heard] = w.history ++ (mark heard).deeds := by
    rw [hdeeds, hhistory]
  refine .of_logged htold.primed (.cons (mark heard) ?_ hrecorded ?_ hasked hannounced)
  · rw [hnobody, List.append_nil]
    exact hcalls
  · exact hnext heard

/-- A node that has closed its connections terminates and tells of it, and its registry, which still
listens to it then, passes this on. -/
theorem Told.shut {n : NodeRef} {w w' : World L S} (hw : w.Primed) (hn : n.number < w.nodes.length)
    (hend : Ends n w (Turn.tell n (.shutDown n) ⟨[], w.terminate n⟩).world)
    (telling : Story env may (Turn.tell n (.shutDown n) ⟨[], w.terminate n⟩) w')
    (htelling : (Turn.tell n (.shutDown n) ⟨[], w.terminate n⟩).world.Primed →
      Told may r (Turn.tell n (.shutDown n) ⟨[], w.terminate n⟩) w') :
    Told may r ⟨[], w⟩ (w'.dropListeners n) := by
  have hover : (w.terminate n).Wired := hw.wired.setNode fun _ halive => absurd rfl halive
  have hends : Walk env may w _ := .terminate hend
  have hprimed := hw.walk hends (hover.of_eq rfl rfl (Nat.le_refl _))
  have htold := htelling hprimed
  have hhooked : ((w.terminate n).node n).Hooked := by
    rw [node_terminate hn]
    exact hw.wired.hooked n hn (by rw [hend.stopping]; decide)
  -- its listeners are let go of when it has terminated for good
  have hterminated := congrArg Phase.state hend.phase
  have hlast : (w'.node n).state = .terminated :=
    ((telling.passage hprimed.sound).walk.stays hterminated).state.trans hterminated
  have hdropped : Passage env may w' (w'.dropListeners n) :=
    (Step.dropListeners w' n).passage fun m =>
      .stays (.setNode n (fun _ => by rfl) (fun _ => by rfl) w')
  have hterminates : Logged may r [] w (w.terminate n) := .setNode ..
  refine .of_logged (htold.primed.walk hdropped.walk
    (htold.primed.wired.setNode fun _ halive => absurd hlast halive)) ?_
  refine hterminates.trans ((htold.raised ?_ hhooked).trans (.setNode ..))
  exact Nat.lt_of_lt_of_eq hn (List.length_modify ..).symm

/-- **What happens in a story makes up a log.** -/
theorem Story.told (hproper : ∀ act w, may act w → act.Proper w) {t : Turn L S} {w' : World L S}
    (h : Story env may t w') (hw : t.world.Primed) : Told may r t w' := by
  induction h with
  | done w => exact .of_logged hw (.of_eq rfl rfl rfl rfl)
  | change h next ih =>
    have htold := ih (hw.walk h.passage.walk (h.wired hproper hw.wired))
    exact .of_logged htold.primed ((h.logged hw.wired).trans htold.logged)
  | first h next ihFirst ih =>
    have hfirst := ihFirst hw
    have htold := ih hfirst.primed
    exact .of_logged htold.primed (hfirst.logged.trans htold.logged)
  | @call due l e w w' w'' during next ihDuring ih =>
    have hduring := ihDuring (hw.same (Passage.call w l e : Passage env may _ _) rfl rfl rfl)
    have htold := ih hduring.primed
    refine ⟨htold.primed, fun rest hrest => ?_, fun q e' rest hrest => ?_⟩
    · cases rest with
      | nil => cases hrest
      | cons d rest =>
        obtain ⟨hd, hdue⟩ := List.cons.inj hrest
        cases hd
        exact .call d hduring.logged (htold.calls rest hdue)
    · cases (List.cons.inj hrest).1
  | @relay due q e w w' w'' pass hstay next ihPass ih =>
    have hpass := ihPass (hw.same (Passage.relay w q e : Passage env may _ _) rfl rfl rfl)
    have htold := ih hpass.primed
    exact .of_relays htold.primed fun rest hrest => hpass.relayed.trans (htold.calls rest hrest)
  | @leave due q n w w₁ w₂ w₃ pass hthere gone next ihPass ihGone ih =>
    have hpass := ihPass (hw.same (Passage.relay w q _ : Passage env may _ _) rfl rfl rfl)
    have hdropped : (w₁.dropNode q (w₁.node n).id).Wired :=
      hpass.primed.wired.setRegistry q (hpass.primed.wired.handles q)
    have hlisteners : ((w₁.dropNode q (w₁.node n).id).registry r).nodeListeners =
        (w₁.registry r).nodeListeners :=
      registry_setRegistry_congr (·.nodeListeners) (by exact fun _ => rfl) q r w₁
    have hpassage : Passage env may w₁ _ := .leave hthere
    have hgone : Told may r ⟨[], w₁⟩ w₂ := by
      refine .announcing hpass.primed hpassage hdropped rfl rfl (.left n q)
        (fun _ => ⟨rfl, rfl, trivial⟩) (fun heard later => ?_) ihGone
      rw [scene, scene, hlisteners]
      exact .left n q heard
    have htold := ih hgone.primed
    exact .of_relays htold.primed fun rest hrest =>
      hpass.relayed.trans (hgone.logged.trans (htold.calls rest hrest))
  | @tell n c payload w w' h next ih =>
    obtain ⟨hn, halive⟩ := h.alive hproper hw
    exact .telling hw (.tell h payload) hw.wired (.of_eq rfl rfl rfl rfl) hn halive ih
  | @connect n conn w w' hn hstate hadmitted next ih =>
    let taken := (w.addConnection conn).2.takeIn n (w.addConnection conn).1
    have hadded : (w.addConnection conn).2.Wired := hw.wired.of_eq rfl rfl (Nat.le_refl _)
    have htaken : taken.Wired := hadded.setNode_aside n (fun _ => rfl) fun _ => rfl
    have hsame : taken.nodes.length = w.nodes.length := List.length_modify ..
    have hsameState : (taken.node n).state = (w.node n).state :=
      node_setNode_congr (·.state) (by exact fun _ => rfl) n n (w.addConnection conn).2
    refine .telling hw (.connect hn hstate hadmitted) htaken (.of_eq rfl rfl hsame rfl)
      (Nat.lt_of_lt_of_eq hn hsame.symm) ?_ ih
    rw [hsameState]
    rcases hstate with h | h <;> simp [h]
  | @disconnect n c reason w w' howns hthere next ih =>
    have hpassage : Passage env may w _ := .disconnect howns hthere
    rw [fst_takeOut] at hthere
    obtain ⟨hn, halive⟩ := hw.alive_of_contains hthere
    refine .telling hw hpassage (hw.wired.takeOut n c reason) (.takeOut n c reason w)
      (Nat.lt_of_lt_of_eq hn (List.length_modify ..).symm) ?_ ih
    rwa [(Stays.takeOut n c reason w).state]
  | @join q id w w' hopen hnew next ih =>
    have hpassage : Passage env may w _ := .join hopen hnew
    refine .announcing hw hpassage (hw.wired.createNode q id) rfl rfl
      (.joined (w.createNode q id).1 q) (fun _ => ⟨rfl, rfl, trivial⟩) (fun heard later => ?_) ih
    rw [scene, scene, length_createNode, nodeListeners_createNode]
    exact .joined q heard
  | @nobody n w hn =>
    have hrecorded : Passage env may w _ :=
      (Step.nobody w hn).passage fun m => .stays (.nobody n m _ w)
    refine .of_logged (hw.same hrecorded rfl rfl rfl) ?_
    exact .single (.nobody n (w.node n).registry) (List.append_nil _).symm rfl
      (fun later => .nobody hn _) trivial
  | @shut n w w₁ w₂ hn hstate hstop closing hclosed telling ihClosing ihTelling =>
    have hstopped : Step env may w (stopServer env n (w.setState n .stopping)).2 :=
      .stop w hn hstate hstop
    have hbegins : Walk env may w _ := .stop hn hstate hstop
    have hprimed := hw.walk hbegins (hw.wired.stop hstate)
    have hlasting := hstopped.lasting.trans closing.lasting
    have hend : Ends n w₁ (Turn.tell n (.shutDown n) ⟨[], w₁.terminate n⟩).world :=
      .shut hw.sound hn hstate hstop (closing.passage hprimed.sound)
        (hstopped.later.trans closing.later) hlasting hclosed
    have hstops : Logged may r [] w (stopServer env n (w.setState n .stopping)).2 := by
      obtain ⟨s, hs⟩ := stop_eq env n w
      rw [hs]
      exact .of_eq rfl rfl (List.length_modify ..) rfl
    have hclosing := ihClosing hprimed
    have hshut : Told may r ⟨[], w₁⟩ (w₂.dropListeners n) :=
      .shut hclosing.primed (Nat.lt_of_lt_of_le hn hlasting.nodes) hend telling ihTelling
    exact .of_logged hshut.primed (hstops.trans (hclosing.logged.trans hshut.logged))

-- ---------------------------------------------------------------------------
-- Runs
-- ---------------------------------------------------------------------------

/-- **Registries fan out what their nodes tell of.** From any moment between two acts of a program to
any later one, what happens makes up a log: of all calls and of all that is put on record, in order,
of the nodes that come, and of those who begin and cease to listen to the nodes of a registry. By this
log whatever a node has to tell is passed on before anything else happens, and a listener hears, under
its handle, of each event that is raised while it is registered, and once. What a listener raises when
it is called is delivered to all before the delivery goes on, and but for this all is heard in the
order in which it was raised. -/
theorem events_fan_out (env : Surroundings L S) {may : Act L → World L S → Prop}
    (hproper : ∀ act w, may act w → act.Proper w)
    (hmay : ∀ depth l e w, Within env may depth (env.react l e w) w) (depth : Nat)
    (before after : List (Act L)) (registries : List (Registry L))
    (hfresh : ∀ reg ∈ registries, reg.nodeListeners = .empty) (outside : S) :
    let v := (run env depth before { start outside with registries }).2
    let w := (run env depth after v).2
    Within env may depth before { start outside with registries } → Within env may depth after v →
      ∀ r, ∃ log, Log may r [] v log w ∧ ∀ id, Served r id (v.registry r).nodeListeners log := by
  intro v w hbefore hafter r
  have hstart : Primed ({ start outside with registries } : World L S) := .start hfresh outside
  have hfirst : Told may r ⟨[], _⟩ v := (run_story env hmay depth hbefore).told hproper hstart
  have hrest : Told may r ⟨[], v⟩ w := (run_story env hmay depth hafter).told hproper hfirst.primed
  obtain ⟨earlier, hearlier⟩ := hfirst.logged
  obtain ⟨log, hlog⟩ := hrest.logged
  have hdistinct : (v.scene r []).Distinct := by
    refine (hearlier.course []).distinct ?_
    have hempty := registry_of_forall (w := { World.start outside with registries })
      (P := (·.nodeListeners = .empty)) rfl hfresh r
    rw [Scene.Distinct, scene, hempty]
    exact List.nodup_nil
  exact ⟨log, hlog, fun id => (hlog.course []).served hdistinct rfl rfl id⟩

/-- Two listen to the nodes of a registry. When the first hears of a message it takes the other one
away and closes the connection, of which only the first hears then. The other still hears of the
message, and of nothing later. -/
theorem events_fan_out_sample :
    let frame (p : Payload) : Bytes := Frame.ofEnvelope (.ofPayload p)
    let hello : Payload := .handshake ⟨"b", none, protocolVersion⟩
    let message : Payload := .application (.direct "1" "t" [7])
    let env : Surroundings Bool Unit := .plain (fun l e _ => match l, e with
      | true, .message _ c _ => [.unlistenToNodes ⟨0⟩ ⟨3⟩, .close ⟨0⟩ c .explicit]
      | _, _ => []) ⟨0, ⟨frame hello ++ frame message, [], .ended⟩, .unlimited⟩
    let before : List (Act Bool) :=
      [.listenToNodes ⟨0⟩ true, .start ⟨0⟩ "a" 0, .listenToNodes ⟨0⟩ false]
    let after : List (Act Bool) :=
      [.connect ⟨0⟩ "a" (.localhost 7002), .read ⟨0⟩ ⟨0⟩, .shutDown ⟨0⟩]
    let v := (run env 2 before { start () with registries := [.fresh .default .clearNet] }).2
    let w := (run env 2 after v).2
    w.calls = [⟨true, .connected ⟨0⟩⟩, ⟨false, .connected ⟨0⟩⟩, ⟨true, .message message ⟨0⟩ "a"⟩,
      ⟨true, .disconnected ⟨0⟩ .explicit⟩, ⟨false, .message message ⟨0⟩ "a"⟩,
      ⟨true, .shutDown ⟨0⟩⟩] ∧
    ∃ log, Log Act.Proper ⟨0⟩ [] v log w ∧
      ∀ id, Served ⟨0⟩ id (v.registry ⟨0⟩).nodeListeners log := by
  intro frame hello message env before after v w
  have hmay : ∀ depth l e u, Within env Act.Proper depth (env.react l e u) u := by
    refine fun depth l e u => .of_forall env (fun act hact u => ?_) u
    cases l <;> cases e <;> simp [env, Surroundings.plain] at hact
    rcases hact with rfl | rfl
    all_goals
      refine ⟨fun n id h => ?_, fun n c h => ?_⟩
      all_goals cases h
  have hfresh : ∀ reg ∈ [(Registry.fresh .default .clearNet : Registry Bool)],
      reg.nodeListeners = .empty := by
    intro reg hreg
    obtain rfl := List.mem_singleton.mp hreg
    rfl
  have hfan := events_fan_out env (fun _ _ h => h) hmay 2 before after
    [.fresh .default .clearNet] hfresh ()
  have proper (act : Act Bool) (hunlisten : ∀ n id, act ≠ .unlisten n id)
      (hread : ∀ n c, act ≠ .read n c) (u : World Bool Unit) : act.Proper u :=
    ⟨fun n id h => absurd h (hunlisten n id), fun n c h => absurd h (hread n c)⟩
  have hread : (Act.read ⟨0⟩ ⟨0⟩).Proper (perform env 2 (.connect ⟨0⟩ "a" (.localhost 7002)) v).2 := by
    refine ⟨fun n id h => ?_, fun n c h => ?_⟩
    all_goals cases h
    decide +kernel
  refine ⟨by decide +kernel, hfan ?_ ?_ ⟨0⟩⟩
  · refine ⟨proper _ ?_ ?_ _, proper _ ?_ ?_ _, proper _ ?_ ?_ _, trivial⟩
    all_goals
      intro _ _ h
      cases h
  · refine ⟨proper _ ?_ ?_ _, hread, proper _ ?_ ?_ _, trivial⟩
    all_goals
      intro _ _ h
      cases h

/-- Not everyone hears of all events in the order in which they were raised. When the first of two
listeners hears of a message it closes the connection. The other one is told of the end of the
connection at once, and of the message only when the delivery goes on. -/
theorem not_always_in_order :
    ¬ ∀ (env : Surroundings Bool Unit) (depth : Nat) (acts : List (Act Bool)),
      let v := (run env depth [.listenToNodes ⟨0⟩ true, .listenToNodes ⟨0⟩ false]
        { start () with registries := [.fresh .default .clearNet] }).2
      let w := (run env depth acts v).2
      (w.registry ⟨0⟩).nodeListeners.entries = (v.registry ⟨0⟩).nodeListeners.entries →
      (w.calls.filter (·.listener = false)).map (·.event) = w.history.filterMap Deed.nodeEvent? := by
  intro hordered
  let frame (p : Payload) : Bytes := Frame.ofEnvelope (.ofPayload p)
  let hello : Payload := .handshake ⟨"b", none, protocolVersion⟩
  let message : Payload := .application (.direct "1" "t" [7])
  let env : Surroundings Bool Unit := .plain (fun l e _ => match l, e with
    | true, .message _ c _ => [.close ⟨0⟩ c .explicit]
    | _, _ => []) ⟨0, ⟨frame hello ++ frame message, [], .ended⟩, .unlimited⟩
  have hheard := hordered env 2
    [.start ⟨0⟩ "a" 0, .connect ⟨0⟩ "a" (.localhost 7002), .read ⟨0⟩ ⟨0⟩] (by decide +kernel)
  exact absurd hheard (by decide +kernel)

end World
end Courier
