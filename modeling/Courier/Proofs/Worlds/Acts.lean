import Courier.Proofs.Worlds.Lasting
import Courier.Proofs.Worlds.Tables

/-!
# Courier — acts have a story

Whatever an act does to a world, the way there is a story, provided that calling a listener is one.
Listeners that act are called in just this way, to whatever depth, and so all that happens in a run
has a story; and since stories are made of moves, it is made of moves.

* `Faithful` — what calling a listener has to be;
* `performWith_story` — an act, function by function;
* `call_faithful`, `run_runs` — listeners that act, and runs.
-/

namespace Courier

variable {L S : Type}

namespace World

-- ---------------------------------------------------------------------------
-- Telling listeners
-- ---------------------------------------------------------------------------

/-- Calling a listener is to make the call that is due, and then a story of what the listener
does. -/
def Faithful (env : Surroundings L S) (may : Act L → World L S → Prop)
    (call : L → Event → World L S → World L S) : Prop :=
  ∀ l e w, Story env may ⟨[], w.log l e⟩ (call l e w)

variable {env : Surroundings L S} {may : Act L → World L S → Prop}
  {call : L → Event → World L S → World L S} (hcall : Faithful env may call)

include hcall in
/-- Listeners are called one after the other. -/
theorem tell_story (listeners : List L) (e : Event) (w : World L S) :
    Story env may ⟨listeners.map (.call · e), w⟩ (tell call listeners e w) := by
  unfold tell
  induction listeners generalizing w with
  | nil => exact .done w
  | cons l listeners ih => exact .call (hcall l e w) (ih (call l e w))

include hcall in
/-- Once a registry has set about telling its listeners, it calls them all. -/
theorem announce_story (r : RegistryRef) (e : Event) (w : World L S) :
    Story env may (Turn.announce r e ⟨[], w⟩) (announce call r e w) := by
  unfold Turn.announce
  dsimp only
  rw [List.append_nil]
  exact tell_story hcall _ e _

include hcall in
/-- A registry passes on what a node has told it. -/
theorem relay_story (r : RegistryRef) (e : Event) (w : World L S) :
    Story env may (Turn.relay r e ⟨[], w⟩)
      (tell call (w.registry r).nodeListeners.snapshot e
        (w.record (.registryTold r e (w.registry r).nodeListeners.snapshot))) := by
  unfold Turn.relay
  dsimp only
  rw [List.append_nil]
  exact tell_story hcall _ e _

include hcall in
/-- A registry that is to pass an event on does so, and then gives up a node that has shut down. -/
theorem registryHears_story {r : RegistryRef} {e : Event} {w w' : World L S}
    {due : List (Due L)} (next : Story env may ⟨due, registryHears call r e w⟩ w') :
    Story env may ⟨.relay r e :: due, w⟩ w' := by
  have hpass := relay_story hcall r e w
  unfold registryHears at next
  cases e with
  | shutDown n =>
    unfold giveUp at next
    dsimp only at next
    split at next
    · rename_i hthere
      exact .leave hpass hthere (announce_story hcall r _ _) next
    · rename_i hgone
      exact .relay hpass (fun m hm => by cases hm; exact hgone) next
  | _ => exact .relay hpass (fun m hm => nomatch hm) next

include hcall in
/-- The listeners of a node are called one after the other. -/
theorem hear_story (n : NodeRef) (listeners : List (NodeListener L)) (e : Event)
    (w : World L S) :
    Story env may ⟨listeners.map (dueTo (w.node n).registry e), w⟩
      (hear call n listeners e w) := by
  unfold hear
  generalize (w.node n).registry = r
  induction listeners generalizing w with
  | nil => exact .done w
  | cons l listeners ih =>
    cases l with
    | registry => exact registryHears_story hcall (ih _)
    | own l => exact .call (hcall l e w) (ih _)

include hcall in
/-- Once a node has set about telling its listeners, it calls them all. -/
theorem raise_story (n : NodeRef) (e : Event) (w : World L S) :
    Story env may (Turn.tell n e ⟨[], w⟩) (raise call n e w) := by
  unfold Turn.tell
  dsimp only
  rw [List.append_nil]
  exact hear_story hcall n _ e (w.record (.nodeTold n (w.node n).registry e _))

-- ---------------------------------------------------------------------------
-- Connections
-- ---------------------------------------------------------------------------

include hcall in
/-- `close_connection` takes a connection out and tells of it, if it was there. -/
theorem closeConnection_story (n : NodeRef) (c : ConnectionRef) (reason : CloseReason)
    (w : World L S) : Story env may ⟨[], w⟩ (closeConnection call n c reason w) := by
  unfold closeConnection
  by_cases howns : w.owns n c = true
  · rw [howns]
    dsimp only
    cases hthere : (w.takeOut n c reason).1 with
    | true => exact .disconnect howns hthere (raise_story hcall n _ _)
    | false => exact (Change.close w reason howns hthere).story
  · rw [Bool.eq_false_iff.mpr howns]
    exact .done w

include hcall in
/-- A close by the owner is put on record. -/
theorem closed_mem_closeConnection {n : NodeRef} {c : ConnectionRef} (reason : CloseReason)
    {w : World L S} (howns : w.owns n c = true) :
    .closed n c reason ∈ (closeConnection call n c reason w).history := by
  have htaken : .closed n c reason ∈ (w.takeOut n c reason).2.history :=
    List.mem_append_right _ (List.mem_singleton_self _)
  unfold closeConnection
  rw [howns, Bool.not_true, if_neg Bool.false_ne_true]
  dsimp only
  split
  · have htold := (raise_story hcall n
      (.disconnected c (((w.takeOut n c reason).2.connection c).closeReason.getD reason))
      (w.takeOut n c reason).2).lasting.history
    exact htold.subset (List.mem_append_left _ htaken)
  · exact htaken

include hcall in
/-- `send_on` refuses, or writes, or closes the connection that cannot be written to. -/
theorem sendOn_story (n : NodeRef) (payload : Payload) (c : ConnectionRef) (w : World L S) :
    Story env may ⟨[], w⟩ (sendOn env call n payload c w).2 := by
  unfold sendOn
  dsimp only
  split
  · exact .done w
  · split
    · exact (Change.send w c payload).story
    · exact .change (.send w c payload) (closeConnection_story hcall n c .writeError _)

-- ---------------------------------------------------------------------------
-- New connections
-- ---------------------------------------------------------------------------

/-- A node that has begun its life is in the world. -/
theorem lt_length_of_state {n : NodeRef} {w : World L S}
    (h : (w.node n).state = .starting ∨ (w.node n).state = .running) :
    n.number < w.nodes.length := by
  refine Nat.lt_of_not_le fun hle => ?_
  rw [node_of_length_le hle] at h
  rcases h with h | h <;> cases h

/-- A connection that is closed has a reason. -/
theorem closeReason_markClosed (reason : CloseReason) (conn : Connection) :
    (conn.markClosed reason).2.closeReason = (conn.closeReason <|> some reason) := by
  cases h : conn.closeReason <;> simp [Connection.markClosed, Connection.isClosed, h]

/-- A connection that was closed has a reason. -/
theorem markClosed_ne_none (reason : CloseReason) (conn : Connection) :
    (conn.markClosed reason).2.closeReason ≠ none := by
  rw [closeReason_markClosed]
  cases conn.closeReason <;> exact fun h => nomatch h

include hcall in
/-- Taking up a connection that was just added. -/
theorem register_story (n : NodeRef) {conn : Connection} {w : World L S}
    (h : Admitted env may w n conn) :
    Story env may ⟨[], w⟩
      (register call n (w.addConnection conn).1 (w.addConnection conn).2).2 := by
  unfold register
  dsimp only
  split
  · rename_i hstate
    exact .connect (lt_length_of_state (w := w) hstate) hstate h (raise_story hcall n _ _)
  · rw [setConnection_addConnection]
    exact (Change.turnAway w (markClosed_ne_none _ _)).story

include hcall in
/-- `handle_inbound` takes up a guest or turns it away. -/
theorem accept_story {n : NodeRef} {stream : StreamEnd} {origin : Option Address}
    {w : World L S} (h : may (.accept n stream origin) w) :
    Story env may ⟨[], w⟩ (accept env call n stream origin w) := by
  unfold accept
  split
  · exact (Change.outside w _).story
  · rename_i conn hgreet
    unfold welcome
    dsimp only
    rw [setConnection_addConnection]
    split
    · rename_i hsent
      exact register_story hcall n (.inbound h hgreet hsent)
    · rw [setConnection_addConnection]
      exact (Change.turnAway w (markClosed_ne_none _ _)).story

/-- Opening a stream changes nothing but the surroundings. -/
theorem openStream_outside (env : Surroundings L S) (n : NodeRef) (a : Address)
    (w : World L S) :
    ∃ s, (openStream env n a w).2 = { w with outside := s } := by
  unfold openStream
  dsimp only
  split
  · exact ⟨w.outside, rfl⟩
  split
  · exact ⟨_, rfl⟩
  · split
    · exact ⟨_, rfl⟩
    · split
      · exact ⟨_, rfl⟩
      · exact ⟨_, rfl⟩

/-- A dial was opened in a world that differed from this one in the surroundings only. -/
def Opened (env : Surroundings L S) (n : NodeRef) (dial : Dial) (w : World L S) : Prop :=
  ∃ s, (openStream env n dial.address { w with outside := s }).1 = .ok dial

/-- A stream that was opened has opened a dial to the address that was asked for. -/
theorem openStream_opened {n : NodeRef} {a : Address} {w : World L S} {dial : Dial}
    (h : (openStream env n a w).1 = .ok dial) :
    dial.address = a ∧ Opened env n dial (openStream env n a w).2 := by
  have haddress : dial.address = a := by
    unfold openStream at h
    dsimp only at h
    split at h
    · cases h
    split at h
    · cases h
    · split at h
      · cases h
      · split at h
        · cases h
        · cases h
          rfl
  obtain ⟨s, hs⟩ := openStream_outside env n a w
  refine ⟨haddress, w.outside, ?_⟩
  rw [hs, haddress]
  exact h

/-- `connect` opens a stream and says hello on it, and nobody hears of it. -/
theorem openStream_story (n : NodeRef) (a : Address) (w : World L S) :
    Story env may ⟨[], w⟩ (openStream env n a w).2 := by
  obtain ⟨s, hs⟩ := openStream_outside env n a w
  rw [hs]
  exact (Change.outside w s).story

/-- Nobody hears of the end of a dial, either. -/
theorem endDial_story (n : NodeRef) (a : Address) (w : World L S) :
    Story env may ⟨[], w⟩ (w.endDial n a) :=
  (Change.dials w n (·.filter (· ≠ a))).story

/-- Nor of its beginning. -/
theorem beginDial_story (n : NodeRef) (a : Address) (w : World L S) :
    Story env may ⟨[], w⟩ (beginDial env n a w).2 := by
  unfold beginDial
  split
  · exact .done w
  dsimp only
  split
  · exact .done w
  split
  · exact .done w
  · have hopen : Story env may ⟨[], w⟩ _ :=
      .change (.dials w n (· ++ [a])) (openStream_story n a _)
    split
    · rename_i heq
      rw [heq] at hopen
      exact .first hopen (endDial_story n a _)
    · rename_i heq
      rwa [heq] at hopen

/-- A dial that was begun is open. -/
theorem beginDial_opened {n : NodeRef} {a : Address} {w w' : World L S} {dial : Dial}
    (h : beginDial env n a w = (.opened dial, w')) : dial.address = a ∧ Opened env n dial w' := by
  unfold beginDial at h
  split at h
  · cases h
  dsimp only at h
  split at h
  · cases h
  split at h
  · cases h
  · split at h
    · cases h
    · rename_i heq
      cases h
      have hopened := openStream_opened (congrArg Prod.fst heq)
      rwa [heq] at hopened

include hcall in
/-- `spawn_reader` starts the thread of a connection, or closes it. -/
theorem startReader_story (n : NodeRef) (c : ConnectionRef) (w : World L S) :
    Story env may ⟨[], w⟩ (startReader env call n c w).2 := by
  unfold startReader
  dsimp only
  split
  · exact (Change.outside w _).story
  · exact .change (.outside w _) (closeConnection_story hcall n c .readError _)

include hcall in
/-- A dial goes on with the reply of the peer. -/
theorem receiveReply_story {n : NodeRef} {dial : Dial} {w : World L S}
    (hopened : Opened env n dial w) :
    Story env may ⟨[], w⟩ (receiveReply env call n dial w).2 := by
  unfold receiveReply
  split
  · exact (Change.outside w _).story
  · rename_i conn hanswered
    obtain ⟨s, hs⟩ := hopened
    have hstory := register_story hcall n (.outbound s hs hanswered)
    dsimp only
    split
    all_goals
      rename_i heq
      rw [heq] at hstory
    · exact hstory
    · exact .first hstory (startReader_story hcall n _ _)

include hcall in
/-- And then it is taken back. -/
theorem finishDial_story {n : NodeRef} {dial : Dial} {w : World L S}
    (hopened : Opened env n dial w) : Story env may ⟨[], w⟩ (finishDial env call n dial w).2 :=
  .first (receiveReply_story hcall hopened) (endDial_story n dial.address _)

include hcall in
/-- `get_connection` gives out a connection that is there, or dials. -/
theorem connectNode_story (n : NodeRef) (a : Address) (w : World L S) :
    Story env may ⟨[], w⟩ (connectNode env call n a w).2 := by
  have hbegin : Story env may ⟨[], w⟩ _ := beginDial_story n a w
  unfold connectNode
  split
  all_goals
    rename_i heq
    rw [heq] at hbegin
  · exact hbegin
  · exact hbegin
  · exact hbegin
  · exact .first hbegin (finishDial_story hcall (beginDial_opened heq).2)

include hcall in
/-- `send` looks for a connection, or dials, and writes on it. -/
theorem sendFrom_story (n : NodeRef) (payload : Payload) (target : Target) (w : World L S) :
    Story env may ⟨[], w⟩ (sendFrom env call n payload target w).2 := by
  cases target with
  | connection c => exact sendOn_story hcall n payload c w
  | address a =>
    have hconnect := connectNode_story hcall n a w
    unfold sendFrom
    dsimp only
    split
    all_goals
      rename_i heq
      rw [heq] at hconnect
    · exact hconnect
    · exact .first hconnect (sendOn_story hcall n payload _ _)

-- ---------------------------------------------------------------------------
-- Reading, beginning and end
-- ---------------------------------------------------------------------------

include hcall in
/-- `on_envelope` answers probes and tells of messages. -/
theorem onPayload_story {n : NodeRef} {c : ConnectionRef} {w : World L S}
    (h : HasRead env may n c w) (payload : Payload) :
    Story env may ⟨[], w⟩ (onPayload env call n c payload w) := by
  unfold onPayload
  split
  · exact .done w
  · exact sendOn_story hcall n _ c w
  · exact (Change.pong w c _).story
  · exact .tell h (raise_story hcall n _ w)

include hcall in
/-- One turn of `read_loop`. -/
theorem readNext_story {n : NodeRef} {c : ConnectionRef} {w : World L S}
    (h : may (.read n c) w) : Story env may ⟨[], w⟩ (readNext env call n c w) := by
  unfold readNext
  dsimp only
  split
  · exact .done w
  rename_i hready
  split
  · refine .change (.receive w h) (onPayload_story hcall ⟨w, h, ?_, rfl⟩ _)
    rw [Bool.or_eq_true, not_or] at hready
    exact Option.not_isSome_iff_eq_none.mp hready.1
  · exact .change (.receive w h) (closeConnection_story hcall n c .closedByPeer _)
  · exact .change (.receive w h) (closeConnection_story hcall n c .readError _)

/-- All connections of a node are closed. -/
def closeAll (call : L → Event → World L S → World L S) (n : NodeRef) (w : World L S) :
    World L S :=
  (w.node n).table.toList.foldl (fun w c => closeConnection call n c .shutdown w) w

/-- How shutting down a node may go. -/
inductive ShutDownEnd (env : Surroundings L S) (call : L → Event → World L S → World L S)
    (n : NodeRef) (w : World L S) : Option Bool × World L S → Prop where
  | already (hstate : (w.node n).state = .stopping ∨ (w.node n).state = .terminated) :
      ShutDownEnd env call n w (some true, w)
  | nobody (hn : w.nodes.length ≤ n.number) :
      ShutDownEnd env call n w
        (some true, w.record (.nodeTold n (w.node n).registry (.shutDown n) []))
  | stuck (hstate : ¬ ((w.node n).state = .stopping ∨ (w.node n).state = .terminated))
      (hstop : (stopServer env n (w.setState n .stopping)).1 = false) :
      ShutDownEnd env call n w (none, (stopServer env n (w.setState n .stopping)).2)
  | shut (hn : n.number < w.nodes.length)
      (hstate : ¬ ((w.node n).state = .stopping ∨ (w.node n).state = .terminated))
      (hstop : (stopServer env n (w.setState n .stopping)).1 = true) :
      ShutDownEnd env call n w
        (some true, (raise call n (.shutDown n) ((closeAll call n
          (stopServer env n (w.setState n .stopping)).2).terminate n)).dropListeners n)

/-- How `shutdown_blocking` may end. -/
theorem shutDownNode_end (env : Surroundings L S) (call : L → Event → World L S → World L S)
    (n : NodeRef) (w : World L S) : ShutDownEnd env call n w (shutDownNode env call n w) := by
  unfold shutDownNode tearDown
  dsimp only
  by_cases hstate : (w.node n).state = .stopping ∨ (w.node n).state = .terminated
  · rw [if_pos hstate]
    exact .already hstate
  rw [if_neg hstate]
  by_cases hn : n.number < w.nodes.length
  · cases hstop : (stopServer env n (w.setState n .stopping)).1 with
    | false =>
      have heq : stopServer env n (w.setState n .stopping) = (false, _) := Prod.ext hstop rfl
      rw [heq]
      exact .stuck hstate hstop
    | true =>
      have heq : stopServer env n (w.setState n .stopping) = (true, _) := Prod.ext hstop rfl
      rw [heq]
      exact .shut hn hstate hstop
  · -- nothing changes about a node that is not there
    have hle := Nat.le_of_not_lt hn
    have hnode : w.node n = default := node_of_length_le hle
    have hstop : stopServer env n (w.setState n .stopping) = (true, w) := by
      rw [setState, setNode_of_length_le hle]
      unfold stopServer
      rw [hnode]
      rfl
    have hterminate : w.terminate n = w := setNode_of_length_le hle _
    rw [hstop]
    dsimp only
    rw [hnode]
    show ShutDownEnd env call n w (some true,
      announceShutdown call n ((w.terminate n).node n).listeners.snapshot (w.terminate n))
    rw [hterminate, hnode]
    unfold announceShutdown dropListeners
    dsimp only
    rw [setNode_of_length_le (by exact hle)]
    exact .nobody hle

include hcall in
/-- A node that shuts down closes its connections, one after the other. -/
theorem closeAll_story (n : NodeRef) (w : World L S) :
    Story env may ⟨[], w⟩ (closeAll call n w) :=
  Story.foldl (fun w c => closeConnection_story hcall n c .shutdown w) _ w

include hcall in
/-- Each connection that a node is to close is closed, if it is its own. -/
theorem closed_mem_foldl {n : NodeRef} (cs : List ConnectionRef) {w : World L S}
    (hn : n.number < w.nodes.length) {c : ConnectionRef} (hc : c ∈ cs)
    (howns : w.owns n c = true) :
    .closed n c .shutdown ∈
      (cs.foldl (fun w c => closeConnection call n c .shutdown w) w).history := by
  induction cs generalizing w with
  | nil => exact absurd hc List.not_mem_nil
  | cons d cs ih =>
    have hfirst := (closeConnection_story hcall n d .shutdown w).lasting
    have hrest := (Story.foldl (fun w c => closeConnection_story hcall n c .shutdown w) cs
      (closeConnection call n d .shutdown w)).lasting
    rcases List.mem_cons.mp hc with rfl | hc
    · exact hrest.history.subset (closed_mem_closeConnection hcall .shutdown howns)
    · exact ih (Nat.lt_of_lt_of_le hn hfirst.nodes) hc (hfirst.owns hn howns)

include hcall in
/-- A node that stops closes what it has in its table. -/
theorem closed_mem_closeAll {n : NodeRef} {w : World L S} (hn : n.number < w.nodes.length)
    {c : ConnectionRef} (hc : (w.node n).table.contains c = true) (howns : w.owns n c = true) :
    .closed n c .shutdown ∈
      (closeAll call n (stopServer env n (w.setState n .stopping)).2).history := by
  have hstopped := Lasting.stop env n w
  refine closed_mem_foldl hcall _ (Nat.lt_of_lt_of_le hn hstopped.nodes)
    (ConnectionTable.mem_toList_iff.mpr ?_) (hstopped.owns hn howns)
  rw [node_stop]
  split <;> exact hc

include hcall in
/-- A node that shuts down closes its connections, tells of its end and drops its listeners. -/
theorem shutDownNode_story (n : NodeRef) (w : World L S) :
    Story env may ⟨[], w⟩ (shutDownNode env call n w).2 := by
  have hend := shutDownNode_end env call n w
  generalize shutDownNode env call n w = result at hend
  cases hend with
  | already hstate => exact .done w
  | nobody hn => exact .nobody hn
  | stuck hstate hstop => exact (Change.stuck w hstate hstop).story
  | shut hn hstate hstop =>
    exact .shut hn hstate hstop (closeAll_story hcall n _)
      (fun c hc howns => ⟨.shutdown, closed_mem_closeAll hcall hn hc howns⟩)
      (raise_story hcall n _ _)

-- ---------------------------------------------------------------------------
-- Registries
-- ---------------------------------------------------------------------------

include hcall in
/-- `get_or_create` finds a node or creates it. -/
theorem nodeOf_story (r : RegistryRef) (id : String) (w : World L S) :
    Story env may ⟨[], w⟩ (nodeOf call r id w).2 := by
  unfold nodeOf
  dsimp only
  split
  · exact .done w
  rename_i hopen
  split
  · exact .done w
  · rename_i hnew
    exact .join (Bool.eq_false_iff.mpr hopen) hnew (announce_story hcall r _ _)

include hcall in
/-- `initialize` of a registry starts a node of it. -/
theorem startIn_story (r : RegistryRef) (id : String) (port : UInt16) (w : World L S) :
    Story env may ⟨[], w⟩ (startIn env call r id port w).2 := by
  have hnode := nodeOf_story hcall r id w
  unfold startIn
  split
  all_goals
    rename_i heq
    rw [heq] at hnode
  · exact hnode
  · rename_i n w'
    have hstart : Story env may ⟨[], w⟩ _ := .first hnode (Change.start w' n port).story
    split
    all_goals
      rename_i heq'
      rwa [heq'] at hstart

include hcall in
/-- `get_connection` of a registry asks a node that is there. -/
theorem connectIn_story (r : RegistryRef) (id : String) (a : Address) (w : World L S) :
    Story env may ⟨[], w⟩ (connectIn env call r id a w).2 := by
  have hnode := nodeOf_story hcall r id w
  unfold connectIn
  split
  all_goals
    rename_i heq
    rw [heq] at hnode
  · exact hnode
  · exact .first hnode (connectNode_story hcall _ a _)

include hcall in
/-- So does its `send`. -/
theorem sendIn_story (r : RegistryRef) (id : String) (payload : Payload) (target : Target)
    (w : World L S) : Story env may ⟨[], w⟩ (sendIn env call r id payload target w).2 := by
  have hnode := nodeOf_story hcall r id w
  unfold sendIn
  split
  all_goals
    rename_i heq
    rw [heq] at hnode
  · exact hnode
  · exact .first hnode (sendFrom_story hcall _ payload target _)

/-- What was completed before counts for the whole. -/
theorem foldl_shutDown (shut : NodeRef → World L S → Option Bool × World L S)
    (nodes : List NodeRef) (completed : Bool) (w : World L S) :
    nodes.foldl
        (fun (completed, w) n =>
          let (outcome, w) := shut n w
          (completed && outcome.getD false, w)) (completed, w) =
      (completed && (shutDownAll shut nodes w).1, (shutDownAll shut nodes w).2) := by
  unfold shutDownAll
  induction nodes generalizing completed w with
  | nil => simp
  | cons n nodes ih =>
    rw [List.foldl_cons, List.foldl_cons, ih, ih (true && _), Bool.and_assoc, Bool.true_and]

/-- Nodes are shut down one by one, and all of them must have come to their end. -/
theorem shutDownAll_cons (shut : NodeRef → World L S → Option Bool × World L S) (n : NodeRef)
    (nodes : List NodeRef) (w : World L S) :
    shutDownAll shut (n :: nodes) w =
      ((shut n w).1.getD false && (shutDownAll shut nodes (shut n w).2).1,
        (shutDownAll shut nodes (shut n w).2).2) :=
  foldl_shutDown shut nodes _ _

/-- So it is a story if each shutdown is one. -/
theorem shutDownAll_story {shut : NodeRef → World L S → Option Bool × World L S}
    (h : ∀ n w, Story env may ⟨[], w⟩ (shut n w).2) (nodes : List NodeRef) (w : World L S) :
    Story env may ⟨[], w⟩ (shutDownAll shut nodes w).2 := by
  induction nodes generalizing w with
  | nil => exact .done w
  | cons n nodes ih =>
    rw [shutDownAll_cons]
    exact .first (h n w) (ih _)

include hcall in
/-- `shutdown` of a registry shuts down its nodes and drops its listeners. -/
theorem shutDownRegistry_story {r : RegistryRef} {w : World L S} (h : may (.shutDown r) w) :
    Story env may ⟨[], w⟩ (shutDownRegistry env call r w).2 := by
  unfold shutDownRegistry shutDownRegistryBy
  dsimp only
  split
  · exact .done w
  · have hshut := shutDownAll_story (fun n w => shutDownNode_story hcall n w)
      ((w.registry r).nodes.map (·.2)) (w.closeRegistry r)
    -- it is shut down from the beginning, and stays so
    have hstays := hshut.lasting
    have hclosed (hr : r.number < w.registries.length) :
        ((w.closeRegistry r).registry r).isShutDown = true := by
      rw [closeRegistry, registry_setRegistry, if_pos ⟨rfl, hr⟩]
    have hlength : (w.closeRegistry r).registries.length = w.registries.length :=
      List.length_modify ..
    refine .change (.closeRegistry w h) (.first hshut
      (Change.emptyRegistry _ ⟨w, h⟩ (fun hr => (hstays.rules r).shutDown (hclosed ?_)) _).story)
    rwa [← hlength, ← hstays.registries]

-- ---------------------------------------------------------------------------
-- Acts and runs
-- ---------------------------------------------------------------------------

include hcall in
/-- **An act that may be performed has a story**, if calling a listener has one. -/
theorem performWith_story {act : Act L} {w : World L S} (h : may act w) :
    Story env may ⟨[], w⟩ (performWith env call act w).2 := by
  cases act with
  | node r id => exact nodeOf_story hcall r id w
  | start r id port => exact startIn_story hcall r id port w
  | connect r id a => exact connectIn_story hcall r id a w
  | send r id payload target => exact sendIn_story hcall r id payload target w
  | shutDown r => exact shutDownRegistry_story hcall h
  | startNode n port => exact (Change.start w n port).story
  | connectNode n a => exact connectNode_story hcall n a w
  | sendFrom n payload target => exact sendFrom_story hcall n payload target w
  | close n c reason => exact closeConnection_story hcall n c reason w
  | shutDownNode n => exact shutDownNode_story hcall n w
  | ping c nonce => exact (Change.ping w c nonce).story
  | accept n stream origin => exact accept_story hcall h
  | read n c => exact readNext_story hcall h
  | listen n l => exact (Change.listen w n l).story
  | unlisten n id => exact (Change.unlisten w h).story
  | listenToRegistry r l => exact (Change.listenToRegistry w r l).story
  | unlistenToRegistry r id => exact (Change.unlistenToRegistry w r id).story
  | listenToNodes r l => exact (Change.listenToNodes w h).story
  | unlistenToNodes r id => exact (Change.unlistenToNodes w h).story

variable (env may)

/-- Each of these acts may be performed when its turn comes. -/
def Within (depth : Nat) : List (Act L) → World L S → Prop
  | [], _ => True
  | act :: acts, w => may act w ∧ Within depth acts (perform env depth act w).2

variable {may}

/-- What may always be done may be done in turn. -/
theorem Within.of_forall {depth : Nat} {acts : List (Act L)}
    (h : ∀ act ∈ acts, ∀ w : World L S, may act w) (w : World L S) :
    Within env may depth acts w := by
  induction acts generalizing w with
  | nil => trivial
  | cons act acts ih =>
    obtain ⟨hact, hacts⟩ := List.forall_mem_cons.mp h
    exact ⟨hact w, ih hacts _⟩

/-- Listeners that do only what they may are called faithfully, to whatever depth. -/
theorem call_faithful_of (hmay : ∀ depth l e w, Within env may depth (env.react l e w) w)
    (depth : Nat) : Faithful env may (World.call env depth) := by
  induction depth with
  | zero => exact fun l e w => .done _
  | succ depth ih =>
    intro l e w
    unfold World.call
    dsimp only
    have hacts := hmay depth l e (w.log l e)
    generalize env.react l e (w.log l e) = acts at hacts ⊢
    generalize w.log l e = w at hacts ⊢
    induction acts generalizing w with
    | nil => exact .done w
    | cons act acts ihActs => exact .first (performWith_story ih hacts.1) (ihActs _ hacts.2)

/-- Listeners that act are called faithfully, to whatever depth. -/
theorem call_faithful (depth : Nat) : Faithful env (fun _ _ => True) (World.call env depth) :=
  call_faithful_of env (fun _ _ _ w => .of_forall env (fun _ _ _ => trivial) w) depth

/-- The answers of a run follow those that there were before. -/
theorem foldl_perform (depth : Nat) (acts : List (Act L)) (answers : List Answer)
    (w : World L S) :
    acts.foldl
        (fun (answers, w) act =>
          let (answer, w) := perform env depth act w
          (answers ++ [answer], w)) (answers, w) =
      (answers ++ (run env depth acts w).1, (run env depth acts w).2) := by
  unfold run
  induction acts generalizing answers w with
  | nil => exact Prod.ext (List.append_nil answers).symm rfl
  | cons act acts ih =>
    rw [List.foldl_cons, List.foldl_cons, ih, ih ([] ++ _), List.nil_append, List.append_assoc]

/-- A run is its first act and the run of the others. -/
theorem run_cons (depth : Nat) (act : Act L) (acts : List (Act L)) (w : World L S) :
    run env depth (act :: acts) w =
      ((perform env depth act w).1 :: (run env depth acts (perform env depth act w).2).1,
        (run env depth acts (perform env depth act w).2).2) :=
  foldl_perform env depth acts [(perform env depth act w).1] (perform env depth act w).2

/-- **A run has a story**, if listeners do only what they may, and so do all others. -/
theorem run_story (hmay : ∀ depth l e w, Within env may depth (env.react l e w) w) (depth : Nat)
    {acts : List (Act L)} {w : World L S} (h : Within env may depth acts w) :
    Story env may ⟨[], w⟩ (run env depth acts w).2 := by
  induction acts generalizing w with
  | nil => exact .done w
  | cons act acts ih =>
    rw [run_cons]
    exact .first (performWith_story (call_faithful_of env hmay depth) h.1) (ih h.2)

/-- A run has a story in which everything may be done. -/
theorem run_story_free (depth : Nat) (acts : List (Act L)) (w : World L S) :
    Story env (fun _ _ => True) ⟨[], w⟩ (run env depth acts w).2 :=
  run_story env (fun _ _ _ w => .of_forall env (fun _ _ _ => trivial) w) depth
    (.of_forall env (fun _ _ _ => trivial) w)

/-- **A run is made of moves.** -/
theorem run_runs (depth : Nat) (acts : List (Act L)) (w : World L S) :
    Runs w (run env depth acts w).2 := (run_story_free env depth acts w).runs

end World

/-- Plain surroundings, for examples: servers are bound and stopped without fail, every dial is
answered on the same stream, and every connection is read from. -/
def Surroundings.plain (react : L → Event → World L Unit → List (Act L)) (answer : StreamEnd) :
    Surroundings L Unit where
  react := react
  bind _ _ _ s := (.ok (.localhost 7001), s)
  dial _ _ _ s := (.ok answer, s)
  stopServer _ s := (true, s)
  hangUp _ s := s
  startReader _ s := (.ok (), s)
  connectionId _ := "c"
  timing := ⟨0, 0⟩

end Courier
