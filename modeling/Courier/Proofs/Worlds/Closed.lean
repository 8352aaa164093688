import Courier.Proofs.Worlds.Lives

/-!
# Courier — what is left of a closed connection

The record of a world only grows, and only a new connection can be taken up. So what is over stays
over, for the reason that it has: no node finds a closed connection, dialing gives another one, and
whatever is sent on it fails before a byte is written.

* `Later` — what every move keeps of the world before;
* `IsOver` — a connection was taken up and is over, for a reason;
* `connectNode_ne_of_closed`, `run_ne_of_isOver` — it is not given out any more;
* `sendOn_of_closed`, `ping_of_closed` — nothing is written to it.
-/

namespace Courier.World

variable {L S : Type}

-- ---------------------------------------------------------------------------
-- Later worlds
-- ---------------------------------------------------------------------------

/-- What one world keeps of another. -/
structure Later (w w' : World L S) : Prop where
  life : ∀ c, w.life c <+: w'.life c
  length : w.connections.length ≤ w'.connections.length
  /-- What was there before is not taken up any more. -/
  began : ∀ c n, c.number < w.connections.length → .began n ∈ w'.life c → .began n ∈ w.life c

theorem Later.refl (w : World L S) : Later w w :=
  ⟨fun _ => List.prefix_rfl, Nat.le_refl _, fun _ _ _ h => h⟩

theorem Later.trans {w w' w'' : World L S} (h : Later w w') (h' : Later w' w'') : Later w w'' where
  life c := (h.life c).trans (h'.life c)
  length := Nat.le_trans h.length h'.length
  began c n hc hn := h.began c n hc (h'.began c n (Nat.lt_of_lt_of_le hc h.length) hn)

/-- Moments are added to lives, but no beginnings to those that were there. -/
theorem Later.of_append {w w' : World L S} (hlength : w.connections.length ≤ w'.connections.length)
    (hlife : ∀ c, ∃ moments, w'.life c = w.life c ++ moments ∧
      (c.number < w.connections.length → ∀ n, .began n ∉ moments)) : Later w w' where
  life c := by
    obtain ⟨moments, heq, -⟩ := hlife c
    exact ⟨moments, heq.symm⟩
  length := hlength
  began c n hc hn := by
    obtain ⟨moments, heq, hnone⟩ := hlife c
    rw [heq] at hn
    exact (List.mem_append.mp hn).resolve_right (hnone hc n)

/-- A world is later if no connection has begun meanwhile. -/
theorem Later.of_life {w w' : World L S} (hlength : w.connections.length ≤ w'.connections.length)
    (hlife : ∀ c, w'.life c = w.life c) : Later w w' :=
  .of_append hlength fun c =>
    ⟨[], (hlife c).trans (List.append_nil _).symm, fun _ _ => List.not_mem_nil⟩

/-- What is put on record ends no life, and begins none unless it says so. -/
theorem Later.record {d : Deed L} (h : ∀ c n, d.moment? c ≠ some (.began n)) (w : World L S) :
    Later w (w.record d) :=
  .of_append (Nat.le_refl _) fun c =>
    ⟨_, life_record c d w, fun _ n hn => h c n (Option.mem_toList.mp hn)⟩

/-- Closing a connection begins none. -/
theorem Later.takeOut (n : NodeRef) (c : ConnectionRef) (reason : CloseReason) (w : World L S) :
    Later w (w.takeOut n c reason).2 :=
  .of_append (Nat.le_of_eq (List.length_modify ..).symm) fun d =>
    ⟨_, life_takeOut n c reason d w, fun _ m hm => by split at hm <;> simp at hm⟩

/-- A move leads to something later. -/
theorem Move.later {t t' : Turn L S} (h : Move t t') : Later t.world t'.world := by
  cases h with
  | outside due w s => exact .of_life (Nat.le_refl _) fun _ => rfl
  | registry due w r f => exact .of_life (Nat.le_refl _) fun _ => rfl
  | handle due w => exact .of_life (Nat.le_refl _) fun _ => rfl
  | node due w n hid htable => exact .of_life (Nat.le_refl _) fun _ => rfl
  | newNode due w h => exact .of_life (Nat.le_refl _) fun _ => rfl
  | traffic due w c h =>
    exact .of_life (Nat.le_of_eq (List.length_modify ..).symm) fun _ => rfl
  | @begins due w n conn hn hnode hopen =>
    refine .of_append (length_addConnection conn w ▸ Nat.le_succ _) fun c =>
      ⟨_, life_record c _ _, fun hc m hm => ?_⟩
    have hne : (w.addConnection conn).1 ≠ c := fun h => Nat.ne_of_lt hc (congrArg (·.number) h.symm)
    simp [Deed.moment?, hne] at hm
  | @turnedAway due w conn h =>
    exact .of_life (length_addConnection conn w ▸ Nat.le_succ _) fun _ => rfl
  | @ends due w n c reason howns hthere =>
    refine (Later.takeOut n c reason w).trans (.record (fun d m => ?_) _)
    unfold Deed.moment?
    dsimp only
    split <;> simp
  | @closes due w n c reason howns hthere => exact .takeOut n c reason w
  | @tells due w n e h =>
    refine .record (fun c m => ?_) w
    cases e with
    | connected d => exact absurd trivial h
    | disconnected d reason => exact absurd trivial h
    | _ => simp [Deed.moment?]
  | announces due w r h => exact .record (fun _ _ => by simp [Deed.moment?]) w
  | relays due w r e => exact .record (fun _ _ => by simp [Deed.moment?]) w
  | calls due w l e => exact .of_life (Nat.le_refl _) fun _ => rfl

/-- So do any moves. -/
theorem Moves.later {t t' : Turn L S} (h : Moves t t') : Later t.world t'.world :=
  h.keeps (fun hmove hlater => Later.trans hlater hmove.later) (Later.refl t.world)

theorem Step.later {env : Surroundings L S} {may : Act L → World L S → Prop} {w w' : World L S}
    (h : Step env may w w') : Later w w' := by
  obtain ⟨due, due', hmoves⟩ := h.moves
  exact hmoves.later

theorem Story.later {env : Surroundings L S} {may : Act L → World L S → Prop} {t : Turn L S}
    {w' : World L S} (h : Story env may t w') : Later t.world w' := (h.moves []).later

-- ---------------------------------------------------------------------------
-- Connections that are over
-- ---------------------------------------------------------------------------

/-- A connection was taken up by a node, and is over for a reason. -/
structure IsOver (n : NodeRef) (c : ConnectionRef) (reason : CloseReason) (w : World L S) :
    Prop where
  ended : .ended n reason ∈ w.life c
  closed : (w.connection c).closeReason = some reason
  table : ∀ m, (w.node m).table.contains c = false
  owns : w.owns n c = true

/-- To begin is not to close. -/
theorem not_mem_closings_of_began {n : NodeRef} {closes : List (NodeRef × CloseReason)} :
    .began n ∉ closings closes := by
  simp [closings]

/-- Nor is the end, which follows the close. -/
theorem not_mem_closings_of_ended {n : NodeRef} {reason : CloseReason}
    {closes : List (NodeRef × CloseReason)} : .ended n reason ∉ closings closes := by
  simp [closings]

variable {n : NodeRef} {c : ConnectionRef} {reason : CloseReason}

/-- The record tells what is over. -/
theorem Sound.isOver {w : World L S} (hs : w.Sound) (h : .ended n reason ∈ w.life c) :
    IsOver n c reason w := by
  cases hs.standing c with
  | unknown closes life table reason' =>
    rw [life] at h
    exact absurd h not_mem_closings_of_ended
  | listed n' closes life others node owns table reason' =>
    rw [life] at h
    simp [not_mem_closings_of_ended] at h
  | ended n' before reason' first after life others node owns table closed isFirst =>
    have hlife := h
    rw [life] at hlife
    simp only [List.mem_append, List.mem_cons, not_mem_closings_of_ended, reduceCtorEq,
      Moment.ended.injEq, false_or, or_false] at hlife
    obtain ⟨rfl, rfl⟩ := hlife
    exact ⟨h, closed, table, owns⟩

/-- What is over stays over, for the same reason. -/
theorem IsOver.later {w w' : World L S} (h : IsOver n c reason w) (hlater : Later w w')
    (hs : w'.Sound) : IsOver n c reason w' :=
  hs.isOver ((hlater.life c).subset h.ended)

-- ---------------------------------------------------------------------------
-- Nobody gets a closed connection
-- ---------------------------------------------------------------------------

/-- A closed connection is one that there was. -/
theorem lt_length_of_closed {w : World L S} (h : (w.connection c).closeReason ≠ none) :
    c.number < w.connections.length := by
  refine Nat.lt_of_not_le fun hle => h ?_
  rw [connection, List.getD_eq_getElem?_getD, List.getElem?_eq_none hle]
  rfl

/-- A closed connection is not open. -/
theorem isOpen_of_closed {w : World L S} (h : (w.connection c).closeReason ≠ none) :
    w.isOpen c = false := by
  rw [isOpen, Connection.isClosed, Bool.not_eq_false', Option.isSome_iff_ne_none]
  exact h

/-- `find_connection` does not give it out. -/
theorem findConnection_ne_of_closed {w : World L S} (h : (w.connection c).closeReason ≠ none)
    (m : NodeRef) (a : Address) : w.findConnection m a ≠ some c := fun hfind => by
  have hopen := (ConnectionTable.find_eq_some _ hfind).2
  rw [isOpen_of_closed h] at hopen
  cases hopen

theorem not_mem_openConnections_of_closed {w : World L S}
    (h : (w.connection c).closeReason ≠ none) (m : NodeRef) : c ∉ w.openConnections m :=
  fun hmem => by
    have hopen := (List.mem_filter.mp hmem).2
    rw [isOpen_of_closed h] at hopen
    cases hopen

/-- The first reason stays. -/
theorem Move.stays_closed {t t' : Turn L S} (h : Move t t')
    (hclosed : (t.world.connection c).closeReason = some reason) :
    (t'.world.connection c).closeReason = some reason := by
  have hne : (t.world.connection c).closeReason ≠ none := hclosed ▸ Option.some_ne_none reason
  have hold : c.number ≠ t.world.connections.length := Nat.ne_of_lt (lt_length_of_closed hne)
  have taken (m : NodeRef) (d : ConnectionRef) (other : CloseReason)
      (howns : t.world.owns m d = true) :
      ((t.world.takeOut m d other).2.connection c).closeReason = some reason := by
    rw [connection_takeOut m d other c (owns_iff.mp howns).1]
    split
    · rw [closeReason_markClosed, hclosed]
      rfl
    · exact hclosed
  cases h with
  | traffic due w d hsame =>
    dsimp only
    rw [connection_setConnection]
    split
    · rename_i hd
      rw [hd.1, hsame.closeReason, ← hd.1]
      exact hclosed
    · exact hclosed
  | begins due w hn hnode hopen =>
    show ((w.addConnection _).2.connection c).closeReason = _
    rw [connection_addConnection, if_neg hold]
    exact hclosed
  | turnedAway due w h =>
    dsimp only
    rw [connection_addConnection, if_neg hold]
    exact hclosed
  | ends due w other howns hthere => exact taken _ _ other howns
  | closes due w other howns hthere => exact taken _ _ other howns
  | _ => exact hclosed

/-- A connection stays closed, and the first reason stands. -/
theorem Moves.stays_closed {t t' : Turn L S} (h : Moves t t')
    (hclosed : (t.world.connection c).closeReason = some reason) :
    (t'.world.connection c).closeReason = some reason :=
  h.keeps (fun hmove => hmove.stays_closed) hclosed

variable (env : Surroundings L S) (call : L → Event → World L S → World L S)

/-- Only the surroundings have changed, and nodes in something else than their tables. -/
structure Undisturbed (w w' : World L S) : Prop where
  calls : w'.calls = w.calls
  history : w'.history = w.history
  connections : w'.connections = w.connections
  tables : ∀ m, (w'.node m).table = (w.node m).table

theorem Undisturbed.refl (w : World L S) : Undisturbed w w := ⟨rfl, rfl, rfl, fun _ => rfl⟩

theorem Undisturbed.trans {w w' w'' : World L S} (h : Undisturbed w w')
    (h' : Undisturbed w' w'') : Undisturbed w w'' :=
  ⟨h'.calls.trans h.calls, h'.history.trans h.history, h'.connections.trans h.connections,
    fun m => (h'.tables m).trans (h.tables m)⟩

/-- What happens outside disturbs nothing. -/
theorem Undisturbed.outside (w : World L S) (s : S) : Undisturbed w { w with outside := s } :=
  ⟨rfl, rfl, rfl, fun _ => rfl⟩

theorem Undisturbed.dials (n : NodeRef) (f : List Address → List Address) (w : World L S) :
    Undisturbed w (w.setNode n fun node => { node with dials := f node.dials }) := by
  refine ⟨rfl, rfl, rfl, fun m => ?_⟩
  rw [node_setNode]
  split <;> rfl

/-- Opening a stream disturbs nothing. -/
theorem openStream_undisturbed (m : NodeRef) (a : Address) (w : World L S) :
    Undisturbed w (openStream env m a w).2 := by
  unfold openStream
  dsimp only
  split
  · exact .refl w
  split
  · exact .outside w _
  · split
    · exact (Undisturbed.outside w _).trans (.outside _ _)
    · split
      · exact (Undisturbed.outside w _).trans (.outside _ _)
      · exact .outside w _

theorem beginDial_undisturbed (m : NodeRef) (a : Address) (w : World L S) :
    Undisturbed w (beginDial env m a w).2 := by
  unfold beginDial
  split
  · exact .refl w
  dsimp only
  split
  · exact .refl w
  split
  · exact .refl w
  · have hopen := (Undisturbed.dials m (· ++ [a]) w).trans (openStream_undisturbed env m a _)
    split
    · rename_i heq
      rw [heq] at hopen
      exact hopen.trans (.dials m (·.filter (· ≠ a)) _)
    · rename_i heq
      rwa [heq] at hopen

/-- The connection that comes of a dial is a new one. -/
theorem finishDial_eq_ok {m : NodeRef} {dial : Dial} {w : World L S}
    (h : (finishDial env call m dial w).1 = .ok c) : c.number = w.connections.length := by
  unfold finishDial receiveReply startReader at h
  dsimp only at h
  split at h
  · cases h
  split at h
  · cases h
  split at h
  · cases h
    rfl
  · cases h

/-- Asking for the connection to an address does not give a closed one. -/
theorem connectNode_ne_of_closed {w : World L S} (h : (w.connection c).closeReason ≠ none)
    (m : NodeRef) (a : Address) : (connectNode env call m a w).1 ≠ .ok c := by
  have hconnections := (beginDial_undisturbed env m a w).connections
  unfold connectNode
  split
  · rename_i d w' heq
    rintro ⟨⟩
    unfold beginDial at heq
    split at heq
    · cases heq
      exact findConnection_ne_of_closed h m a ‹_›
    · dsimp only at heq
      split at heq
      · cases heq
      split at heq
      · cases heq
      · split at heq <;> cases heq
  · exact fun h => nomatch h
  · exact fun h => nomatch h
  · -- what a dial gives has a number that no connection had before
    rename_i heq
    rw [heq] at hconnections
    intro hok
    have hnumber := finishDial_eq_ok env call hok
    rw [hconnections] at hnumber
    exact absurd (lt_length_of_closed h) (Nat.not_lt_of_le (Nat.le_of_eq hnumber.symm))

/-- What was sent was sent on the connection that was asked for, which was open. -/
theorem sendOn_eq_ok {m : NodeRef} {payload : Payload} {d : ConnectionRef} {w : World L S}
    (h : (sendOn env call m payload d w).1 = .ok c) :
    c = d ∧ (w.connection d).closeReason = none := by
  unfold sendOn at h
  dsimp only at h
  split at h
  · cases h
  · split at h
    · rename_i heq
      cases h
      refine ⟨rfl, Option.not_isSome_iff_eq_none.mp fun hclosed => ?_⟩
      unfold Connection.send at heq
      rw [if_pos (show (w.connection c).isClosed = true from hclosed)] at heq
      cases heq
    · cases h

/-- `send` never comes out with a connection that was closed before. -/
theorem sendFrom_ne_of_closed {w : World L S} (h : (w.connection c).closeReason ≠ none)
    (m : NodeRef) (payload : Payload) (target : Target) :
    (sendFrom env call m payload target w).1 ≠ .ok c := by
  intro hok
  cases target with
  | connection d =>
    obtain ⟨rfl, hopen⟩ := sendOn_eq_ok env call hok
    exact h hopen
  | address a =>
    unfold sendFrom at hok
    dsimp only at hok
    split at hok
    · cases hok
    · rename_i heq
      obtain ⟨rfl, -⟩ := sendOn_eq_ok env call hok
      exact connectNode_ne_of_closed env call h m a (congrArg Prod.fst heq)

-- ---------------------------------------------------------------------------
-- Nothing is written to a closed connection
-- ---------------------------------------------------------------------------

/-- Closing what is closed and in no table leaves nothing but a line on record. -/
theorem takeOut_of_closed {w : World L S} (hs : w.Sound)
    (h : (w.connection c).closeReason ≠ none) {m : NodeRef}
    (htable : (w.node m).table.contains c = false) (reason : CloseReason) :
    w.takeOut m c reason = (false, w.record (.closed m c reason)) := by
  have hmark : ((w.connection c).markClosed reason).2 = w.connection c := by
    unfold Connection.markClosed Connection.isClosed
    rw [Option.isSome_iff_ne_none.mpr h]
    rfl
  unfold takeOut
  dsimp only
  rw [setConnection_self hmark,
    show (w.record (.closed m c reason)).node m = w.node m from rfl,
    ConnectionTable.remove_of_not_contains _ (hs.table m) htable]
  exact congrArg (Prod.mk false) (setNode_self rfl)

/-- A closed connection takes no payload. -/
theorem send_of_closed {conn : Connection} (h : conn.closeReason ≠ none) (t : Timing)
    (payload : Payload) : conn.send t payload = (.error .connectionClosed, conn) := by
  unfold Connection.send Connection.isClosed
  rw [Option.isSome_iff_ne_none.mpr h]
  rfl

/-- **A send on a connection that is over is refused**, and all that it leaves is a line on record:
nothing is written, nobody is told, and no table changes. -/
theorem sendOn_of_closed {w : World L S} (hs : w.Sound)
    (h : (w.connection c).closeReason ≠ none) {m : NodeRef}
    (htable : (w.node m).table.contains c = false) (howns : w.owns m c = true)
    (payload : Payload) :
    sendOn env call m payload c w =
      (.error .connectionClosed, w.record (.closed m c .writeError)) := by
  unfold sendOn closeConnection
  dsimp only
  rw [howns, send_of_closed h]
  dsimp only
  rw [setConnection_self rfl, howns, takeOut_of_closed hs h htable]
  rfl

/-- A node of another id cannot send on it either. -/
theorem sendOn_of_not_owns {w : World L S} {m : NodeRef} (howns : w.owns m c = false)
    (payload : Payload) : ∃ e, sendOn env call m payload c w = (.error e, w) := by
  unfold sendOn
  dsimp only
  rw [howns]
  exact ⟨_, rfl⟩

/-- A probe on a closed connection is refused, and nothing is written. -/
theorem ping_of_closed {w : World L S} (h : (w.connection c).closeReason ≠ none)
    (nonce : UInt64) :
    (ping env c nonce w).1 = .error .connectionClosed ∧
      ∀ d, ((ping env c nonce w).2.connection d).socket = (w.connection d).socket := by
  have hping : (w.connection c).ping env.timing nonce =
      (.error .connectionClosed, { w.connection c with
        outstanding := (nonce :: (w.connection c).outstanding.filter (· ≠ nonce)).filter
          (· ≠ nonce) }) := by
    unfold Connection.ping
    dsimp only
    rw [send_of_closed]
    exact h
  unfold ping
  rw [hping]
  refine ⟨rfl, fun d => ?_⟩
  rw [connection_setConnection]
  split
  · rename_i hd
    rw [hd.1]
  · rfl

-- ---------------------------------------------------------------------------
-- Acts and runs
-- ---------------------------------------------------------------------------

/-- Runs keep the world sound and lead to something later. -/
theorem Runs.sound_later {w w' : World L S} (h : Runs w w') (hs : w.Sound) :
    w'.Sound ∧ Later w w' :=
  ⟨(h []).sound hs, (h []).later⟩

variable {env call} in
/-- No act gives out a connection that is over. -/
theorem performWith_ne_of_isOver {may : Act L → World L S → Prop} (hcall : Faithful env may call)
    {w : World L S} (hs : w.Sound) (h : IsOver n c reason w) (act : Act L) :
    (performWith env call act w).1 ≠ .connection (.ok c) := by
  have hclosed {w' : World L S} (hruns : Runs w w') : (w'.connection c).closeReason ≠ none := by
    obtain ⟨hs', hlater⟩ := hruns.sound_later hs
    rw [(h.later hlater hs').closed]
    exact fun h => nomatch h
  have hanswer {outcome : Except NetworkError ConnectionRef} (hne : outcome ≠ .ok c) :
      Answer.connection outcome ≠ .connection (.ok c) := fun h => hne (Answer.connection.inj h)
  cases act with
  | connect r id a =>
    have hnode := (nodeOf_story hcall r id w).runs
    refine hanswer ?_
    split
    · exact fun h => nomatch h
    · rename_i heq
      rw [heq] at hnode
      exact connectNode_ne_of_closed env call (hclosed hnode) _ a
  | send r id payload target =>
    have hnode := (nodeOf_story hcall r id w).runs
    refine hanswer ?_
    split
    · exact fun h => nomatch h
    · rename_i heq
      rw [heq] at hnode
      exact sendFrom_ne_of_closed env call (hclosed hnode) _ payload target
  | connectNode m a => exact hanswer (connectNode_ne_of_closed env call (hclosed (.refl w)) m a)
  | sendFrom m payload target =>
    exact hanswer (sendFrom_ne_of_closed env call (hclosed (.refl w)) m payload target)
  | _ => exact fun h => nomatch h

/-- **No run answers with a connection that was over before.** -/
theorem run_ne_of_isOver (depth : Nat) (acts : List (Act L)) {w : World L S} (hs : w.Sound)
    (h : IsOver n c reason w) :
    ∀ answer ∈ (run env depth acts w).1, answer ≠ .connection (.ok c) := by
  induction acts generalizing w with
  | nil => exact fun _ hmem => absurd hmem List.not_mem_nil
  | cons act acts ih =>
    rw [run_cons]
    have hruns : Runs w (perform env depth act w).2 :=
      (performWith_story (call_faithful env depth) trivial).runs
    obtain ⟨hs', hlater⟩ := hruns.sound_later hs
    intro answer hmem
    rcases List.mem_cons.mp hmem with rfl | hmem
    · exact performWith_ne_of_isOver (call_faithful env depth) hs h act
    · exact ih hs' (h.later hlater hs') answer hmem

end Courier.World
