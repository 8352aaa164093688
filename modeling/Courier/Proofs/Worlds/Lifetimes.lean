import Courier.Proofs.Worlds.Dials
import Courier.Proofs.Worlds.Telling

/-!
# Courier — a connection lives once

Whatever is done with the nodes of a world, and whatever listeners do when they are called: a
connection that a node takes up is announced once, to each of those who listen at that moment; when
it is closed, its end is announced once, with the reason of the first close, and from then on it is
in no table, nobody is given it, and nothing is written to it. A connection that is not taken up is
never announced and never enters a table.

Connections are owned by name, and so a node of the same id can close a connection in another node's
table, which then hears of it only when it closes the connection itself. What is said here about the
end of a connection is said of those that no such node has closed.

* `TurnedAway`, `InUse`, `Ended` — what is seen of a connection;
* `LeavesNoTrace` — what is seen of a peer that is not let in;
* `connection_lives_once` — after any run, and ever after.
-/

namespace Courier.World

variable {L S : Type}

/-- The connection is in no table, neither among the entries nor in the index. -/
def InNoTable (c : ConnectionRef) (w : World L S) : Prop :=
  ∀ m, c ∉ (w.node m).table.toList ∧ ∀ a, (a, c) ∉ (w.node m).table.index

/-- A connection that was not taken up: it is closed, and nobody hears of it. -/
structure TurnedAway (c : ConnectionRef) (w : World L S) : Prop where
  closed : (w.connection c).closeReason ≠ none
  table : InNoTable c w
  beginning : Untold (.connected c) w
  ending : ∀ reason, Untold (.disconnected c reason) w

/-- A connection that is open: it is in the table of its node, and nobody has heard of an end. -/
structure InUse (n : NodeRef) (c : ConnectionRef) (w : World L S) : Prop where
  life : w.life c = [.began n]
  openConnections : c ∈ w.openConnections n
  elsewhere : ∀ m, c ∈ (w.node m).table.toList → m = n
  ending : ∀ reason, Untold (.disconnected c reason) w

/-- A connection that was closed, first for this reason: its end was announced once, it is in no
table, nobody is given it, and a send on it is refused and leaves only a line on record. -/
structure Ended (env : Surroundings L S) (n : NodeRef) (c : ConnectionRef) (reason : CloseReason)
    (w : World L S) : Prop where
  closed : (w.connection c).closeReason = some reason
  life : ∃ after, w.life c = .began n :: .closed n reason :: .ended n reason :: closings after
  beginning : ToldOnce n (.connected c) w
  ending : ToldOnce n (.disconnected c reason) w
  otherEnding : ∀ other, other ≠ reason → Untold (.disconnected c other) w
  table : InNoTable c w
  findConnection : ∀ m a, w.findConnection m a ≠ some c
  openConnections : ∀ m, c ∉ w.openConnections m
  connectNode : ∀ call m a, (connectNode env call m a w).1 ≠ .ok c
  owns : w.owns n c = true
  send : ∀ payload,
    (w.connection c).send env.timing payload = (.error .connectionClosed, w.connection c)
  sendOnElsewhere : ∀ call m payload, w.owns m c = false →
    ∃ e, sendOn env call m payload c w = (.error e, w)
  sendOn : ∀ call m payload, w.owns m c = true →
    sendOn env call m payload c w =
      (.error .connectionClosed, w.record (.closed m c .writeError))
  ping : ∀ nonce, (ping env c nonce w).1 = .error .connectionClosed ∧
    ∀ d, ((ping env c nonce w).2.connection d).socket = (w.connection d).socket

/-- Nobody hears of what has happened between two worlds, and no table is changed; what connections
there are more are closed. -/
structure LeavesNoTrace (w w' : World L S) : Prop where
  calls : w'.calls = w.calls
  history : w'.history = w.history
  tables : ∀ m, (w'.node m).table = (w.node m).table
  connections : ∃ refused, w'.connections = w.connections ++ refused ∧
    ∀ conn ∈ refused, conn.closeReason ≠ none

-- ---------------------------------------------------------------------------
-- Peers that are not let in
-- ---------------------------------------------------------------------------

theorem LeavesNoTrace.trans {w w' w'' : World L S} (h : LeavesNoTrace w w')
    (h' : LeavesNoTrace w' w'') : LeavesNoTrace w w'' where
  calls := h'.calls.trans h.calls
  history := h'.history.trans h.history
  tables m := (h'.tables m).trans (h.tables m)
  connections := by
    obtain ⟨refused, heq, hclosed⟩ := h.connections
    obtain ⟨refused', heq', hclosed'⟩ := h'.connections
    refine ⟨refused ++ refused', by rw [heq', heq, List.append_assoc], fun conn hmem => ?_⟩
    exact (List.mem_append.mp hmem).elim (hclosed conn) (hclosed' conn)

/-- What disturbs nothing leaves no trace. -/
theorem Undisturbed.leavesNoTrace {w w' : World L S} (h : Undisturbed w w') :
    LeavesNoTrace w w' :=
  ⟨h.calls, h.history, h.tables, [], by rw [h.connections, List.append_nil],
    fun _ h => absurd h List.not_mem_nil⟩

/-- A connection that is closed from the start leaves none. -/
theorem LeavesNoTrace.addConnection {conn : Connection} (h : conn.closeReason ≠ none)
    (w : World L S) : LeavesNoTrace w (w.addConnection conn).2 :=
  ⟨rfl, rfl, fun _ => rfl, [conn], rfl, fun _ hmem => List.mem_singleton.mp hmem ▸ h⟩

variable {env : Surroundings L S} {may : Act L → World L S → Prop}
  {call : L → Event → World L S → World L S} (hcall : Faithful env may call)

include hcall in
/-- A connection that a node takes up is on record from then on. -/
theorem began_takeUp (n : NodeRef) (conn : Connection) (w : World L S) :
    .began n ∈ (takeUp call n conn w).life ⟨w.connections.length⟩ := by
  have hlater := (raise_story hcall n (.connected (w.addConnection conn).1)
    ((w.addConnection conn).2.takeIn n (w.addConnection conn).1)).later
  refine (hlater.life _).subset ?_
  show _ ∈ (World.record _ _).life _
  rw [life_record]
  simp [Deed.moment?, World.addConnection]

include hcall in
/-- So it is if nobody can read from it. -/
theorem TakeUpEnd.began {n : NodeRef} {conn : Connection} {w : World L S}
    {result : Except NetworkError ConnectionRef × World L S}
    (h : TakeUpEnd env call n conn w result) :
    .began n ∈ result.2.life ⟨w.connections.length⟩ := by
  have hbegan := began_takeUp hcall n conn w
  cases h with
  | read hstart s => exact hbegan
  | unread hstart s =>
    have hlater := (closeConnection_story hcall n ⟨w.connections.length⟩ .readError
      { takeUp call n conn w with outside := s }).later
    exact (hlater.life _).subset hbegan

include hcall in
/-- A new connection that is not taken up leaves no trace, and one that is taken up is announced. -/
theorem register_cases (n : NodeRef) (conn : Connection) (w : World L S) :
    (∃ e, (register call n (w.addConnection conn).1 (w.addConnection conn).2).1 = .error e) ∧
        LeavesNoTrace w (register call n (w.addConnection conn).1 (w.addConnection conn).2).2 ∨
      (register call n (w.addConnection conn).1 (w.addConnection conn).2).1 = .ok () ∧
        .began n ∈ (register call n (w.addConnection conn).1 (w.addConnection conn).2).2.life
          (w.addConnection conn).1 := by
  by_cases hstate : w.IsUp n
  · rw [register_of_isUp hstate]
    exact .inr ⟨rfl, began_takeUp hcall n conn w⟩
  · rw [register_of_not_isUp hstate]
    exact .inl ⟨⟨_, rfl⟩, .addConnection (markClosed_ne_none _ _) w⟩

include hcall in
/-- A peer that is let in has passed the handshake and is announced; any other leaves no trace. -/
theorem accept_cases (n : NodeRef) (stream : StreamEnd) (origin : Option Address)
    (w : World L S) :
    LeavesNoTrace w (accept env call n stream origin w) ∨
      (∃ conn, w.greet env n stream origin = .ok conn) ∧
        .began n ∈ (accept env call n stream origin w).life ⟨w.connections.length⟩ := by
  unfold accept
  split
  · exact .inl (Undisturbed.outside w _).leavesNoTrace
  · rename_i conn hgreet
    unfold welcome
    dsimp only
    rw [setConnection_addConnection]
    split
    · rcases register_cases hcall n _ w with ⟨-, hnone⟩ | ⟨-, hbegan⟩
      · exact .inl hnone
      · exact .inr ⟨⟨conn, hgreet⟩, hbegan⟩
    · rw [setConnection_addConnection]
      exact .inl (.addConnection (markClosed_ne_none _ _) w)

include hcall in
/-- A dial that fails leaves no trace, unless the peer has passed the handshake and nobody can read
from the connection. -/
theorem connectNode_cases {n : NodeRef} {a : Address} {w : World L S} {e : NetworkError}
    (h : (connectNode env call n a w).1 = .error e) :
    LeavesNoTrace w (connectNode env call n a w).2 ∨
      (∃ dial conn, (openStream env n a w).1 = .ok dial ∧ w.answered env n dial = .ok conn) ∧
        .began n ∈ (connectNode env call n a w).2.life ⟨w.connections.length⟩ := by
  have hend := connectNode_end env call n a w
  generalize connectNode env call n a w = result at h hend ⊢
  cases hend with
  | found hfound => cases h
  | failed hnone hfails s => exact .inl (Undisturbed.outside w s).leavesNoTrace
  | @dialed dial conn hnone hrunning hdial hopened hanswered outcome w' hend =>
    exact .inr ⟨⟨dial, conn, hopened, hanswered⟩, hend.began hcall⟩

-- ---------------------------------------------------------------------------
-- After a run
-- ---------------------------------------------------------------------------

/-- A world to which a run has led: tables and lives agree, and everyone was told. -/
structure Settled (w : World L S) : Prop where
  sound : w.Sound
  balanced : ∀ e, ¬ e.IsRoster → Balanced e ⟨[], w⟩

/-- A new world is settled. -/
theorem Settled.start (registries : List (Registry L)) (outside : S) :
    Settled ({ start outside with registries } : World L S) :=
  ⟨(Sound.start outside).of_eq rfl rfl rfl, fun e _ => (Balanced.start e outside).of_eq rfl rfl⟩

/-- It stays settled. -/
theorem Settled.runs {w w' : World L S} (h : Settled w) (hruns : Runs w w') : Settled w' :=
  ⟨(hruns []).sound h.sound, fun e he => (hruns []).balanced he (h.balanced e he)⟩

variable (env) in
theorem Settled.run {w : World L S} (h : Settled w) (depth : Nat) (acts : List (Act L)) :
    Settled (run env depth acts w).2 :=
  h.runs (run_runs env depth acts w)

/-- A close tells no listener. -/
theorem filterMap_closings (c : ConnectionRef) (e : Event)
    (closes : List (NodeRef × CloseReason)) :
    (closings closes).filterMap (·.teller? c e) = [] := by
  rw [closings, List.filterMap_map]
  exact List.filterMap_eq_nil_iff.mpr fun _ _ => rfl

/-- Only the beginning and the end of a life are told. -/
theorem filterMap_life (c : ConnectionRef) (e : Event) (n : NodeRef)
    (before after : List (NodeRef × CloseReason)) (reason first : CloseReason) :
    (.began n :: closings before ++ .closed n reason :: .ended n first :: closings after).filterMap
        (·.teller? c e) =
      (if .connected c = e then [n] else []) ++ if .disconnected c first = e then [n] else [] := by
  rw [List.filterMap_append, List.filterMap_cons, filterMap_closings, List.filterMap_cons,
    List.filterMap_cons, filterMap_closings]
  by_cases hbegan : .connected c = e <;> by_cases hended : .disconnected c first = e <;>
    simp [Moment.teller?, hbegan, hended]

/-- A connection that no table holds is listed by none. -/
theorem inNoTable_of_contains {c : ConnectionRef} {w : World L S} (hs : w.Sound)
    (h : ∀ m, (w.node m).table.contains c = false) : InNoTable c w := fun m => by
  refine ⟨fun hmem => ?_, ConnectionTable.not_mem_index (hs.table m) (h m)⟩
  rw [ConnectionTable.mem_toList_iff, h m] at hmem
  cases hmem

variable {w : World L S} {n : NodeRef} {c : ConnectionRef} {reason : CloseReason}

/-- Connections have nothing to do with rosters. -/
theorem not_isRoster_of_eq {e : Event}
    (he : e = .connected c ∨ ∃ reason, e = .disconnected c reason) : ¬ e.IsRoster := by
  rcases he with rfl | ⟨reason, rfl⟩ <;> exact id

/-- What one node has told of a connection once. -/
theorem Settled.toldOnce (h : Settled w) {e : Event}
    (he : e = .connected c ∨ ∃ reason, e = .disconnected c reason)
    (hlife : (w.life c).filterMap (·.teller? c e) = [n]) : ToldOnce n e w :=
  (h.balanced e (not_isRoster_of_eq he)).toldOnce ((told_eq he w).trans hlife)

/-- What no node has told of a connection. -/
theorem Settled.untold (h : Settled w) {e : Event}
    (he : e = .connected c ∨ ∃ reason, e = .disconnected c reason)
    (hlife : (w.life c).filterMap (·.teller? c e) = []) : Untold e w :=
  (h.balanced e (not_isRoster_of_eq he)).untold ((told_eq he w).trans hlife)

/-- A connection that was not taken up is turned away. -/
theorem Settled.turnedAway (h : Settled w) (hc : c.number < w.connections.length)
    (hbegan : ∀ n, .began n ∉ w.life c) : TurnedAway c w := by
  cases h.sound.standing c with
  | unknown closes life table reason =>
    have hnobody (e : Event) : (w.life c).filterMap (·.teller? c e) = [] := by
      rw [life, filterMap_closings]
    exact {
      closed := reason hc
      table := inNoTable_of_contains h.sound table
      beginning := h.untold (.inl rfl) (hnobody _)
      ending := fun reason => h.untold (.inr ⟨reason, rfl⟩) (hnobody _) }
  | listed n closes life _ _ _ _ _ => exact absurd (life ▸ List.mem_cons_self ..) (hbegan n)
  | ended n before _ _ after life _ _ _ _ _ _ =>
    exact absurd (life ▸ List.mem_append_left _ (List.mem_cons_self ..)) (hbegan n)

/-- No two nodes take up one connection. -/
theorem Sound.began_unique (hs : w.Sound) {m : NodeRef} (h : .began n ∈ w.life c)
    (h' : .began m ∈ w.life c) : n = m := by
  cases hs.standing c with
  | unknown closes life _ _ => exact absurd (life ▸ h) not_mem_closings_of_began
  | listed k closes life _ _ _ _ _ =>
    simp only [life, List.mem_cons, Moment.began.injEq, not_mem_closings_of_began, or_false]
      at h h'
    exact h.trans h'.symm
  | ended k before _ _ after life _ _ _ _ _ _ =>
    simp only [life, List.mem_append, List.mem_cons, Moment.began.injEq, reduceCtorEq,
      not_mem_closings_of_began, or_false] at h h'
    exact h.trans h'.symm

/-- A connection that was taken up was announced once, however its life went on. -/
theorem Settled.toldOnce_connected (h : Settled w) (hbegan : .began n ∈ w.life c) :
    ToldOnce n (.connected c) w := by
  refine h.toldOnce (.inl rfl) ?_
  cases h.sound.standing c with
  | unknown closes life _ _ => exact absurd (life ▸ hbegan) not_mem_closings_of_began
  | listed m closes life _ _ _ _ _ =>
    have hm : n = m := h.sound.began_unique hbegan (by simp [life])
    rw [life, List.filterMap_cons, filterMap_closings]
    simp [Moment.teller?, hm]
  | ended m before _ _ after life _ _ _ _ _ _ =>
    have hm : n = m := h.sound.began_unique hbegan (by simp [life])
    rw [life, filterMap_life, if_pos rfl, hm]
    simp

/-- A connection whose end is on record is over and done with. -/
theorem Settled.ended (h : Settled w) {after : List (NodeRef × CloseReason)}
    (hlife : w.life c = .began n :: .closed n reason :: .ended n reason :: closings after) :
    Ended env n c reason w := by
  have hover : IsOver n c reason w := h.sound.isOver (by simp [hlife])
  have hclosed : (w.connection c).closeReason ≠ none := by
    rw [hover.closed]
    exact fun h => nomatch h
  have hending (other : CloseReason) :
      (w.life c).filterMap (·.teller? c (.disconnected c other)) =
        if reason = other then [n] else [] := by
    have hfilter := filterMap_life c (.disconnected c other) n [] after reason reason
    simp only [reduceCtorEq, if_false, Event.disconnected.injEq, true_and] at hfilter
    rw [hlife]
    exact hfilter
  exact {
    closed := hover.closed
    life := ⟨after, hlife⟩
    beginning := h.toldOnce_connected (by simp [hlife])
    ending := h.toldOnce (.inr ⟨reason, rfl⟩) ((hending reason).trans (if_pos rfl))
    otherEnding := fun other hne =>
      h.untold (.inr ⟨other, rfl⟩) ((hending other).trans (if_neg (Ne.symm hne)))
    table := inNoTable_of_contains h.sound hover.table
    findConnection := findConnection_ne_of_closed hclosed
    openConnections := not_mem_openConnections_of_closed hclosed
    connectNode := fun call => connectNode_ne_of_closed env call hclosed
    owns := hover.owns
    send := send_of_closed hclosed env.timing
    sendOn := fun call m payload howns =>
      sendOn_of_closed env call h.sound hclosed (hover.table m) howns payload
    sendOnElsewhere := fun call _ payload howns => sendOn_of_not_owns env call howns payload
    ping := ping_of_closed env hclosed }

/-- A connection that no other node has closed is in use, or it has come to its end. -/
theorem Settled.inUse_or_ended (h : Settled w) (hbegan : .began n ∈ w.life c)
    (hsole : ∀ m reason, .closed m reason ∈ w.life c → m = n) :
    InUse n c w ∨ ∃ reason, Ended env n c reason w := by
  -- what has been closed beside the end was closed by other nodes
  have hnone {m : NodeRef} {closes : List (NodeRef × CloseReason)} (hm : n = m)
      (hmem : ∀ x ∈ closes, .closed x.1 x.2 ∈ w.life c) (hothers : ∀ x ∈ closes, x.1 ≠ m) :
      closes = [] :=
    List.eq_nil_iff_forall_not_mem.mpr fun x hx =>
      hothers x hx ((hsole _ _ (hmem x hx)).trans hm)
  cases h.sound.standing c with
  | unknown closes life _ _ => exact absurd (life ▸ hbegan) not_mem_closings_of_began
  | listed m closes life others node owns table hreason =>
    left
    have hm : n = m := h.sound.began_unique hbegan (by simp [life])
    have hcloses := hnone hm (fun x hx => by
      rw [life]
      exact List.mem_cons_of_mem _ (List.mem_map.mpr ⟨x, hx, rfl⟩)) others
    subst hm hcloses
    refine ⟨life, ?_, fun m hmem => ?_, fun reason => h.untold (.inr ⟨reason, rfl⟩) ?_⟩
    · refine List.mem_filter.mpr ⟨ConnectionTable.mem_toList_iff.mpr ?_, ?_⟩
      · rw [table]
        exact decide_eq_true rfl
      · rw [isOpen, Connection.isClosed, hreason]
        rfl
    · rw [ConnectionTable.mem_toList_iff, table] at hmem
      exact of_decide_eq_true hmem
    · rw [life]
      rfl
  | ended m before reason first after life others node owns table closed isFirst =>
    right
    have hm : n = m := h.sound.began_unique hbegan (by simp [life])
    have hbefore := hnone hm (fun x hx => by
      rw [life]
      exact List.mem_append_left _
        (List.mem_cons_of_mem _ (List.mem_map.mpr ⟨x, hx, rfl⟩))) others
    subst hm hbefore isFirst
    exact ⟨_, h.ended life⟩

/-- The end of a connection stays what it was; all that may follow are more closes. -/
theorem life_later {w' : World L S} (hs : w'.Sound) (hlater : Later w w')
    {after : List (NodeRef × CloseReason)}
    (hlife : w.life c = .began n :: .closed n reason :: .ended n reason :: closings after) :
    ∃ after', w'.life c =
      .began n :: .closed n reason :: .ended n reason :: closings after' := by
  obtain ⟨moments, hmoments⟩ := hlater.life c
  rw [hlife] at hmoments
  -- the later life begins with the same three moments, and only one course of a life does
  cases hs.standing c with
  | unknown closes life _ _ =>
    rw [life] at hmoments
    cases closes <;> simp [closings] at hmoments
  | listed m closes life _ _ _ _ _ =>
    rw [life] at hmoments
    rcases closes with _ | ⟨x, _ | ⟨y, closes⟩⟩ <;> simp [closings] at hmoments
  | ended m before reason' first after' life _ _ _ _ _ _ =>
    rw [life] at hmoments
    rcases before with _ | ⟨x, _ | ⟨y, before⟩⟩
    · simp only [closings, List.map_nil, List.cons_append, List.nil_append,
        List.cons.injEq, Moment.began.injEq, Moment.closed.injEq, Moment.ended.injEq] at hmoments
      obtain ⟨rfl, ⟨-, rfl⟩, ⟨-, rfl⟩, -⟩ := hmoments
      exact ⟨after', life⟩
    · simp [closings] at hmoments
    · simp [closings] at hmoments

/-- **A connection lives once.** After any run, a connection that a node has taken up was announced
once. If no other node has closed it, it is in use, or it has ended for the reason of the first
close; whatever is done then, it stays so, and no act answers with it any more. One that no node has
taken up is turned away for good, and a peer or a dial that does not lead to a connection leaves no
trace; where a dial has failed and was announced, the peer has passed the handshake, and nobody could
read from the connection. -/
theorem connection_lives_once (env : Surroundings L S) (depth : Nat) (acts : List (Act L))
    (registries : List (Registry L)) (outside : S) :
    let w := (run env depth acts { start outside with registries }).2
    (∀ n c, .began n ∈ w.life c →
      ToldOnce n (.connected c) w ∧
        ((∀ m reason, .closed m reason ∈ w.life c → m = n) →
          InUse n c w ∨
          ∃ reason, Ended env n c reason w ∧
            ∀ more, Ended env n c reason (run env depth more w).2 ∧
              ∀ answer ∈ (run env depth more w).1, answer ≠ .connection (.ok c))) ∧
    (∀ c, c.number < w.connections.length → (∀ n, .began n ∉ w.life c) →
      TurnedAway c w ∧ ∀ more, TurnedAway c (run env depth more w).2) ∧
    (∀ n stream origin,
      LeavesNoTrace w (accept env (World.call env depth) n stream origin w) ∨
      (∃ conn, w.greet env n stream origin = .ok conn) ∧
        .began n ∈ (accept env (World.call env depth) n stream origin w).life
          ⟨w.connections.length⟩) ∧
    (∀ n a e, (connectNode env (World.call env depth) n a w).1 = .error e →
      LeavesNoTrace w (connectNode env (World.call env depth) n a w).2 ∨
      (∃ dial conn, (openStream env n a w).1 = .ok dial ∧ w.answered env n dial = .ok conn) ∧
        .began n ∈ (connectNode env (World.call env depth) n a w).2.life
          ⟨w.connections.length⟩) := by
  intro w
  have hcall := call_faithful env depth
  have hw : Settled w := (Settled.start registries outside).run env depth acts
  have hmore (more : List (Act L)) := hw.run env depth more
  have hlater (more : List (Act L)) : Later w (run env depth more w).2 :=
    (run_runs env depth more w []).later
  refine ⟨fun n c hbegan => ⟨hw.toldOnce_connected hbegan, fun hsole => ?_⟩,
    fun c hc hbegan => ⟨hw.turnedAway hc hbegan, fun more => ?_⟩,
    fun n stream origin => accept_cases hcall n stream origin w,
    fun n a e h => connectNode_cases hcall h⟩
  · rcases hw.inUse_or_ended hbegan hsole with huse | ⟨reason, hended⟩
    · exact .inl huse
    · obtain ⟨after, hlife⟩ := hended.life
      have hover : IsOver n c reason w := hw.sound.isOver (by simp [hlife])
      refine .inr ⟨reason, hended, fun more => ⟨?_, ?_⟩⟩
      · obtain ⟨after', hlife'⟩ := life_later (hmore more).sound (hlater more) hlife
        exact (hmore more).ended hlife'
      · exact run_ne_of_isOver env depth more hw.sound hover
  · exact (hmore more).turnedAway (Nat.lt_of_lt_of_le hc (hlater more).length)
      fun n h => hbegan n ((hlater more).began c n hc h)

/-- A node whose listener closes a connection when it hears of it. The node closes it once more, and
is shut down before the next peer has come. -/
theorem connection_lives_once_sample :
    let hello : Envelope := .ofPayload (.handshake ⟨"b", none, protocolVersion⟩)
    let peer : StreamEnd :=
      ⟨0, ⟨Bytes.bigEndian Frame.headerSize hello.size ++ hello.toBytes, [], .ended⟩, .unlimited⟩
    let env : Surroundings Bool Unit := {
      react := fun l e _ => match l, e with
        | true, .connected c => [.close ⟨0⟩ c .explicit]
        | _, _ => []
      bind := fun _ _ _ s => (.ok (.localhost 7001), s)
      dial := fun _ _ _ s => (.ok peer, s)
      stopServer := fun _ s => (true, s)
      hangUp := fun _ s => s
      startReader := fun _ s => (.ok (), s)
      connectionId := fun _ => "c"
      timing := ⟨0, 0⟩ }
    let acts : List (Act Bool) := [.start ⟨0⟩ "a" 0, .listen ⟨0⟩ false, .listen ⟨0⟩ true,
      .listenToNodes ⟨0⟩ false, .connectNode ⟨0⟩ (.localhost 7002), .close ⟨0⟩ ⟨0⟩ .readError,
      .shutDownNode ⟨0⟩, .accept ⟨0⟩ peer (some (.localhost 7003))]
    let w := (run env 2 acts { start () with registries := [.fresh .default .clearNet] }).2
    w.life ⟨0⟩ = [.began ⟨0⟩, .closed ⟨0⟩ .explicit, .ended ⟨0⟩ .explicit, .closed ⟨0⟩ .readError] ∧
      w.heard (.disconnected ⟨0⟩ .explicit) = [false, false, true] ∧
      (∃ reason, Ended env ⟨0⟩ ⟨0⟩ reason w) ∧ w.connections.length = 2 ∧ TurnedAway ⟨1⟩ w ∧
      LeavesNoTrace w (connectNode env (World.call env 2) ⟨0⟩ (.localhost 7002) w).2 := by
  intro hello peer env acts w
  obtain ⟨htaken, haway, -, hdial⟩ :=
    connection_lives_once env 2 acts [.fresh .default .clearNet] ()
  have hlife : w.life ⟨0⟩ = [.began ⟨0⟩, .closed ⟨0⟩ .explicit, .ended ⟨0⟩ .explicit,
      .closed ⟨0⟩ .readError] := by decide +kernel
  have hsole : ∀ m reason, .closed m reason ∈ w.life ⟨0⟩ → m = ⟨0⟩ := by
    rw [hlife]
    intro m reason hmem
    simp only [List.mem_cons, reduceCtorEq, Moment.closed.injEq, List.not_mem_nil, false_or,
      or_false] at hmem
    rcases hmem with ⟨rfl, -⟩ | ⟨rfl, -⟩ <;> rfl
  have hended : ∃ reason, Ended env ⟨0⟩ ⟨0⟩ reason w := by
    rcases (htaken ⟨0⟩ ⟨0⟩ (hlife ▸ List.mem_cons_self ..)).2 hsole with huse | ⟨reason, hended, -⟩
    · cases hlife.symm.trans huse.life
    · exact ⟨reason, hended⟩
  have haway : TurnedAway ⟨1⟩ w := by
    refine (haway ⟨1⟩ (by decide +kernel) fun n => ?_).1
    rw [show (run env 2 acts { start () with registries := [.fresh .default .clearNet] }).2.life ⟨1⟩
      = [] by decide +kernel]
    exact List.not_mem_nil
  have hrefused :
      (connectNode env (World.call env 2) ⟨0⟩ (.localhost 7002) w).1.toOption = none := by
    decide +kernel
  refine ⟨hlife, by decide +kernel, hended, by decide +kernel, haway, ?_⟩
  cases heq : (connectNode env (World.call env 2) ⟨0⟩ (.localhost 7002) w).1 with
  | ok c =>
    rw [heq] at hrefused
    cases hrefused
  | error e =>
    refine (hdial ⟨0⟩ (.localhost 7002) e heq).resolve_right fun h => ?_
    -- no third connection has begun
    exact absurd h.2 (by decide +kernel)

end Courier.World
