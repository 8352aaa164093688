import Courier.Proofs.Worlds.Dialing
import Courier.Proofs.Worlds.Ownership
import Courier.Proofs.Worlds.Lifetimes

/-!
# Courier — dialing is all or nothing

Whoever asks a node for a connection to an address (`get_connection`) gets one that is open, that is
the node's own and that is found under the address from then on; or learns why there is none, and
then the dial has left nothing behind but what it did to the network. The listeners who hear of a new
connection may spoil it, by closing it again or shutting the node down, but whatever else they do
does not matter: the index of the table goes on pointing to the connection as long as it is open.

There are two exceptions. A connection is announced before anybody reads from it, and where nobody
can (`spawn_reader`) it is closed again and its end announced. And while an answer is waited for, a
peer may come from the same address, or another dial may lead there: then there are two connections
to the address, and the one that was taken up first is found as long as it is open.

* `Holds`, `Reaches` — a node has an open connection to an address, and finds it;
* `Spared` — a connection is not closed and a node not shut down;
* `Move.indexed` — the index stays as long as the connection is open;
* `TakeUpEnd.taken` — what becomes of a connection that is taken up;
* `AllOrNothing`, `Finished`, `dial_all_or_nothing` — what asking for a connection comes to.
-/

namespace Courier.World

variable {L S : Type}

/-- A node has an open connection to an address, which is its own. -/
structure Holds (n : NodeRef) (a : Address) (c : ConnectionRef) (w : World L S) : Prop where
  isOpen : w.isOpen c = true
  peerAddress : (w.connection c).peerAddress = a
  owns : w.owns n c = true
  listed : c ∈ w.openConnections n

/-- A node reaches an address over a connection: it has it, and it is the one that is found
(`find_connection`). -/
structure Reaches (n : NodeRef) (a : Address) (c : ConnectionRef) (w : World L S) : Prop extends
    Holds n a c w where
  found : w.findConnection n a = some c

/-- From one world to another, nobody closes the connection, and the node is not shut down. -/
structure Spared (n : NodeRef) (c : ConnectionRef) (w w' : World L S) : Prop where
  closings : ∀ m reason, .closed m c reason ∈ w'.history → .closed m c reason ∈ w.history
  alive : (w'.node n).state = .terminated → (w.node n).state = .terminated

/-- The connection is closed, or the index of the node points to it. -/
def Indexed (n : NodeRef) (a : Address) (c : ConnectionRef) (w : World L S) : Prop :=
  (w.connection c).closeReason ≠ none ∨ (w.node n).table.indexed? a = some c

variable {n : NodeRef} {a : Address} {c : ConnectionRef} {w w' : World L S}

/-- A connection is open if it has no reason to be closed. -/
theorem isOpen_iff : w.isOpen c = true ↔ (w.connection c).closeReason = none := by
  rw [isOpen, Connection.isClosed, Bool.not_eq_true', Option.isSome_eq_false_iff,
    Option.isNone_iff_eq_none]

/-- A close is in the life of a connection if it is on record. -/
theorem closed_mem_life {m : NodeRef} {reason : CloseReason} :
    .closed m reason ∈ w.life c ↔ .closed m c reason ∈ w.history := by
  rw [life, List.mem_filterMap]
  constructor
  · rintro ⟨d, hd, hmoment⟩
    unfold Deed.moment? at hmoment
    split at hmoment
    · split at hmoment <;> cases hmoment
    · split at hmoment <;> cases hmoment
    · split at hmoment
      · rename_i hc
        cases hmoment
        exact hc ▸ hd
      · cases hmoment
    · cases hmoment
  · exact fun h => ⟨_, h, if_pos rfl⟩

-- ---------------------------------------------------------------------------
-- What is found
-- ---------------------------------------------------------------------------

/-- What is in the index is in the table, under the address of its peer. -/
theorem Sound.of_indexed (hs : w.Sound) (h : (w.node n).table.indexed? a = some c) :
    (w.node n).table.contains c = true ∧ c.number < w.connections.length ∧
      (w.connection c).peerAddress = a := by
  have hmem : (c, a) ∈ (w.node n).table.entries := (hs.table n).mem_of_indexed? h
  exact ⟨ConnectionTable.contains_iff.mpr ⟨a, hmem⟩, hs.entries n (c, a) hmem⟩

/-- What is in the table of a node is its own. -/
theorem Sound.owns_of_contains (hs : w.Sound) (h : (w.node n).table.contains c = true) :
    w.owns n c = true := by
  cases hs.standing c with
  | unknown closes life table reason =>
    rw [table] at h
    cases h
  | listed m closes life others node owns table reason =>
    rw [table, decide_eq_true_eq] at h
    exact h ▸ owns
  | ended m before reason first after life others node owns table closed isFirst =>
    rw [table] at h
    cases h

/-- An open connection to which the index points is what the node reaches the address over. -/
theorem Sound.reaches (hs : w.Sound) (hindexed : (w.node n).table.indexed? a = some c)
    (hopen : w.isOpen c = true) : Reaches n a c w := by
  obtain ⟨hcontains, -, haddress⟩ := hs.of_indexed hindexed
  exact {
    isOpen := hopen
    peerAddress := haddress
    owns := hs.owns_of_contains hcontains
    listed := List.mem_filter.mpr ⟨ConnectionTable.mem_toList_iff.mpr hcontains, hopen⟩
    found := (ConnectionTable.find_eq_some_iff _).mpr ⟨hindexed, hcontains, hopen⟩ }

-- ---------------------------------------------------------------------------
-- The index stays
-- ---------------------------------------------------------------------------

/-- Closing another connection leaves the index where it is. -/
theorem Indexed.takeOut {m : NodeRef} {d : ConnectionRef} (reason : CloseReason)
    (hd : d.number < w.connections.length)
    (h : (w.node n).table.indexed? a = some c) :
    Indexed n a c (w.takeOut m d reason).2 := by
  by_cases hdc : d = c
  · left
    rw [hdc, closeReason_takeOut reason (hdc ▸ hd)]
    exact Option.some_ne_none _
  · right
    rw [table_takeOut]
    split
    · rw [ConnectionTable.indexed?_remove, if_neg]
      · exact h
      · rintro ⟨ha, hindexed⟩
        rw [← ha, h] at hindexed
        exact hdc (Option.some.inj hindexed).symm
    · exact h

/-- A new connection does not take the place of an open one. -/
theorem Indexed.takeIn {m : NodeRef} {conn : Connection} (hs : w.Sound)
    (hm : m.number < w.nodes.length) (hopen : (w.connection c).closeReason = none)
    (h : (w.node n).table.indexed? a = some c) :
    ((((w.addConnection conn).2.takeIn m (w.addConnection conn).1).node n).table).indexed? a =
      some c := by
  obtain ⟨hcontains, hc, -⟩ := hs.of_indexed h
  rw [table_takeIn n (w := (w.addConnection conn).2) hm]
  split
  · rw [ConnectionTable.indexed?_insert, if_neg]
    · exact h
    · rintro ⟨ha, hnone⟩
      have hopen' : (w.addConnection conn).2.isOpen c = true := by
        rw [isOpen_iff, connection_addConnection, if_neg (Nat.ne_of_lt hc)]
        exact hopen
      have hfound := (ConnectionTable.find_eq_some_iff (w.addConnection conn).2.isOpen).mpr
        ⟨h, hcontains, hopen'⟩
      rw [ha] at hfound
      cases hnone.symm.trans hfound
  · exact h

/-- **The index points to a connection as long as it is open**, whatever happens. -/
theorem Move.indexed {t t' : Turn L S} (h : Move t t') (hs : t.world.Sound)
    (hindexed : Indexed n a c t.world) : Indexed n a c t'.world := by
  -- a connection that is closed stays so
  by_cases hclosed : (t.world.connection c).closeReason = none
  case neg =>
    obtain ⟨reason, hreason⟩ := Option.ne_none_iff_exists'.mp hclosed
    exact .inl (by rw [h.stays_closed hreason]; exact Option.some_ne_none reason)
  replace hindexed := hindexed.resolve_left fun h => h hclosed
  obtain ⟨-, hc, -⟩ := hs.of_indexed hindexed
  cases h with
  | node due w m hsame htable =>
    right
    exact (congrArg _ (node_setNode_congr (·.table) htable m n w)).trans hindexed
  | @newNode due w node h =>
    right
    have hn : n.number ≠ w.nodes.length := fun hn => by
      have hnode : w.node n = default := node_of_length_le (Nat.le_of_eq hn.symm)
      replace hindexed : (w.node n).table.indexed? a = some c := hindexed
      rw [hnode] at hindexed
      cases hindexed
    show ((w.addNode node).2.node n).table.indexed? a = some c
    rw [node_addNode, if_neg hn]
    exact hindexed
  | @begins due w m conn hm hnode hopen => exact .inr (Indexed.takeIn hs hm hclosed hindexed)
  | @ends due w m d reason howns hthere =>
    exact Indexed.takeOut reason (owns_iff.mp howns).1 hindexed
  | @closes due w m d reason howns hthere =>
    exact Indexed.takeOut reason (owns_iff.mp howns).1 hindexed
  | _ => exact .inr hindexed

/-- So it is along any moves. -/
theorem Moves.indexed {t t' : Turn L S} (h : Moves t t') (hs : t.world.Sound)
    (hindexed : Indexed n a c t.world) : Indexed n a c t'.world :=
  (h.keeps (p := fun t => t.world.Sound ∧ Indexed n a c t.world)
    (fun hmove ht => ⟨hmove.sound ht.1, hmove.indexed ht.1 ht.2⟩) ⟨hs, hindexed⟩).2

/-- Who is found goes on to be found, as long as it is open. -/
theorem Moves.findConnection {t t' : Turn L S} (h : Moves t t') (hs : t.world.Sound)
    (hfound : t.world.findConnection n a = some c) (hopen : t'.world.isOpen c = true) :
    t'.world.findConnection n a = some c := by
  obtain ⟨hindexed, -, -⟩ := (ConnectionTable.find_eq_some_iff _).mp hfound
  have hlater := (h.indexed hs (.inr hindexed)).resolve_left fun hclosed =>
    hclosed (isOpen_iff.mp hopen)
  exact ((h.sound hs).reaches hlater hopen).found

-- ---------------------------------------------------------------------------
-- A connection that is taken up
-- ---------------------------------------------------------------------------

/-- A connection that was taken up and that nobody has closed is open, and its node has it. -/
theorem Sound.holds_of_began (hs : w.Sound) (hbegan : .began n ∈ w.life c)
    (hclosings : ∀ m reason, .closed m reason ∉ w.life c) :
    Holds n (w.connection c).peerAddress c w := by
  cases hs.standing c with
  | unknown closes life table reason => exact absurd (life ▸ hbegan) not_mem_closings_of_began
  | listed m closes life others node owns table reason =>
    obtain rfl : n = m := hs.began_unique hbegan (by simp [life])
    cases closes with
    | nil =>
      have hopen : w.isOpen c = true := isOpen_iff.mpr reason
      have hcontains : (w.node n).table.contains c = true := by
        rw [table]
        exact decide_eq_true rfl
      exact {
        isOpen := hopen
        peerAddress := rfl
        owns := owns
        listed := List.mem_filter.mpr ⟨ConnectionTable.mem_toList_iff.mpr hcontains, hopen⟩ }
    | cons close closes => exact absurd (by simp [life, closings]) (hclosings close.1 close.2)
  | ended m before reason first after life others node owns table closed isFirst =>
    exact absurd (by simp [life]) (hclosings m reason)

/-- A connection that its node has taken up and closed is over. -/
theorem Sound.isOver_of_closed (hs : w.Sound) {reason : CloseReason} (hbegan : .began n ∈ w.life c)
    (hclosed : .closed n c reason ∈ w.history) : ∃ first, IsOver n c first w := by
  have hlife := closed_mem_life.mpr hclosed
  cases hs.standing c with
  | unknown closes life table _ => exact absurd (life ▸ hbegan) not_mem_closings_of_began
  | listed m closes life others node owns table _ =>
    obtain rfl : n = m := hs.began_unique hbegan (by simp [life])
    rw [life] at hlife
    obtain ⟨x, hx, hmoment⟩ := List.mem_map.mp ((List.mem_cons.mp hlife).resolve_left (by simp))
    cases hmoment
    exact absurd rfl (others x hx)
  | ended m before _ first after life others node owns table closed isFirst =>
    obtain rfl : n = m := hs.began_unique hbegan (by simp [life])
    exact ⟨first, hs.isOver (by simp [life])⟩

/-- If nothing else has closed it, it is over for the reason that its node gave. -/
theorem Sound.isOver_of_sole (hs : w.Sound) {reason : CloseReason} (hbegan : .began n ∈ w.life c)
    (hclosed : .closed n c reason ∈ w.history)
    (hsole : ∀ m r, .closed m c r ∈ w.history → m = n ∧ r = reason) : IsOver n c reason w := by
  obtain ⟨first, hover⟩ := hs.isOver_of_closed hbegan hclosed
  have hsole' : ∀ m r, .closed m r ∈ w.life c → m = n ∧ r = reason := fun m r h =>
    hsole m r (closed_mem_life.mp h)
  cases hs.standing c with
  | unknown closes life table _ => exact absurd (life ▸ hbegan) not_mem_closings_of_began
  | listed m closes life others node owns table _ =>
    have hended := hover.ended
    rw [life] at hended
    exact absurd ((List.mem_cons.mp hended).resolve_left (by simp)) not_mem_closings_of_ended
  | ended m before r first' after life others node owns table closed isFirst =>
    obtain ⟨rfl, rfl⟩ := hsole' m r (by simp [life])
    -- those who closed it before were others, and there were none
    have hnobody : before = [] := List.eq_nil_iff_forall_not_mem.mpr fun x hx =>
      others x hx (hsole' x.1 x.2 (by
        rw [life]
        exact List.mem_append_left _
          (List.mem_cons_of_mem _ (List.mem_map.mpr ⟨x, hx, rfl⟩)))).1
    rw [hnobody] at isFirst
    exact hs.isOver (by simp [life, isFirst])

variable {conn : Connection} {env : Surroundings L S} {may : Act L → World L S → Prop}
  {call : L → Event → World L S → World L S}

/-- The index points to a connection that is taken up, if there was none to the address. -/
theorem Sound.indexed_takeIn (hs : w.Sound) (hn : n.number < w.nodes.length)
    (hnone : w.findConnection n conn.peerAddress = none) :
    (((w.addConnection conn).2.takeIn n (w.addConnection conn).1).node n).table.indexed?
      conn.peerAddress = some (w.addConnection conn).1 := by
  have hself : (w.addConnection conn).2.connection (w.addConnection conn).1 = conn := by
    rw [connection_addConnection]
    exact if_pos rfl
  have hnone' : (w.node n).table.find (w.addConnection conn).2.isOpen conn.peerAddress = none := by
    -- nothing else is open because the connection was added
    refine Option.eq_none_iff_forall_ne_some.mpr fun d hd => ?_
    obtain ⟨hindexed, hcontains, hopen⟩ := (ConnectionTable.find_eq_some_iff _).mp hd
    obtain ⟨-, hlt, -⟩ := hs.of_indexed hindexed
    rw [isOpen, connection_addConnection, if_neg (Nat.ne_of_lt hlt)] at hopen
    have hfound : w.findConnection n conn.peerAddress = some d :=
      (ConnectionTable.find_eq_some_iff _).mpr ⟨hindexed, hcontains, hopen⟩
    cases hnone.symm.trans hfound
  rw [table_takeIn n (w := (w.addConnection conn).2) hn, if_pos rfl,
    ConnectionTable.indexed?_insert, hself, if_pos ⟨rfl, hnone'⟩]

/-- A node sets about telling of a connection that it takes up. -/
def Turn.takeUp (n : NodeRef) (conn : Connection) (w : World L S) : Turn L S :=
  Turn.tell n (.connected ⟨w.connections.length⟩)
    ⟨[], (w.addConnection conn).2.takeIn n ⟨w.connections.length⟩⟩

/-- A dial is over, which is no more than a note taken back. -/
theorem Runs.endDial (n : NodeRef) (b : Address) (w : World L S) : Runs w (w.endDial n b) :=
  .node n (fun _ => ⟨rfl, rfl, rfl⟩) fun _ => rfl

/-- What happens from then on to the end of the dial. -/
theorem TakeUpEnd.moves (hcall : Faithful env may call)
    {result : Except NetworkError ConnectionRef × World L S}
    (h : TakeUpEnd env call n conn w result) (b : Address) :
    Moves (Turn.takeUp n conn w) ⟨[], result.2.endDial n b⟩ := by
  have htold : Moves (Turn.takeUp n conn w) ⟨[], World.takeUp call n conn w⟩ := by
    have hraise := (raise_story hcall n (.connected ⟨w.connections.length⟩)
      ((w.addConnection conn).2.takeIn n ⟨w.connections.length⟩)).moves []
    rwa [List.append_nil] at hraise
  refine Moves.trans ?_ (Runs.endDial n b result.2 [])
  cases h with
  | read hstart s => exact htold.trans (Move.outside [] _ s).moves
  | unread hstart s =>
    exact (htold.trans (Move.outside [] _ s).moves).trans
      ((closeConnection_story hcall n _ .readError _).moves [])

-- ---------------------------------------------------------------------------
-- Who closes it
-- ---------------------------------------------------------------------------

/-- Listeners that act mildly close nothing that was there before, so that a close is the only one
of its kind. -/
theorem closings_closeConnection (hkeeps : ∀ l e (w : World L S), Keeps True w (call l e w))
    {reason : CloseReason} {m : NodeRef} {d : ConnectionRef} {r : CloseReason}
    (hd : d.number < w.connections.length)
    (h : .closed m d r ∈ (closeConnection call n c reason w).history) :
    .closed m d r ∈ w.history ∨ m = n ∧ d = c ∧ r = reason := by
  have htaken (h : .closed m d r ∈ (w.takeOut n c reason).2.history) :
      .closed m d r ∈ w.history ∨ m = n ∧ d = c ∧ r = reason := by
    refine (List.mem_append.mp h).imp id fun heq => ?_
    cases List.mem_singleton.mp heq
    exact ⟨rfl, rfl, rfl⟩
  have hd' : d.number < (w.takeOut n c reason).2.connections.length :=
    Nat.lt_of_lt_of_eq hd (List.length_modify ..).symm
  unfold closeConnection at h
  split at h
  · exact .inl h
  · dsimp only at h
    split at h
    · exact htaken ((raise_keeps hkeeps n _ _).closings trivial m d r hd' h)
    · exact htaken h

/-- Nobody but the node itself closes what a dial has led to, and it only what it cannot read from,
if its listeners act mildly. -/
theorem TakeUpEnd.closings (hkeeps : ∀ l e (w : World L S), Keeps True w (call l e w))
    {result : Except NetworkError ConnectionRef × World L S}
    (h : TakeUpEnd env call n conn w result) {m : NodeRef} {reason : CloseReason}
    (hclosed : .closed m ⟨w.connections.length⟩ reason ∈ result.2.history) :
    .closed m ⟨w.connections.length⟩ reason ∈ w.history ∨
      (∃ e, result.1 = .error e) ∧ m = n ∧ reason = .readError := by
  have hlength : w.connections.length < (w.addConnection conn).2.connections.length :=
    Nat.lt_of_lt_of_eq (Nat.lt_succ_self _) (length_addConnection conn w).symm
  have hraised : Keeps True ((w.addConnection conn).2.takeIn n (w.addConnection conn).1)
      (takeUp call n conn w) := raise_keeps hkeeps n _ _
  have htaken (h : .closed m ⟨w.connections.length⟩ reason ∈ (takeUp call n conn w).history) :
      .closed m ⟨w.connections.length⟩ reason ∈ w.history :=
    hraised.closings trivial m _ reason hlength h
  cases h with
  | read hstart s => exact .inl (htaken hclosed)
  | unread hstart s =>
    have hlength' : w.connections.length < (takeUp call n conn w).connections.length :=
      Nat.lt_of_lt_of_le hlength hraised.connections
    rcases closings_closeConnection hkeeps (w := { takeUp call n conn w with outside := s })
      hlength' hclosed with hbefore | ⟨rfl, -, rfl⟩
    · exact .inl (htaken hbefore)
    · exact .inr ⟨⟨_, rfl⟩, rfl, rfl⟩

-- ---------------------------------------------------------------------------
-- Asking for a connection
-- ---------------------------------------------------------------------------

variable (env) in
/-- What becomes of the connection to an address that a node takes up when its dial is answered. -/
structure Taken (n : NodeRef) (a : Address) (w : World L S)
    (result : Except NetworkError ConnectionRef × World L S) : Prop where
  /-- It is the next one, and it is announced. -/
  began : .began n ∈ result.2.life ⟨w.connections.length⟩
  /-- It is given out, unless nobody can read from it. -/
  outcome : result.1 = .ok ⟨w.connections.length⟩ ∨
    ∃ reason s, (env.startReader ⟨w.connections.length⟩ s).1 = .error reason ∧
      result.1 = .error (.failedIo reason)
  /-- The node has what is given out, and it is what is found under the address, if nothing was
  found there before. -/
  all : ∀ c, result.1 = .ok c → Spared n c w result.2 →
    Holds n a c result.2 ∧ (w.findConnection n a = none → result.2.findConnection n a = some c)
  /-- What is not given out is closed, its end was announced, and it is in no table. -/
  nothing : ∀ e, result.1 = .error e →
    ∃ reason, IsOver n ⟨w.connections.length⟩ reason result.2
  /-- Listeners that close nothing and shut nothing down leave it at that. -/
  spared : (∀ l e v, ∀ act ∈ env.react l e v, act.isMild = true) →
    (∀ c, result.1 = .ok c → Spared n c w result.2) ∧
      ∀ e, result.1 = .error e → IsOver n ⟨w.connections.length⟩ .readError result.2
  /-- What was found under an address is found there as long as it is open. -/
  first : ∀ b d, w.findConnection n b = some d → result.2.isOpen d = true →
    result.2.findConnection n b = some d

variable {depth : Nat} {outcome : Except NetworkError ConnectionRef}

/-- What is given out is the connection that was taken up. -/
theorem TakeUpEnd.eq_of_ok (h : TakeUpEnd env call n conn w (outcome, w')) (hc : outcome = .ok c) :
    c = ⟨w.connections.length⟩ := by
  cases h with
  | read hstart s => exact (Except.ok.inj hc).symm
  | unread hstart s => cases hc

/-- Its node has closed what nobody can read from. -/
theorem TakeUpEnd.closed (hcall : Faithful env may call) (hs : w.Sound)
    (hn : n.number < w.nodes.length) {direction : Direction}
    (hcomes : ComesTo (w.node n) direction conn)
    (h : TakeUpEnd env call n conn w (outcome, w')) {e : NetworkError} (he : outcome = .error e) :
    .closed n ⟨w.connections.length⟩ .readError ∈ w'.history := by
  cases h with
  | read hstart s => cases he
  | unread hstart s =>
    have htaken : (Turn.takeUp n conn w).world.Sound :=
      hs.begins hn hcomes.nodeId hcomes.closeReason _ _
    have htold := (raise_story hcall n (.connected ⟨w.connections.length⟩)
      ((w.addConnection conn).2.takeIn n ⟨w.connections.length⟩)).moves []
    have hsound : (takeUp call n conn w).Sound := htold.sound htaken
    exact closed_mem_closeConnection hcall .readError
      (hsound.owns_of_began (began_takeUp hcall n conn w))

/-- Listeners that act mildly spare what is given out. -/
theorem TakeUpEnd.spared (hkeeps : ∀ l e (w : World L S), Keeps True w (call l e w))
    (h : TakeUpEnd env call n conn w (outcome, w')) (hc : outcome = .ok c) : Spared n c w w' := by
  obtain rfl := h.eq_of_ok hc
  refine ⟨fun m reason hclosed => ?_, (h.keeps hkeeps).alive trivial n⟩
  refine (h.closings hkeeps hclosed).resolve_right fun hfailed => ?_
  obtain ⟨e, he⟩ := hfailed.1
  cases hc.symm.trans he

/-- Nothing is on record of a connection that is yet to begin. -/
theorem Sound.not_closed_yet (hs : w.Sound) (m : NodeRef) (reason : CloseReason) :
    .closed m ⟨w.connections.length⟩ reason ∉ w.history := fun hclosed => by
  have hlife := closed_mem_life.mpr hclosed
  rw [hs.future ⟨w.connections.length⟩ (Nat.le_refl _)] at hlife
  exact List.not_mem_nil hlife

/-- A connection that was taken up is there as long as it is spared, and it is what is found under its
address if nothing was found there before. -/
theorem TakeUpEnd.holds (h : TakeUpEnd env (World.call env depth) n conn w (outcome, w'))
    (hs : w.Sound) (hn : n.number < w.nodes.length) {direction : Direction}
    (hcomes : ComesTo (w.node n) direction conn)
    (hspare : Spared n ⟨w.connections.length⟩ w (w'.endDial n conn.peerAddress)) :
    Holds n conn.peerAddress ⟨w.connections.length⟩ (w'.endDial n conn.peerAddress) ∧
      (w.findConnection n conn.peerAddress = none →
        (w'.endDial n conn.peerAddress).findConnection n conn.peerAddress =
          some ⟨w.connections.length⟩) := by
  have hcall := call_faithful env depth
  have htaken : (Turn.takeUp n conn w).world.Sound :=
    hs.begins hn hcomes.nodeId hcomes.closeReason _ _
  have hmoves := h.moves hcall conn.peerAddress
  have hs' : (w'.endDial n conn.peerAddress).Sound := hmoves.sound htaken
  have hholds := hs'.holds_of_began (h.began hcall) fun m reason hclosed =>
    hs.not_closed_yet m reason (hspare.closings m reason (closed_mem_life.mp hclosed))
  have hlength : w.connections.length < (Turn.takeUp n conn w).world.connections.length :=
    Nat.lt_of_lt_of_eq (Nat.lt_succ_self _) (length_addConnection conn w).symm
  have hself : (Turn.takeUp n conn w).world.connection ⟨w.connections.length⟩ = conn :=
    (connection_addConnection conn ⟨w.connections.length⟩ w).trans (if_pos rfl)
  have hpeer : ((w'.endDial n conn.peerAddress).connection
      ⟨w.connections.length⟩).peerAddress = conn.peerAddress :=
    (hmoves.lasting.connection ⟨w.connections.length⟩ hlength).peerAddress.trans
      (congrArg Connection.peerAddress hself)
  rw [hpeer] at hholds
  refine ⟨hholds, fun hnone => ?_⟩
  have hindexed := hmoves.indexed htaken (.inr (hs.indexed_takeIn hn hnone))
  exact (hs'.reaches (hindexed.resolve_left fun h => h (isOpen_iff.mp hholds.isOpen))
    hholds.isOpen).found

/-- **A connection that is taken up is there in the end, or it is over**, whatever the listeners do
when they hear of it. -/
theorem TakeUpEnd.taken (h : TakeUpEnd env (World.call env depth) n conn w (outcome, w'))
    (hs : w.Sound) (hn : n.number < w.nodes.length) {direction : Direction}
    (hcomes : ComesTo (w.node n) direction conn) :
    Taken env n conn.peerAddress w (outcome, w'.endDial n conn.peerAddress) := by
  have hcall := call_faithful env depth
  have hbegins : Moves ⟨[], w⟩ (Turn.takeUp n conn w) :=
    (Move.begins [] w hn hcomes.nodeId hcomes.closeReason).moves
  have hmoves := h.moves hcall conn.peerAddress
  have hs' : (w'.endDial n conn.peerAddress).Sound := (hbegins.trans hmoves).sound hs
  have hbegan : .began n ∈ (w'.endDial n conn.peerAddress).life ⟨w.connections.length⟩ :=
    h.began hcall
  have hclosed {e : NetworkError} (he : outcome = .error e) :
      .closed n ⟨w.connections.length⟩ .readError ∈ w'.history := h.closed hcall hs hn hcomes he
  exact {
    began := hbegan
    outcome := by
      cases h with
      | read hstart s => exact .inl rfl
      | unread hstart s => exact .inr ⟨_, _, hstart, rfl⟩
    all := fun c hc hspare => by
      obtain rfl := h.eq_of_ok hc
      exact h.holds hs hn hcomes hspare
    nothing := fun e he => hs'.isOver_of_closed hbegan (hclosed he)
    spared := fun hmild => by
      have hkeeps : ∀ l e (w : World L S), Keeps True w (World.call env depth l e w) :=
        call_keeps (fun _ => hmild) depth
      have hstate : ((w'.endDial n conn.peerAddress).node n).state = (w'.node n).state :=
        node_endDial (·.state) (fun _ _ => rfl) _
      refine ⟨fun c hc => ?_, fun e he => ?_⟩
      · have hspared := h.spared hkeeps hc
        exact ⟨hspared.closings, fun hover => hspared.alive (hstate.symm.trans hover)⟩
      · exact hs'.isOver_of_sole hbegan (hclosed he) fun m r hclosed =>
          ((h.closings hkeeps hclosed).resolve_left (hs.not_closed_yet m r)).2
    first := fun b d hfound hopen => (hbegins.trans hmoves).findConnection hs hfound hopen }

variable (env) in
/-- Asking a node for a connection to an address is all or nothing. -/
structure AllOrNothing (n : NodeRef) (a : Address) (w : World L S)
    (result : Except NetworkError ConnectionRef × World L S) : Prop where
  /-- A connection that is there is given out, and nothing happens. -/
  found : ∀ c, w.findConnection n a = some c → result = (.ok c, w)
  /-- Where there is none and something is in the way, the dial fails, and has changed nothing but
  what is outside. -/
  fails : ∀ e, w.findConnection n a = none → DialFails env n a w e →
    ∃ s, result = (.error e, { w with outside := s })
  /-- There is nothing else that could be in the way: a connection is taken up. -/
  taken : w.findConnection n a = none → (∀ e, ¬ DialFails env n a w e) → Taken env n a w result
  /-- The node has the same dials going on as before, if it is not shut down. -/
  dials : ((result.2.node n).state = .terminated → (w.node n).state = .terminated) →
    (result.2.node n).dials = (w.node n).dials

variable (env) in
/-- Finishing a dial is all or nothing, whatever was done since it was begun. -/
structure Finished (n : NodeRef) (dial : Dial) (w : World L S)
    (result : Except NetworkError ConnectionRef × World L S) : Prop where
  /-- A peer that has not answered as it has to has left no trace. -/
  notAnswered : ∀ e, ReplyFails dial e →
    ∃ s, result = (.error e, endDial n dial.address { w with outside := s })
  /-- Nor has one that has, if the node is not up any more. -/
  down : ∀ conn, w.answered env n dial = .ok conn → ¬ w.IsUp n →
    result.1 = .error (.notInitialized (w.node n).id) ∧ LeavesNoTrace w result.2
  taken : ∀ conn, w.answered env n dial = .ok conn → w.IsUp n →
    Taken env n dial.address w result
  /-- The note of the dial is gone, and no other, if the node is not shut down. -/
  dials : ((result.2.node n).state = .terminated → (w.node n).state = .terminated) →
    (result.2.node n).dials = (w.node n).dials.filter (· ≠ dial.address)

/-- Notes have nothing to do with tables and lives. -/
theorem Sound.dialing (hs : w.Sound) (env : Surroundings L S) (n : NodeRef) (a : Address) :
    (w.dialing env n a).Sound := by
  have hnoted : Quiet w (w.setNode n fun node => { node with dials := node.dials ++ [a] }) :=
    .setNode n (fun _ => by rfl) (fun _ => by rfl) w
  exact (hnoted.sound hs).of_eq rfl rfl rfl

/-- Beginning a dial changes nothing for `find_connection`. -/
theorem findConnection_dialing (env : Surroundings L S) (b : Address) :
    (w.dialing env n b).findConnection n a = w.findConnection n a := by
  have htable : ((w.noteDial n b).node n).table = (w.node n).table :=
    node_noteDial (·.table) (fun _ _ => rfl) b
  rw [findConnection]
  show ((w.noteDial n b).node n).table.find w.isOpen a = _
  rw [htable]
  rfl

/-- Nor does it change the state of a node. -/
theorem state_dialing (env : Surroundings L S) (a : Address) :
    ((w.dialing env n a).node n).state = (w.node n).state :=
  node_noteDial (·.state) (fun _ _ => rfl) a

/-- What was taken up in the course of a dial was taken up in the world in which it was begun. -/
theorem Taken.ofDialing {result : Except NetworkError ConnectionRef × World L S}
    (h : Taken env n a (w.dialing env n a) result) : Taken env n a w result where
  began := h.began
  outcome := h.outcome
  all c hc hspare := by
    have hspare' : Spared n c (w.dialing env n a) result.2 :=
      ⟨hspare.closings, fun hover => (state_dialing env a).trans (hspare.alive hover)⟩
    refine (h.all c hc hspare').imp id fun hfound hnone => hfound ?_
    rwa [findConnection_dialing]
  nothing := h.nothing
  spared hmild := by
    refine (h.spared hmild).imp (fun hspared c hc => ⟨(hspared c hc).closings, fun hover => ?_⟩) id
    exact (state_dialing env a).symm.trans ((hspared c hc).alive hover)
  first b d hfound := h.first b d ((findConnection_dialing env a).trans hfound)

/-- The note of a dial that was taken back is gone, and no other, if the node is not shut down. -/
theorem Keeps.dials_endDial (h : Keeps False w w')
    (halive : ((w'.endDial n a).node n).state = .terminated → (w.node n).state = .terminated)
    (hup : (w.node n).state ≠ .terminated) :
    ((w'.endDial n a).node n).dials = (w.node n).dials.filter (· ≠ a) := by
  have hstate : ((w'.endDial n a).node n).state = (w'.node n).state :=
    node_endDial (·.state) (fun _ _ => rfl) a
  rw [World.dials_endDial, if_pos rfl]
  rcases h.dials n with hsame | ⟨hover, -⟩
  · rw [hsame]
  · exact absurd (halive (hstate.trans hover)) hup

/-- A node that is up has not been shut down. -/
theorem IsUp.alive (h : w.IsUp n) : (w.node n).state ≠ .terminated := by
  rcases h with h | h <;> simp [h]

/-- What finishing a dial comes to. -/
theorem finishDial_finished (env : Surroundings L S) (depth : Nat) (n : NodeRef) (dial : Dial)
    (hs : w.Sound) : Finished env n dial w (finishDial env (World.call env depth) n dial w) := by
  have hkeeps : ∀ l e (w : World L S), Keeps False w (World.call env depth l e w) :=
    call_keeps (fun h => h.elim) depth
  have hdials (w' : World L S) (h : (w'.node n).dials = (w.node n).dials) :
      ((w'.endDial n dial.address).node n).dials =
        (w.node n).dials.filter (· ≠ dial.address) := by
    rw [World.dials_endDial, if_pos rfl, h]
  have hend := finishDial_end env (World.call env depth) n dial w
  generalize finishDial env (World.call env depth) n dial w = result at hend
  cases hend with
  | @notAnswered e h s =>
    obtain ⟨socket, hfailed⟩ : ∃ socket, w.answered env n dial = .error (e, socket) :=
      answered_eq_error_iff.mpr h
    exact {
      notAnswered := fun e' h' => by
        obtain ⟨socket', hfailed'⟩ : ∃ socket, w.answered env n dial = .error (e', socket) :=
          answered_eq_error_iff.mpr h'
        cases hfailed.symm.trans hfailed'
        exact ⟨s, rfl⟩
      down := fun conn hanswered => by cases hfailed.symm.trans hanswered
      taken := fun conn hanswered => by cases hfailed.symm.trans hanswered
      dials := fun _ => hdials _ rfl }
  | @down conn hanswered hstate =>
    have hsame {conn' : Connection} (h : w.answered env n dial = .ok conn') : conn = conn' :=
      Except.ok.inj (hanswered.symm.trans h)
    exact {
      notAnswered := fun e h => by
        obtain ⟨socket, hfailed⟩ := answered_eq_error_iff.mpr h
        cases hanswered.symm.trans hfailed
      down := fun conn' _ _ => ⟨rfl, (LeavesNoTrace.addConnection (markClosed_ne_none _ _) w).trans
        (Undisturbed.dials n (·.filter (· ≠ dial.address)) _).leavesNoTrace⟩
      taken := fun conn' _ hup => absurd hup hstate
      dials := fun _ => hdials _ rfl }
  | @answered conn hanswered hstate outcome w' h =>
    obtain ⟨hcomes, hpeer, -⟩ := answered_eq_ok hanswered
    exact {
      notAnswered := fun e h => by
        obtain ⟨socket, hfailed⟩ := answered_eq_error_iff.mpr h
        cases hanswered.symm.trans hfailed
      down := fun conn' _ hdown => absurd hstate hdown
      taken := fun conn' _ _ => hpeer ▸ h.taken hs (lt_length_of_state hstate) hcomes
      dials := fun halive => (h.keeps hkeeps).dials_endDial halive hstate.alive }

/-- What asking for a connection comes to, when nothing is done while an answer is waited for. -/
theorem connectNode_allOrNothing (env : Surroundings L S) (depth : Nat) (n : NodeRef) (a : Address)
    (hs : w.Sound) : AllOrNothing env n a w (connectNode env (World.call env depth) n a w) := by
  have hkeeps : ∀ l e (w : World L S), Keeps False w (World.call env depth l e w) :=
    call_keeps (fun h => h.elim) depth
  have hend := connectNode_end env (World.call env depth) n a w
  generalize connectNode env (World.call env depth) n a w = result at hend
  cases hend with
  | found hfound =>
    exact {
      found := fun d hd => by
        cases hfound.symm.trans hd
        rfl
      fails := fun e hnone => by cases hfound.symm.trans hnone
      taken := fun hnone => by cases hfound.symm.trans hnone
      dials := fun _ => rfl }
  | failed hnone h s =>
    exact {
      found := fun d hd => by cases hnone.symm.trans hd
      fails := fun e _ h' => ⟨s, by rw [h.unique h']⟩
      taken := fun _ hnothing => absurd h (hnothing _)
      dials := fun _ => rfl }
  | @dialed dial conn hnone hrunning hdial hopened hanswered outcome w' h =>
    obtain ⟨haddress, -⟩ := openStream_opened hopened
    obtain ⟨hcomes, hpeer, -⟩ := answered_eq_ok hanswered
    have hup : (w.dialing env n a).IsUp n :=
      .inr ((node_noteDial (·.state) (fun _ _ => rfl) a).trans (of_decide_eq_true hrunning))
    have hcomes' : ComesTo ((w.dialing env n a).node n) .outbound conn :=
      { hcomes with nodeId := hcomes.nodeId.trans (node_noteDial (·.id) (fun _ _ => rfl) a).symm }
    have htaken := h.taken (hs.dialing env n a) (lt_length_of_state hup) hcomes'
    rw [hpeer.trans haddress] at htaken
    exact {
      found := fun d hd => by cases hnone.symm.trans hd
      fails := fun e _ h' => absurd hanswered (h'.not_answered hrunning hdial hopened)
      taken := fun _ _ => htaken.ofDialing
      dials := fun halive => by
        have hnoted : ((w.dialing env n a).node n).dials = (w.node n).dials ++ [a] := by
          show ((w.noteDial n a).node n).dials = _
          rw [noteDial, node_setNode, if_pos ⟨rfl, lt_length_of_state (.inr
            (of_decide_eq_true hrunning))⟩]
        rw [(h.keeps hkeeps).dials_endDial (fun hover => (state_dialing env a).trans (halive hover))
          hup.alive, hnoted, filter_note hdial] }

/-- **Dialing is all or nothing**, at any moment: in the worlds that runs lead to, and in those that
listeners find in between. A dial that is begun leaves a note and nothing else, and when it is
finished, all or nothing comes of it in the world that there is then. -/
theorem dial_all_or_nothing (env : Surroundings L S) (depth : Nat) (n : NodeRef) (a : Address)
    {w : World L S} (hs : w.Sound) :
    AllOrNothing env n a w (connectNode env (World.call env depth) n a w) ∧
      (∀ dial w', beginDial env n a w = (.opened dial, w') →
        dial.address = a ∧ a ∉ (w.node n).dials ∧
          ∃ s, w' = { w.noteDial n a with outside := s }) ∧
      ∀ dial, Finished env n dial w (finishDial env (World.call env depth) n dial w) :=
  ⟨connectNode_allOrNothing env depth n a hs, fun _ _ h => beginDial_eq_opened h,
    fun dial => finishDial_finished env depth n dial hs⟩

/-- A node whose listener, when it hears of a connection, asks for it in turn and opens another one.
It is found when it is asked for again; and a peer that answers with a probe is no connection. -/
theorem dial_all_or_nothing_sample :
    let hello : Envelope := .ofPayload (.handshake ⟨"b", none, protocolVersion⟩)
    let peer (e : Envelope) : StreamEnd := ⟨0, ⟨Frame.ofEnvelope e, [], .ended⟩, .unlimited⟩
    let near : Address := .localhost 7002
    let far : Address := .localhost 7003
    let rude : Address := .localhost 7004
    let env : Surroundings Unit Nat := {
      react := fun _ e _ => match e with
        | .connected _ => [.connectNode ⟨0⟩ near, .connectNode ⟨0⟩ far]
        | _ => []
      bind := fun _ _ _ s => (.ok (.localhost 7001), s)
      dial := fun _ a _ s =>
        (.ok (peer (if a = rude then .ofPayload (.ping ⟨1⟩) else hello)), s)
      stopServer := fun _ s => (true, s)
      hangUp := fun _ s => s + 1
      startReader := fun _ s => (.ok (), s)
      connectionId := fun _ => "c"
      timing := ⟨0, 0⟩ }
    let acts : List (Act Unit) := [.start ⟨0⟩ "a" 0, .listen ⟨0⟩ ()]
    let fresh : World Unit Nat := { start 0 with registries := [.fresh .default .clearNet] }
    let w := (run env 2 acts fresh).2
    let dialed := connectNode env (World.call env 2) ⟨0⟩ near w
    let w' := (run env 2 (acts ++ [.connectNode ⟨0⟩ near]) fresh).2
    let refused := connectNode env (World.call env 2) ⟨0⟩ rude w'
    (w.findConnection ⟨0⟩ near = none ∧ dialed.1.toOption = some ⟨0⟩ ∧
      Reaches ⟨0⟩ near ⟨0⟩ dialed.2 ∧ (dialed.2.node ⟨0⟩).dials = [] ∧
      dialed.2.calls = [⟨(), .connected ⟨0⟩⟩, ⟨(), .connected ⟨1⟩⟩]) ∧
    connectNode env (World.call env 2) ⟨0⟩ near w' = (.ok ⟨0⟩, w') ∧
    (refused.1.toOption = none ∧ refused.2 = { w' with outside := 1 }) := by
  intro hello peer near far rude env acts fresh w dialed w' refused
  have hw : w.Sound := ((Settled.start [.fresh .default .clearNet] 0).run env 2 acts).sound
  have hw' : w'.Sound := ((Settled.start [.fresh .default .clearNet] 0).run env 2 _).sound
  have hdialed : AllOrNothing env ⟨0⟩ near w dialed := (dial_all_or_nothing env 2 ⟨0⟩ near hw).1
  obtain ⟨hfound, -⟩ := dial_all_or_nothing env 2 ⟨0⟩ near hw'
  have hrefused : AllOrNothing env ⟨0⟩ rude w' refused :=
    (dial_all_or_nothing env 2 ⟨0⟩ rude hw').1
  have hmild : ∀ l e v, ∀ act ∈ env.react l e v, act.isMild = true := by
    intro l e v act hact
    cases e with
    | connected c =>
      rcases List.mem_cons.mp hact with rfl | hact
      · rfl
      · rw [List.mem_singleton.mp hact]
        rfl
    | _ => exact absurd hact List.not_mem_nil
  have hnone : w.findConnection ⟨0⟩ near = none := by decide +kernel
  have hok : dialed.1.toOption = some ⟨0⟩ := by decide +kernel
  have hidle : (w.node ⟨0⟩).dials = [] := by decide +kernel
  have hnone' : w'.findConnection ⟨0⟩ rude = none := by decide +kernel
  have hfailed : refused.1.toOption = none := by decide +kernel
  have houtside : refused.2.outside = 1 := by decide +kernel
  have halive : (dialed.2.node ⟨0⟩).state = .running := by decide +kernel
  have hcalls : dialed.2.calls = [⟨(), .connected ⟨0⟩⟩, ⟨(), .connected ⟨1⟩⟩] := by decide +kernel
  have hagain : w'.findConnection ⟨0⟩ near = some ⟨0⟩ := by decide +kernel
  -- from here on it does not matter how the two dials went
  clear_value dialed refused
  refine ⟨⟨hnone, hok, ?_, ?_, hcalls⟩, hfound.found ⟨0⟩ hagain, hfailed, ?_⟩
  · have htaken := hdialed.taken hnone fun e h => by
      obtain ⟨s, rfl⟩ := hdialed.fails e hnone h
      cases hok
    have hgiven : dialed.1 = .ok ⟨0⟩ := by
      rcases htaken.outcome with hgiven | ⟨reason, s, hstart, -⟩
      · exact hgiven
      · cases hstart
    obtain ⟨hholds, hfinds⟩ := htaken.all ⟨0⟩ hgiven ((htaken.spared hmild).1 ⟨0⟩ hgiven)
    exact ⟨hholds, hfinds hnone⟩
  · refine (hdialed.dials fun hover => ?_).trans hidle
    cases halive.symm.trans hover
  · by_cases hnothing : ∀ e, ¬ DialFails env ⟨0⟩ rude w' e
    · rcases (hrefused.taken hnone' hnothing).outcome with hgiven | ⟨reason, s, hstart, -⟩
      · rw [hgiven] at hfailed
        cases hfailed
      · cases hstart
    · obtain ⟨e, he⟩ := not_forall_not.mp hnothing
      obtain ⟨s, rfl⟩ := hrefused.fails e hnone' he
      obtain rfl : s = 1 := houtside
      rfl

/-- Neither half holds without exception. Where nobody can read from the connection, a dial fails after
the listener has heard of the connection and of its end. And a node that has dialed an address and
has an open connection to it finds another one there: that of a peer that came in and gave the
address while the answer to the dial was waited for. -/
theorem dial_not_all_or_nothing :
    let stream (address : Option Address) : StreamEnd :=
      ⟨0, ⟨Frame.ofEnvelope (.ofPayload (.handshake ⟨"b", address, protocolVersion⟩)), [], .ended⟩,
        .unlimited⟩
    let peer : Address := .localhost 7002
    let plain : Surroundings Unit Unit := .plain (fun _ _ _ => []) (stream none)
    let unread : Surroundings Unit Unit :=
      { plain with startReader := fun _ s => (.error "no thread", s) }
    let acts : List (Act Unit) := [.start ⟨0⟩ "a" 0, .listen ⟨0⟩ ()]
    let fresh : World Unit Unit := { start () with registries := [.fresh .default .clearNet] }
    let idle := (run unread 1 acts fresh).2
    let failed := connectNode unread (World.call unread 1) ⟨0⟩ peer idle
    let begun := beginDial plain ⟨0⟩ peer (run plain 1 acts fresh).2
    let guest := accept plain (World.call plain 1) ⟨0⟩ (stream (some peer)) none begun.2
    let dialed (dial : Dial) := finishDial plain (World.call plain 1) ⟨0⟩ dial guest
    (failed.1.toOption = none ∧ idle.calls = [] ∧
      failed.2.calls = [⟨(), .connected ⟨0⟩⟩, ⟨(), .disconnected ⟨0⟩ .readError⟩]) ∧
    ∃ dial, begun.1 = .opened dial ∧ (dialed dial).1.toOption = some ⟨1⟩ ∧
      (dialed dial).2.isOpen ⟨1⟩ = true ∧ ((dialed dial).2.connection ⟨1⟩).peerAddress = peer ∧
      (dialed dial).2.findConnection ⟨0⟩ peer = some ⟨0⟩ := by
  intro stream peer plain unread acts fresh idle failed begun guest dialed
  let hello : Envelope := .ofPayload (.handshake ⟨"a", some (.localhost 7001), protocolVersion⟩)
  refine ⟨by decide +kernel,
    ⟨peer, ((Socket.onStream (stream none) 10485760).send hello).2, 35⟩, ?_, ?_⟩
  · decide +kernel
  · decide +kernel

end Courier.World
