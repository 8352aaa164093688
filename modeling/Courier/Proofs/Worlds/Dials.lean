import Courier.Proofs.Worlds.Closed

/-!
# Courier — how a dial may go

A node that is asked for a connection to an address has one, or it cannot open one, or it opens one
and takes it up. A dial is begun and finished in two steps, between which the peer is to answer:
other things may happen then, and the node may even be shut down. When the peer has answered, the
connection is taken up and announced, and only then it turns out whether anybody can read from it.

* `StreamFails`, `ReplyFails`, `DialFails` — why a new connection cannot be opened;
* `TakeUpEnd` — how taking up a connection that was dialed may go;
* `finishDial_end` — how a dial may end that was begun at some time;
* `connectNode_end` — how asking for a connection may go.
-/

namespace Courier.World

variable {L S : Type}

-- ---------------------------------------------------------------------------
-- Why a dial fails, and how it may go
-- ---------------------------------------------------------------------------

/-- Why no stream was opened, or none on which the handshake was sent. -/
inductive StreamFails (env : Surroundings L S) (n : NodeRef) (a : Address) (w : World L S) :
    NetworkError → Prop where
  | banned (hbanned : w.isBanned n a = true) : StreamFails env n a w (.banned a.text)
  | unreachable {e : NetworkError} (hallowed : w.isBanned n a = false)
      (hdial : (env.dial (w.node n).registry a (w.node n).settings.connectTimeoutMs
        w.outside).1 = .error e) : StreamFails env n a w e
  /-- The peer is given no time to answer. -/
  | noTime {stream : StreamEnd} {e : NetworkError} (hallowed : w.isBanned n a = false)
      (hdial : (env.dial (w.node n).registry a (w.node n).settings.connectTimeoutMs
        w.outside).1 = .ok stream)
      (htime : Socket.checkTimeout (some (w.node n).settings.handshakeTimeoutMs.toNat) =
        .error e) : StreamFails env n a w e
  | notSent {stream : StreamEnd} {e : NetworkError} (hallowed : w.isBanned n a = false)
      (hdial : (env.dial (w.node n).registry a (w.node n).settings.connectTimeoutMs
        w.outside).1 = .ok stream)
      (htime : Socket.checkTimeout (some (w.node n).settings.handshakeTimeoutMs.toNat) = .ok ())
      (hsend : ((Socket.onStream stream (w.node n).settings.maxFrameSize.toNat).send
        (.ofPayload (.handshake (w.node n).handshake))).1 = .error e) : StreamFails env n a w e

/-- Why a peer has not answered a dial as it has to. -/
inductive ReplyFails (dial : Dial) : NetworkError → Prop where
  /-- The stream failed, or what came is no envelope, or too large a one. -/
  | unread {e : NetworkError} (hreceive : dial.socket.receive.1 = .error e) : ReplyFails dial e
  | ended (hreceive : dial.socket.receive.1 = .ok none) :
      ReplyFails dial (.handshakeFailed s!"{dial.address.text} closed during handshake")
  /-- The peer opened with something else than a handshake of this version. -/
  | refused {r : Received} {e : NetworkError} (hreceive : dial.socket.receive.1 = .ok (some r))
      (hpeer : peerHandshake r = .error e) : ReplyFails dial e

/-- Why a node that has no connection to an address cannot open one. -/
inductive DialFails (env : Surroundings L S) (n : NodeRef) (a : Address) (w : World L S) :
    NetworkError → Prop where
  | notRunning (hstate : (w.node n).isRunning = false) :
      DialFails env n a w (.notInitialized (w.node n).id)
  /-- Another dial to the address is under way. `get_connection` waits for its lock; acts cannot wait,
  and this outcome stands for a call that has not returned. -/
  | underWay (hrunning : (w.node n).isRunning = true) (hdial : a ∈ (w.node n).dials) :
      DialFails env n a w .timeout
  | notOpened {e : NetworkError} (hrunning : (w.node n).isRunning = true)
      (hdial : a ∉ (w.node n).dials) (h : StreamFails env n a w e) : DialFails env n a w e
  | notAnswered {dial : Dial} {e : NetworkError} (hrunning : (w.node n).isRunning = true)
      (hdial : a ∉ (w.node n).dials) (hopened : (openStream env n a w).1 = .ok dial)
      (h : ReplyFails dial e) : DialFails env n a w e

/-- A node notes an address that it dials. -/
def noteDial (n : NodeRef) (a : Address) (w : World L S) : World L S :=
  w.setNode n fun node => { node with dials := node.dials ++ [a] }

variable (env : Surroundings L S) (call : L → Event → World L S → World L S)

/-- A node takes up a connection and tells its listeners. -/
def takeUp (n : NodeRef) (conn : Connection) (w : World L S) : World L S :=
  raise call n (.connected (w.addConnection conn).1)
    ((w.addConnection conn).2.takeIn n (w.addConnection conn).1)

/-- How taking up a connection that was dialed may go, once its listeners have heard of it. -/
inductive TakeUpEnd (n : NodeRef) (conn : Connection) (w : World L S) :
    Except NetworkError ConnectionRef × World L S → Prop where
  | read (hstart : (env.startReader ⟨w.connections.length⟩ (takeUp call n conn w).outside).1 =
      .ok ()) (s : S) :
      TakeUpEnd n conn w (.ok ⟨w.connections.length⟩, { takeUp call n conn w with outside := s })
  /-- Nobody can read from it, and it is closed again. -/
  | unread {reason : String}
      (hstart : (env.startReader ⟨w.connections.length⟩ (takeUp call n conn w).outside).1 =
        .error reason) (s : S) :
      TakeUpEnd n conn w (.error (.failedIo reason),
        closeConnection call n ⟨w.connections.length⟩ .readError
          { takeUp call n conn w with outside := s })

/-- A node takes up connections: it has begun its life, and is not being shut down. -/
def IsUp (n : NodeRef) (w : World L S) : Prop :=
  (w.node n).state = .starting ∨ (w.node n).state = .running

/-- How a dial may end that was begun at some time. -/
inductive FinishEnd (n : NodeRef) (dial : Dial) (w : World L S) :
    Except NetworkError ConnectionRef × World L S → Prop where
  | notAnswered {e : NetworkError} (h : ReplyFails dial e) (s : S) :
      FinishEnd n dial w (.error e, endDial n dial.address { w with outside := s })
  /-- The node has been shut down since the dial was begun. -/
  | down {conn : Connection} (hanswered : w.answered env n dial = .ok conn)
      (hstate : ¬ w.IsUp n) :
      FinishEnd n dial w (.error (.notInitialized (w.node n).id),
        (w.addConnection (conn.markClosed .shutdown).2).2.endDial n dial.address)
  | answered {conn : Connection} (hanswered : w.answered env n dial = .ok conn)
      (hstate : w.IsUp n) {outcome : Except NetworkError ConnectionRef} {w' : World L S}
      (h : TakeUpEnd env call n conn w (outcome, w')) :
      FinishEnd n dial w (outcome, w'.endDial n dial.address)

/-- The world in which the answer to a dial is waited for: the address is noted, and the stream is
open. -/
def dialing (n : NodeRef) (a : Address) (w : World L S) : World L S :=
  { w.noteDial n a with outside := (openStream env n a w).2.outside }

/-- How asking for a connection may go. -/
inductive ConnectEnd (n : NodeRef) (a : Address) (w : World L S) :
    Except NetworkError ConnectionRef × World L S → Prop where
  | found {c : ConnectionRef} (hfound : w.findConnection n a = some c) :
      ConnectEnd n a w (.ok c, w)
  | failed {e : NetworkError} (hnone : w.findConnection n a = none) (h : DialFails env n a w e)
      (s : S) : ConnectEnd n a w (.error e, { w with outside := s })
  | dialed {dial : Dial} {conn : Connection} (hnone : w.findConnection n a = none)
      (hrunning : (w.node n).isRunning = true) (hdial : a ∉ (w.node n).dials)
      (hopened : (openStream env n a w).1 = .ok dial)
      (hanswered : w.answered env n dial = .ok conn)
      {outcome : Except NetworkError ConnectionRef} {w' : World L S}
      (h : TakeUpEnd env call n conn (w.dialing env n a) (outcome, w')) :
      ConnectEnd n a w (outcome, w'.endDial n a)

variable {env call} {n : NodeRef} {a : Address} {w : World L S}

/-- Opening a stream fails for one of these reasons, and only for them. -/
theorem openStream_eq_error_iff {e : NetworkError} :
    (openStream env n a w).1 = .error e ↔ StreamFails env n a w e := by
  constructor
  · intro h
    unfold openStream at h
    dsimp only at h
    split at h
    · rename_i hbanned
      cases h
      exact .banned hbanned
    rename_i hbanned
    have hallowed := Bool.eq_false_iff.mpr hbanned
    split at h
    · rename_i hstream
      cases h
      exact .unreachable hallowed hstream
    rename_i stream hstream
    split at h
    · rename_i htime
      cases h
      exact .noTime hallowed hstream htime
    rename_i htime
    split at h
    · rename_i hsend
      cases h
      exact .notSent hallowed hstream htime (congrArg Prod.fst hsend)
    · cases h
  · intro h
    unfold openStream
    dsimp only
    cases h with
    | banned hbanned => rw [if_pos hbanned]
    | unreachable hallowed hdial => rw [hallowed, if_neg Bool.false_ne_true, hdial]
    | noTime hallowed hdial htime =>
      rw [hallowed, if_neg Bool.false_ne_true, hdial]
      dsimp only
      rw [htime]
    | notSent hallowed hdial htime hsend =>
      rw [hallowed, if_neg Bool.false_ne_true, hdial]
      dsimp only
      rw [htime, ← Prod.eta (Socket.send _ _), hsend]

/-- The connection with a peer fails to come about for one of these reasons, and only for them. -/
theorem answered_eq_error_iff {dial : Dial} {e : NetworkError} :
    (∃ socket, w.answered env n dial = .error (e, socket)) ↔ ReplyFails dial e := by
  unfold answered
  constructor
  · rintro ⟨socket, h⟩
    split at h
    · rename_i hreceive
      cases h
      exact .unread (congrArg Prod.fst hreceive)
    · rename_i hreceive
      cases h
      exact .ended (congrArg Prod.fst hreceive)
    · rename_i hreceive
      split at h
      · rename_i hpeer
        cases h
        exact .refused (congrArg Prod.fst hreceive) hpeer
      · cases h
  · intro h
    cases h with
    | unread hreceive =>
      rw [← Prod.eta dial.socket.receive, hreceive]
      exact ⟨_, rfl⟩
    | ended hreceive =>
      rw [← Prod.eta dial.socket.receive, hreceive]
      exact ⟨_, rfl⟩
    | refused hreceive hpeer =>
      rw [← Prod.eta dial.socket.receive, hreceive]
      dsimp only
      rw [hpeer]
      exact ⟨_, rfl⟩

/-- What is in the way of a dial keeps it from being answered. -/
theorem DialFails.not_answered {e : NetworkError} (h : DialFails env n a w e)
    (hrunning : (w.node n).isRunning = true) (hdial : a ∉ (w.node n).dials) {dial : Dial}
    (hopened : (openStream env n a w).1 = .ok dial) {conn : Connection} :
    w.answered env n dial ≠ .ok conn := by
  intro hanswered
  cases h with
  | notRunning hstate => cases hstate.symm.trans hrunning
  | underWay _ hmem => exact hdial hmem
  | notOpened _ _ h => cases hopened.symm.trans (openStream_eq_error_iff.mpr h)
  | notAnswered _ _ hopened' h =>
    cases hopened.symm.trans hopened'
    obtain ⟨socket, hfailed⟩ := answered_eq_error_iff.mpr h
    cases hanswered.symm.trans hfailed

/-- One thing at most is in the way of a dial. -/
theorem DialFails.unique {e e' : NetworkError} (h : DialFails env n a w e)
    (h' : DialFails env n a w e') : e = e' := by
  cases h with
  | notRunning hstate =>
    cases h' with
    | notRunning => rfl
    | underWay hrunning | notOpened hrunning | notAnswered hrunning =>
      cases hstate.symm.trans hrunning
  | underWay hrunning hmem =>
    cases h' with
    | notRunning hstate => cases hstate.symm.trans hrunning
    | underWay => rfl
    | notOpened _ hdial | notAnswered _ hdial => exact absurd hmem hdial
  | notOpened hrunning hdial h =>
    have hfailed := openStream_eq_error_iff.mpr h
    cases h' with
    | notRunning hstate => cases hstate.symm.trans hrunning
    | underWay _ hmem => exact absurd hmem hdial
    | notOpened _ _ h' =>
      exact Except.error.inj (hfailed.symm.trans (openStream_eq_error_iff.mpr h'))
    | notAnswered _ _ hopened => cases hfailed.symm.trans hopened
  | @notAnswered dial _ hrunning hdial hopened h =>
    cases h' with
    | notRunning hstate => cases hstate.symm.trans hrunning
    | underWay _ hmem => exact absurd hmem hdial
    | notOpened _ _ h' => cases hopened.symm.trans (openStream_eq_error_iff.mpr h')
    | notAnswered _ _ hopened' h' =>
      cases hopened.symm.trans hopened'
      obtain ⟨socket, hfailed⟩ : ∃ socket, w.answered env n dial = .error (e, socket) :=
        answered_eq_error_iff.mpr h
      obtain ⟨socket', hfailed'⟩ := answered_eq_error_iff.mpr h'
      exact congrArg Prod.fst (Except.error.inj (hfailed.symm.trans hfailed'))

/-- What a note leaves alone of a node. -/
theorem node_noteDial {α : Type} (look : Node L → α)
    (h : ∀ node dials, look { node with dials } = look node) (b : Address) {m : NodeRef} :
    look ((w.noteDial n b).node m) = look (w.node m) :=
  node_setNode_congr look (fun node => h node _) n m w

/-- The end of a dial changes nothing of a node but its notes. -/
theorem node_endDial {α : Type} (look : Node L → α)
    (h : ∀ node dials, look { node with dials } = look node) (b : Address) {m : NodeRef} :
    look ((w.endDial n b).node m) = look (w.node m) :=
  node_setNode_congr look (fun node => h node _) n m w

/-- The notes of a node do not matter to the streams that it opens. -/
theorem openStream_noteDial (b : Address) :
    openStream env n a (w.noteDial n b) =
      ((openStream env n a w).1,
        { w.noteDial n b with outside := (openStream env n a w).2.outside }) := by
  have hregistry : ((w.noteDial n b).node n).registry = (w.node n).registry :=
    node_noteDial (·.registry) (fun _ _ => rfl) b
  have hsettings : ((w.noteDial n b).node n).settings = (w.node n).settings :=
    node_noteDial (·.settings) (fun _ _ => rfl) b
  have hhandshake : ((w.noteDial n b).node n).handshake = (w.node n).handshake :=
    node_noteDial (·.handshake) (fun _ _ => rfl) b
  have hbanned : (w.noteDial n b).isBanned n a = w.isBanned n a := by
    rw [isBanned, hregistry]
    rfl
  have houtside : (w.noteDial n b).outside = w.outside := rfl
  unfold openStream
  dsimp only
  rw [hbanned, hregistry, hsettings, hhandshake, houtside]
  split
  · rfl
  split
  · rfl
  split
  · rfl
  split <;> rfl

/-- Nor do they, and what is outside, to the connection with a peer that has answered. -/
theorem answered_noteDial (dial : Dial) (b : Address) (s : S) :
    answered env n dial { w.noteDial n b with outside := s } = w.answered env n dial := by
  have hid : (World.node n { w.noteDial n b with outside := s }).id = (w.node n).id :=
    node_noteDial (·.id) (fun _ _ => rfl) b
  unfold answered newConnection
  rw [hid]
  rfl

/-- A note that is taken back is gone, and all others stay. -/
theorem filter_note {dials : List Address} (h : a ∉ dials) :
    (dials ++ [a]).filter (· ≠ a) = dials := by
  have hothers : dials.filter (· ≠ a) = dials :=
    List.filter_eq_self.mpr fun b hb => decide_eq_true (ne_of_mem_of_not_mem hb h)
  rw [List.filter_append, hothers]
  simp

/-- Where a note was not there before, it can be taken back. -/
theorem endDial_noteDial (h : a ∉ (w.node n).dials) : (w.noteDial n a).endDial n a = w := by
  rw [endDial, noteDial, setNode_setNode]
  refine setNode_self ?_
  show { w.node n with dials := ((w.node n).dials ++ [a]).filter (· ≠ a) } = w.node n
  rw [filter_note h]

variable (env) in
/-- A node that runs and is not dialing the address yet opens a stream, and keeps a note of the dial
if it could. -/
theorem beginDial_eq (hnone : w.findConnection n a = none)
    (hrunning : (w.node n).isRunning = true) (hdial : a ∉ (w.node n).dials) :
    (∀ e, (openStream env n a w).1 = .error e →
      beginDial env n a w =
        (.failed e, { w with outside := (openStream env n a w).2.outside })) ∧
    ∀ dial, (openStream env n a w).1 = .ok dial →
      beginDial env n a w = (.opened dial, w.dialing env n a) := by
  unfold beginDial
  rw [hnone]
  dsimp only
  rw [hrunning, if_neg (by decide), if_neg hdial, ← noteDial, openStream_noteDial]
  refine ⟨fun e hfailed => ?_, fun dial hopened => ?_⟩
  · rw [hfailed]
    show (DialStart.failed e, { (w.noteDial n a).endDial n a with
      outside := (openStream env n a w).2.outside }) = _
    rw [endDial_noteDial hdial]
  · rw [hopened]
    rfl

/-- A dial that is begun leaves a note, where there was none, and nothing else. -/
theorem beginDial_eq_opened {dial : Dial} {w' : World L S}
    (h : beginDial env n a w = (.opened dial, w')) :
    dial.address = a ∧ a ∉ (w.node n).dials ∧ ∃ s, w' = { w.noteDial n a with outside := s } := by
  refine ⟨(beginDial_opened h).1, ?_⟩
  unfold beginDial at h
  split at h
  · cases h
  dsimp only at h
  split at h
  · cases h
  split at h
  · cases h
  rename_i hdial
  rw [← noteDial, openStream_noteDial] at h
  split at h
  · cases h
  · rename_i heq
    cases h
    exact ⟨hdial, _, (congrArg Prod.snd heq).symm⟩

-- ---------------------------------------------------------------------------
-- From the answer of the peer on
-- ---------------------------------------------------------------------------

/-- A node that is up takes up what is registered with it (`register`). -/
theorem register_of_isUp (hstate : w.IsUp n) (conn : Connection) :
    register call n (w.addConnection conn).1 (w.addConnection conn).2 =
      (.ok (), takeUp call n conn w) := if_pos hstate

/-- A node that is not refuses it, and closes it. -/
theorem register_of_not_isUp (hstate : ¬ w.IsUp n) (conn : Connection) :
    register call n (w.addConnection conn).1 (w.addConnection conn).2 =
      (.error (.notInitialized (w.node n).id),
        (w.addConnection (conn.markClosed .shutdown).2).2) := by
  have hrefused : register call n (w.addConnection conn).1 (w.addConnection conn).2 =
      (.error (.notInitialized (w.node n).id),
        (w.addConnection conn).2.setConnection (w.addConnection conn).1 fun conn =>
          (conn.markClosed .shutdown).2) := if_neg hstate
  rw [hrefused, setConnection_addConnection]

variable (env call)

/-- **Taking up a connection goes one of two ways**, if the node is up: it is read from, or it is
closed again. -/
theorem startReader_end (n : NodeRef) (conn : Connection) (w : World L S) :
    TakeUpEnd env call n conn w
      (startReader env call n ⟨w.connections.length⟩ (takeUp call n conn w)) := by
  unfold startReader
  dsimp only
  split
  · exact .read ‹_› _
  · exact .unread ‹_› _

/-- **A dial that was begun ends one of three ways**, whatever has been done since: it was not
answered, or the node is not up any more, or the connection is taken up. -/
theorem finishDial_end (n : NodeRef) (dial : Dial) (w : World L S) :
    FinishEnd env call n dial w (finishDial env call n dial w) := by
  unfold finishDial receiveReply
  cases hanswered : w.answered env n dial with
  | error failure =>
    obtain ⟨e, socket⟩ := failure
    exact .notAnswered (answered_eq_error_iff.mp ⟨socket, hanswered⟩) _
  | ok conn =>
    dsimp only
    by_cases hstate : w.IsUp n
    · rw [register_of_isUp hstate]
      exact .answered hanswered hstate (startReader_end env call n conn w)
    · rw [register_of_not_isUp hstate]
      exact .down hanswered hstate

/-- **Asking for a connection goes one of three ways**: there is one, or there can be none, or one is
dialed. -/
theorem connectNode_end (n : NodeRef) (a : Address) (w : World L S) :
    ConnectEnd env call n a w (connectNode env call n a w) := by
  cases hfound : w.findConnection n a with
  | some c =>
    unfold connectNode beginDial
    rw [hfound]
    exact .found hfound
  | none =>
    cases hrunning : (w.node n).isRunning with
    | false =>
      unfold connectNode beginDial
      rw [hfound]
      dsimp only
      rw [hrunning]
      exact .failed hfound (.notRunning hrunning) w.outside
    | true =>
      by_cases hdial : a ∈ (w.node n).dials
      · unfold connectNode beginDial
        rw [hfound]
        dsimp only
        rw [hrunning, if_neg (by decide), if_pos hdial]
        exact .failed hfound (.underWay hrunning hdial) w.outside
      · obtain ⟨hbegin, hbegin'⟩ := beginDial_eq env hfound hrunning hdial
        unfold connectNode
        cases hopened : (openStream env n a w).1 with
        | error e =>
          rw [hbegin e hopened]
          exact .failed hfound
            (.notOpened hrunning hdial (openStream_eq_error_iff.mp hopened)) _
        | ok dial =>
          obtain ⟨rfl, -⟩ := openStream_opened hopened
          rw [hbegin' dial hopened]
          dsimp only
          have hend := finishDial_end env call n dial (w.dialing env n dial.address)
          generalize finishDial env call n dial (w.dialing env n dial.address) = result at hend
          cases hend with
          | @notAnswered e h s =>
            show ConnectEnd env call n dial.address w (.error e,
              { (w.noteDial n dial.address).endDial n dial.address with outside := s })
            rw [endDial_noteDial hdial]
            exact .failed hfound (.notAnswered hrunning hdial hopened h) s
          | down hanswered hstate =>
            have hup : (w.dialing env n dial.address).IsUp n :=
              .inr ((node_noteDial (·.state) (fun _ _ => rfl) _).trans
                (of_decide_eq_true hrunning))
            exact absurd hup hstate
          | answered hanswered hstate h =>
            rw [dialing, answered_noteDial] at hanswered
            exact .dialed hfound hrunning hdial hopened hanswered h

end Courier.World
