import Courier.Proofs.Worlds.Closed
import Mathlib.Data.List.Forall2

/-!
# Courier — messages, and what becomes of a connection meanwhile

A message that was read is told to the listeners of the node, one after the other, and the registry
among them passes it on to whoever listens to its nodes then. All this is done before the node reads
on, and so the calls about the messages of a connection come in blocks, one for each message,
whatever else listeners do when they are called, as long as they do not read from the connection
themselves.

* `Delivery` — a message, the listeners it was told to, and who was called;
* `Story.mail` — all calls about the messages of a connection, in the course of a story;
* `Use` — what can be done with a connection;
* `Fate`, `Step.fate` — what can become of one in a step;
* `Story.source`, `Story.open_sockets` — what nobody but its reader changes, and what stays open.
-/

namespace Courier

/-- A payload for listeners; handshakes and probes are not. -/
def Payload.isMail : Payload → Bool
  | .confidential _ | .application _ => true
  | _ => false

/-- The event is a message on the connection. -/
def Event.isMailOn (c : ConnectionRef) : Event → Bool
  | .message _ d _ => d = c
  | _ => false

variable {L S : Type}

/-- The deed is to tell of a message on the connection, or to pass it on. -/
def Deed.isMailOn (c : ConnectionRef) : Deed L → Bool
  | .nodeTold _ _ e _ | .registryTold _ e _ => e.isMailOn c
  | .closed _ _ _ => false

/-- A message that was told to the listeners of a node. -/
structure Delivery (L : Type) where
  payload : Payload
  /-- The listeners of the node, each with those who were called for it: itself, or for the registry
  those who listened to its nodes. -/
  parts : List (NodeListener L × List L)
  own : ∀ l heard, (.own l, heard) ∈ parts → heard = [l]

namespace Delivery

/-- Those to whom the node told it. -/
def listeners (d : Delivery L) : List (NodeListener L) := d.parts.map (·.1)

/-- Those who were called, in order. -/
def hearers (d : Delivery L) : List L := d.parts.flatMap (·.2)

/-- Those whom the registry called for a listener of the node. -/
def passedTo : NodeListener L × List L → List L
  | (.registry, heard) => heard
  | (.own _, _) => []

/-- Those to whom the registry passed it on. -/
def relayed (d : Delivery L) : List L := d.parts.flatMap passedTo

/-- A listener is called once for each time that it listens to the node, and by the registry. -/
theorem count_hearers [DecidableEq L] (d : Delivery L) (l : L) :
    d.hearers.count l = d.listeners.count (.own l) + d.relayed.count l := by
  obtain ⟨payload, parts, own⟩ := d
  show (parts.flatMap (·.2)).count l =
    (parts.map (·.1)).count (.own l) + (parts.flatMap passedTo).count l
  induction parts with
  | nil => rfl
  | cons part parts ih =>
    have hrest := ih fun l' heard h => own l' heard (List.mem_cons_of_mem _ h)
    rw [List.flatMap_cons, List.flatMap_cons, List.map_cons, List.count_append, List.count_append,
      hrest]
    obtain ⟨listener, heard⟩ := part
    cases listener with
    | registry =>
      have hown : (NodeListener.registry : NodeListener L) ≠ .own l := fun h => nomatch h
      rw [List.count_cons_of_ne hown, passedTo]
      show heard.count l + _ = _
      omega
    | own l' =>
      obtain rfl := own l' heard (List.mem_cons_self ..)
      have hown : (NodeListener.own l' :: parts.map (·.1)).count (.own l) =
          [l'].count l + (parts.map (·.1)).count (.own l) := by
        by_cases hl : l' = l <;> simp [hl, Nat.add_comm]
      rw [hown, passedTo, List.count_nil]
      show [l'].count l + _ = _
      omega

/-- The calls, if the event was this one. -/
def calls (e : Event) (d : Delivery L) : List (Call L) := d.hearers.map (⟨·, e⟩)

/-- What the registry did for a listener of the node. -/
def passedOn? (r : RegistryRef) (e : Event) : NodeListener L × List L → Option (Deed L)
  | (.registry, heard) => some (.registryTold r e heard)
  | (.own _, _) => none

/-- What is on record of it. -/
def deeds (n : NodeRef) (r : RegistryRef) (e : Event) (d : Delivery L) : List (Deed L) :=
  .nodeTold n r e d.listeners :: d.parts.filterMap (passedOn? r e)

end Delivery

namespace World

/-- The calls about messages on a connection, in order. -/
def mailCalls (c : ConnectionRef) (w : World L S) : List (Call L) :=
  w.calls.filter (·.event.isMailOn c)

/-- What is on record of messages on a connection, in order. -/
def mailDeeds (c : ConnectionRef) (w : World L S) : List (Deed L) :=
  w.history.filter (·.isMailOn c)

-- ---------------------------------------------------------------------------
-- Calls about messages
-- ---------------------------------------------------------------------------

/-- What comes of a call that was due: who is called, and what is put on record. -/
inductive Due.Made : Due L → List (Call L) × List (Deed L) → Prop where
  | call (l : L) (e : Event) : Made (.call l e) ([⟨l, e⟩], [])
  | relay (r : RegistryRef) (e : Event) (heard : List L) :
      Made (.relay r e) (heard.map (⟨·, e⟩), [.registryTold r e heard])

/-- From one world to another, these calls about messages on a connection were made, and nothing
else was called or told about any. -/
def MailMade (c : ConnectionRef) (due : List (Due L)) (w w' : World L S) : Prop :=
  ∃ made, List.Forall₂ Due.Made (due.filter (·.event.isMailOn c)) made ∧
    w'.mailCalls c = w.mailCalls c ++ made.flatMap (·.1) ∧
    w'.mailDeeds c = w.mailDeeds c ++ made.flatMap (·.2)

variable {c : ConnectionRef}

/-- What is put on record is mail if it is about a message on the connection. -/
theorem mailDeeds_record (d : Deed L) (w : World L S) :
    (w.record d).mailDeeds c = w.mailDeeds c ++ if d.isMailOn c then [d] else [] := by
  rw [mailDeeds, record, List.filter_append, List.filter_singleton, mailDeeds]
  cases d.isMailOn c <;> rfl

/-- A call is mail if it is about a message on the connection. -/
theorem mailCalls_log (l : L) (e : Event) (w : World L S) :
    (w.log l e).mailCalls c = w.mailCalls c ++ if e.isMailOn c then [⟨l, e⟩] else [] := by
  rw [mailCalls, log, List.filter_append, List.filter_singleton, mailCalls]
  cases e.isMailOn c <;> rfl

/-- Nothing was called or told about messages on the connection. -/
theorem mailMade_nil_iff {w w' : World L S} :
    MailMade c [] w w' ↔ w'.mailCalls c = w.mailCalls c ∧ w'.mailDeeds c = w.mailDeeds c := by
  constructor
  · rintro ⟨made, hmade, hcalls, hdeeds⟩
    rw [List.filter_nil, List.forall₂_nil_left_iff] at hmade
    subst hmade
    exact ⟨hcalls.trans (List.append_nil _), hdeeds.trans (List.append_nil _)⟩
  · rintro ⟨hcalls, hdeeds⟩
    exact ⟨[], .nil, hcalls.trans (List.append_nil _).symm, hdeeds.trans (List.append_nil _).symm⟩

theorem MailMade.trans {due due' : List (Due L)} {w w' w'' : World L S}
    (h : MailMade c due w w') (h' : MailMade c due' w' w'') : MailMade c (due ++ due') w w'' := by
  obtain ⟨made, hmade, hcalls, hdeeds⟩ := h
  obtain ⟨made', hmade', hcalls', hdeeds'⟩ := h'
  refine ⟨made ++ made', ?_, ?_, ?_⟩
  · rw [List.filter_append]
    exact List.rel_append hmade hmade'
  · rw [hcalls', hcalls, List.flatMap_append, List.append_assoc]
  · rw [hdeeds', hdeeds, List.flatMap_append, List.append_assoc]

/-- What is due about something else does not matter. -/
theorem MailMade.of_other {due : List (Due L)} {w w' : World L S} (h : MailMade c due w w')
    (hother : ∀ d ∈ due, d.event.isMailOn c = false) : MailMade c [] w w' := by
  obtain ⟨made, hmade, hmail⟩ := h
  have hnone : due.filter (·.event.isMailOn c) = [] :=
    List.filter_eq_nil_iff.mpr fun d hd => Bool.eq_false_iff.mp (hother d hd)
  rw [hnone] at hmade
  exact ⟨made, hmade, hmail⟩

/-- A step without mail changes nothing of it. -/
theorem MailMade.of_eq {due : List (Due L)} {w w' w'' : World L S} (h : MailMade c due w' w'')
    (hcalls : w'.mailCalls c = w.mailCalls c) (hdeeds : w'.mailDeeds c = w.mailDeeds c) :
    MailMade c due w w'' := by
  obtain ⟨made, hmade, hmail⟩ := h
  rw [hcalls, hdeeds] at hmail
  exact ⟨made, hmade, hmail⟩

/-- A deed that is about something else does not matter either. -/
theorem MailMade.record {due : List (Due L)} {w w' : World L S} {d : Deed L}
    (h : MailMade c due (w.record d) w') (hd : d.isMailOn c = false) : MailMade c due w w' := by
  refine h.of_eq rfl ?_
  rw [mailDeeds_record, if_neg (Bool.eq_false_iff.mp hd), List.append_nil]

/-- A call that is due is made. -/
theorem MailMade.call (l : L) (e : Event) (w : World L S) :
    MailMade c [.call l e] w (w.log l e) := by
  unfold MailMade
  rw [mailCalls_log, List.filter_singleton]
  show ∃ made, List.Forall₂ Due.Made (bif e.isMailOn c then [.call l e] else []) made ∧ _
  cases e.isMailOn c with
  | true => exact ⟨[([⟨l, e⟩], [])], .cons (.call l e) .nil, rfl, (List.append_nil _).symm⟩
  | false => exact ⟨[], .nil, rfl, (List.append_nil _).symm⟩

/-- Listeners that are due are called, and that is all. -/
theorem flatMap_made_call {listeners : List L} {e : Event}
    {made : List (List (Call L) × List (Deed L))}
    (h : List.Forall₂ Due.Made (listeners.map (.call · e)) made) :
    made.flatMap (·.1) = listeners.map (⟨·, e⟩) ∧ made.flatMap (·.2) = [] := by
  induction listeners generalizing made with
  | nil =>
    cases h
    exact ⟨rfl, rfl⟩
  | cons l listeners ih =>
    cases h with
    | cons hfirst hrest =>
      obtain ⟨hcalls, hdeeds⟩ := ih hrest
      cases hfirst
      rw [List.flatMap_cons, List.flatMap_cons, hcalls, hdeeds]
      exact ⟨rfl, rfl⟩

/-- Once a registry has called those to whom it passes an event on, it has done what was due. -/
theorem MailMade.relay {r : RegistryRef} {e : Event} {w w' : World L S}
    (h : MailMade c (Turn.relay r e ⟨[], w⟩).due (Turn.relay r e ⟨[], w⟩).world w') :
    MailMade c [.relay r e] w w' := by
  unfold Turn.relay at h
  dsimp only at h
  rw [List.append_nil] at h
  generalize (w.registry r).nodeListeners.snapshot = listeners at h
  cases he : e.isMailOn c with
  | true =>
    obtain ⟨made, hmade, hcalls, hdeeds⟩ := h
    have hall : (listeners.map (Due.call · e)).filter (·.event.isMailOn c) =
        listeners.map (.call · e) := by
      rw [List.filter_eq_self]
      intro d hd
      obtain ⟨l, -, rfl⟩ := List.mem_map.mp hd
      exact he
    rw [hall] at hmade
    obtain ⟨hmadeCalls, hmadeDeeds⟩ := flatMap_made_call hmade
    have htold : (Deed.registryTold r e listeners : Deed L).isMailOn c = true := he
    rw [mailDeeds_record, if_pos htold, hmadeDeeds, List.append_nil] at hdeeds
    rw [hmadeCalls] at hcalls
    refine ⟨[(listeners.map (⟨·, e⟩), [.registryTold r e listeners])], ?_, ?_, ?_⟩
    · rw [List.filter_cons_of_pos (by exact he)]
      exact .cons (.relay r e listeners) .nil
    · rw [List.flatMap_singleton]
      exact hcalls
    · rw [List.flatMap_singleton]
      exact hdeeds
  | false =>
    have hother : MailMade c ([] : List (Due L)) w w' := by
      refine (h.record he).of_other fun d hd => ?_
      obtain ⟨l, -, rfl⟩ := List.mem_map.mp hd
      exact he
    obtain ⟨made, hmade, hmail⟩ := hother
    refine ⟨made, ?_, hmail⟩
    rw [List.filter_cons_of_neg (by exact Bool.eq_false_iff.mp he)]
    exact hmade

/-- A node that tells of something else than a message on the connection. -/
theorem MailMade.tell {n : NodeRef} {e : Event} {w w' : World L S}
    (h : MailMade c (Turn.tell n e ⟨[], w⟩).due (Turn.tell n e ⟨[], w⟩).world w')
    (he : e.isMailOn c = false) : MailMade c [] w w' := by
  unfold Turn.tell at h
  dsimp only at h
  rw [List.append_nil] at h
  refine (h.record he).of_other fun d hd => ?_
  obtain ⟨l, -, rfl⟩ := List.mem_map.mp hd
  cases l <;> exact he

/-- A registry that tells of a node that has joined or left. -/
theorem MailMade.announce {r : RegistryRef} {e : Event} {w w' : World L S}
    (h : MailMade c (Turn.announce r e ⟨[], w⟩).due (Turn.announce r e ⟨[], w⟩).world w')
    (he : e.isMailOn c = false) : MailMade c [] w w' := by
  unfold Turn.announce at h
  dsimp only at h
  rw [List.append_nil] at h
  refine (h.record he).of_other fun d hd => ?_
  obtain ⟨l, -, rfl⟩ := List.mem_map.mp hd
  exact he

variable {env : Surroundings L S} {may : Act L → World L S → Prop}

/-- A change is not about messages. -/
theorem Change.mail {w w' : World L S} (h : Change env may w w') :
    w'.mailCalls c = w.mailCalls c ∧ w'.mailDeeds c = w.mailDeeds c := by
  obtain ⟨hcalls, hhistory⟩ := h.record
  refine ⟨by rw [mailCalls, hcalls, mailCalls], ?_⟩
  rcases hhistory with hsame | ⟨n, d, reason, hclosed⟩
  · rw [mailDeeds, hsame, mailDeeds]
  · rw [mailDeeds, hclosed, List.filter_append]
    exact List.append_nil _

/-- **Messages on a connection are told by its reader alone.** In a story in which nobody reads from
the connection, the calls that were due about its messages are made in order, a registry passes on
what it was to pass on, and nothing else is called or told about any. -/
theorem Story.mail {t : Turn L S} {w' : World L S} (h : Story env may t w')
    (hmay : ∀ n w, ¬ may (.read n c) w) : MailMade c t.due t.world w' := by
  induction h with
  | done w => exact mailMade_nil_iff.mpr ⟨rfl, rfl⟩
  | change h next ih => exact ih.of_eq h.mail.1 h.mail.2
  | first h next ihFirst ih => exact ihFirst.trans ih
  | call during next ihDuring ih => exact (MailMade.call _ _ _).trans (ihDuring.trans ih)
  | relay pass hstay next ihPass ih => exact (MailMade.relay ihPass).trans ih
  | leave pass hthere gone next ihPass ihGone ih =>
    have hgone := (ihGone.announce rfl).of_eq rfl rfl
    exact (MailMade.relay ihPass).trans (hgone.trans ih)
  | @tell n d payload w w' h next ih =>
    obtain ⟨w₀, hread, -⟩ := h
    have hd : d ≠ c := by
      rintro rfl
      exact hmay n w₀ hread
    exact ih.tell (decide_eq_false hd)
  | connect hn hstate hadmitted next ih => exact (ih.tell rfl).of_eq rfl rfl
  | disconnect howns hthere next ih =>
    refine (ih.tell rfl).of_eq rfl ?_
    exact (List.filter_append ..).trans (List.append_nil _)
  | join hopen hnew next ih => exact (ih.announce rfl).of_eq rfl rfl
  | nobody hn => exact (mailMade_nil_iff.mpr ⟨rfl, rfl⟩ : MailMade c [] _ _).record rfl
  | @shut n w w₁ w₂ hn hstate hstop closing hclosed telling ihClosing ihTelling =>
    obtain ⟨s, hs⟩ := stopServer_eq env n (w.setState n .stopping)
    rw [hs] at ihClosing
    have htold := (ihTelling.tell rfl).of_eq (w := w₁) rfl rfl
    have hclosed := ihClosing.of_eq (w := w) rfl rfl
    exact hclosed.trans htold

/-- The listeners of a node that were due make up a delivery. -/
theorem exists_delivery {r : RegistryRef} {e : Event} {listeners : List (NodeListener L)}
    {made : List (List (Call L) × List (Deed L))} (payload : Payload)
    (h : List.Forall₂ Due.Made (listeners.map (dueTo r e)) made) :
    ∃ d : Delivery L, d.payload = payload ∧ d.listeners = listeners ∧
      made.flatMap (·.1) = d.calls e ∧
      made.flatMap (·.2) = d.parts.filterMap (Delivery.passedOn? r e) := by
  induction listeners generalizing made with
  | nil =>
    cases h
    exact ⟨⟨payload, [], fun _ _ h => absurd h List.not_mem_nil⟩, rfl, rfl, rfl, rfl⟩
  | cons l listeners ih =>
    cases h with
    | cons hfirst hrest =>
      obtain ⟨d, hpayload, hlisteners, hcalls, hdeeds⟩ := ih hrest
      rw [List.flatMap_cons, List.flatMap_cons, hcalls, hdeeds]
      cases l with
      | own l =>
        cases hfirst
        refine ⟨⟨payload, (.own l, [l]) :: d.parts, fun l' heard hmem => ?_⟩, rfl, ?_, rfl, rfl⟩
        · rcases List.mem_cons.mp hmem with heq | hmem
          · cases heq
            rfl
          · exact d.own l' heard hmem
        · exact congrArg (.own l :: ·) hlisteners
      | registry =>
        cases hfirst with
        | relay r e heard =>
          refine ⟨⟨payload, (.registry, heard) :: d.parts, fun l' heard' hmem => ?_⟩, rfl, ?_, ?_,
            rfl⟩
          · rcases List.mem_cons.mp hmem with heq | hmem
            · cases heq
            · exact d.own l' heard' hmem
          · exact congrArg (.registry :: ·) hlisteners
          · exact (List.map_append ..).symm

/-- **A message that a node tells of is delivered**: to those who listen to the node when it sets
about telling, and to nobody else. -/
theorem MailMade.delivery {n : NodeRef} {e : Event} {w w' : World L S} (payload : Payload)
    (h : MailMade c (Turn.tell n e ⟨[], w⟩).due (Turn.tell n e ⟨[], w⟩).world w')
    (he : e.isMailOn c = true) :
    ∃ d : Delivery L, d.payload = payload ∧ d.listeners = (w.node n).listeners.snapshot ∧
      w'.mailCalls c = w.mailCalls c ++ d.calls e ∧
      w'.mailDeeds c = w.mailDeeds c ++ d.deeds n (w.node n).registry e := by
  unfold Turn.tell at h
  dsimp only at h
  rw [List.append_nil] at h
  obtain ⟨made, hmade, hcalls, hdeeds⟩ := h
  have hall : ((w.node n).listeners.snapshot.map (dueTo (w.node n).registry e)).filter
      (·.event.isMailOn c) = (w.node n).listeners.snapshot.map (dueTo (w.node n).registry e) := by
    rw [List.filter_eq_self]
    intro due hdue
    obtain ⟨l, -, rfl⟩ := List.mem_map.mp hdue
    cases l <;> exact he
  rw [hall] at hmade
  obtain ⟨d, hpayload, hlisteners, hmadeCalls, hmadeDeeds⟩ := exists_delivery payload hmade
  have htold : (Deed.nodeTold n (w.node n).registry e (w.node n).listeners.snapshot :
      Deed L).isMailOn c = true := he
  rw [mailDeeds_record, if_pos htold, hmadeDeeds, List.append_assoc] at hdeeds
  rw [hmadeCalls] at hcalls
  refine ⟨d, hpayload, hlisteners, hcalls, ?_⟩
  rw [hdeeds, Delivery.deeds, hlisteners]
  rfl

-- ---------------------------------------------------------------------------
-- What becomes of a connection
-- ---------------------------------------------------------------------------

/-- What is left to read on a connection. -/
def source (c : ConnectionRef) (w : World L S) : Source := (w.connection c).socket.stream.source

/-- What was written on a connection. -/
def written (c : ConnectionRef) (w : World L S) : Bytes :=
  (w.connection c).socket.stream.sink.written

/-- The socket of every connection that is open is open. -/
def OpenSockets (w : World L S) : Prop :=
  ∀ c, (w.connection c).closeReason = none → (w.connection c).socket.closed = false

/-- What can be done with a connection that is there. -/
inductive Use (may : Act L → World L S → Prop) (t : Timing) (c : ConnectionRef)
    (conn : Connection) : Connection → Prop where
  | send (payload : Payload) : Use may t c conn (conn.send t payload).2
  | ping (nonce : UInt64) : Use may t c conn (conn.ping t nonce).2
  /-- Somebody receives who may read from it. -/
  | receive (hmay : ∃ n w₀, may (.read n c) w₀) : Use may t c conn (conn.receive t).2
  | pong (p : Pong) : Use may t c conn (conn.onPong t p)
  /-- It is closed, or closed once more. -/
  | close (reason : CloseReason) : Use may t c conn (conn.markClosed reason).2

/-- What a connection may be after one step. -/
inductive Fate (env : Surroundings L S) (may : Act L → World L S → Prop) (c : ConnectionRef)
    (w : World L S) (conn' : Connection) : Prop where
  | same (h : conn' = w.connection c)
  /-- It has just begun, or has not been taken up. -/
  | new (hc : c.number = w.connections.length)
      (hadmitted : conn'.closeReason = none → ∃ n, Admitted env may w n conn')
  | used (h : Use may env.timing c (w.connection c) conn')

/-- `send` reads nothing. -/
theorem source_send (t : Timing) (p : Payload) (conn : Connection) :
    (conn.send t p).2.socket.stream.source = conn.socket.stream.source := by
  have hsocket : (conn.socket.send (.ofPayload p)).2.stream.source =
      conn.socket.stream.source := by
    unfold Socket.send
    split <;> rfl
  unfold Connection.send
  split
  · rfl
  · split
    all_goals
      rename_i heq
      rw [heq] at hsocket
      exact hsocket

/-- `receive_next` writes nothing. -/
theorem sink_receive (t : Timing) (conn : Connection) :
    (conn.receive t).2.socket.stream.sink = conn.socket.stream.sink := by
  have hsocket : (conn.socket.receive).2.stream.sink = conn.socket.stream.sink := by
    unfold Socket.receive
    split <;> rfl
  unfold Connection.receive
  split
  all_goals
    rename_i heq
    rw [heq] at hsocket
    exact hsocket

/-- A pong does not touch the socket. -/
theorem socket_onPong (t : Timing) (p : Pong) (conn : Connection) :
    (conn.onPong t p).socket = conn.socket := by
  unfold Connection.onPong
  split <;> rfl

/-- A stream holds what it held when its connection is closed. -/
theorem stream_markClosed (reason : CloseReason) (conn : Connection) :
    (conn.markClosed reason).2.socket.stream = conn.socket.stream := by
  unfold Connection.markClosed
  split <;> rfl

/-- The probe itself is what is sent; the rest is bookkeeping. -/
theorem socket_ping (t : Timing) (nonce : UInt64) (conn : Connection) :
    (conn.ping t nonce).2.socket =
      (Connection.send t (.ping ⟨nonce⟩)
        { conn with outstanding := nonce :: conn.outstanding.filter (· ≠ nonce) }).2.socket := by
  unfold Connection.ping
  dsimp only
  split
  all_goals
    rename_i heq
    rw [heq]

/-- `ping` reads nothing. -/
theorem source_ping (t : Timing) (nonce : UInt64) (conn : Connection) :
    (conn.ping t nonce).2.socket.stream.source = conn.socket.stream.source := by
  rw [socket_ping]
  exact source_send ..

/-- On a closed connection it does nothing at all. -/
theorem socket_ping_of_closed {conn : Connection} (h : conn.closeReason ≠ none) (t : Timing)
    (nonce : UInt64) : (conn.ping t nonce).2.socket = conn.socket := by
  rw [socket_ping, send_of_closed]
  exact h

/-- Who may not read from a connection leaves its source as it is. -/
theorem Use.source {t : Timing} {conn conn' : Connection} (h : Use may t c conn conn')
    (hmay : ∀ n w, ¬ may (.read n c) w) :
    conn'.socket.stream.source = conn.socket.stream.source := by
  cases h with
  | send payload => exact source_send ..
  | ping nonce => exact source_ping ..
  | receive hread =>
    obtain ⟨n, w₀, hread⟩ := hread
    exact absurd hread (hmay n w₀)
  | pong p => rw [socket_onPong]
  | close reason => rw [stream_markClosed]

/-- A connection that is open after it was used was open before, and its socket is as open. -/
theorem Use.open {t : Timing} {conn conn' : Connection} (h : Use may t c conn conn')
    (hopen : conn'.closeReason = none) :
    conn.closeReason = none ∧ conn'.socket.closed = conn.socket.closed := by
  have of_sameLife (hsame : SameLife conn conn') :
      conn.closeReason = none ∧ conn'.socket.closed = conn.socket.closed :=
    ⟨hsame.closeReason.symm.trans hopen, hsame.closed⟩
  cases h with
  | send payload => exact of_sameLife (sameLife_send ..)
  | ping nonce => exact of_sameLife (sameLife_ping ..)
  | receive hread => exact of_sameLife (sameLife_receive ..)
  | pong p => exact of_sameLife (sameLife_onPong ..)
  | close reason => exact absurd hopen (markClosed_ne_none _ _)

/-- Nothing is written on a connection that is closed, and it stays closed. -/
theorem Use.of_closed {t : Timing} {conn conn' : Connection} (h : Use may t c conn conn')
    (hclosed : conn.closeReason ≠ none) : conn'.closeReason ≠ none ∧
      conn'.socket.stream.sink.written = conn.socket.stream.sink.written := by
  refine ⟨fun hopen => hclosed (h.open hopen).1, ?_⟩
  cases h with
  | send payload => rw [send_of_closed hclosed]
  | ping nonce => rw [socket_ping_of_closed hclosed]
  | receive hread => rw [sink_receive]
  | pong p => rw [socket_onPong]
  | close reason => rw [stream_markClosed]

/-- A use of the connection is one of its fates. -/
theorem Fate.setConnection {d : ConnectionRef} {f : Connection → Connection} {w : World L S}
    (h : d = c → Use may env.timing c (w.connection c) (f (w.connection c))) :
    Fate env may c w ((w.setConnection d f).connection c) := by
  rw [connection_setConnection]
  split
  · rename_i hd
    exact .used (h hd.1.symm)
  · exact .same rfl

/-- A new connection was admitted, or is closed from the start. -/
theorem Fate.addConnection {conn : Connection} {w : World L S}
    (hadmitted : conn.closeReason = none → ∃ n, Admitted env may w n conn) :
    Fate env may c w ((w.addConnection conn).2.connection c) := by
  rw [connection_addConnection]
  split
  · rename_i hc
    exact .new hc hadmitted
  · exact .same rfl

/-- A node closes connections of its own only. -/
theorem Fate.takeOut {n : NodeRef} {d : ConnectionRef} {reason : CloseReason} {w : World L S}
    (howns : w.owns n d = true) :
    Fate env may c w ((w.takeOut n d reason).2.connection c) := by
  rw [connection_takeOut n d reason c (owns_iff.mp howns).1]
  split
  · rename_i hc
    subst hc
    exact .used (.close reason)
  · exact .same rfl

/-- Every change leaves the connection to its fate. -/
theorem Change.fate {w w' : World L S} (h : Change env may w w') :
    Fate env may c w (w'.connection c) := by
  cases h with
  | send d payload =>
    refine .setConnection ?_
    rintro rfl
    exact .send payload
  | ping d nonce =>
    refine .setConnection ?_
    rintro rfl
    exact .ping nonce
  | @receive n d hmay =>
    refine .setConnection ?_
    rintro rfl
    exact .receive ⟨n, w, hmay⟩
  | pong d p =>
    refine .setConnection ?_
    rintro rfl
    exact .pong p
  | start n port =>
    have hend := startNode_end env n port w
    generalize startNode env n port w = result at hend
    cases hend <;> exact .same rfl
  | @stuck n hstate hstop =>
    obtain ⟨s, hs⟩ := stopServer_eq env n (w.setState n .stopping)
    rw [hs]
    exact .same rfl
  | turnAway hclosed => exact .addConnection fun hopen => absurd hopen hclosed
  | close reason howns hthere => exact .takeOut howns
  | _ => exact .same rfl

/-- **What one step can do to a connection.** -/
theorem Step.fate {w w' : World L S} (h : Step env may w w') :
    Fate env may c w (w'.connection c) := by
  cases h with
  | change h => exact h.fate
  | @connect n conn hn hstate hadmitted => exact .addConnection fun _ => ⟨n, hadmitted⟩
  | disconnect howns hthere => exact .takeOut howns
  | @stop n hn hstate hstop =>
    obtain ⟨s, hs⟩ := stopServer_eq env n (w.setState n .stopping)
    rw [hs]
    exact .same rfl
  | _ => exact .same rfl

/-- Nobody but its reader changes what is left to read on a connection. -/
theorem Story.source {t : Turn L S} {w' : World L S} (h : Story env may t w')
    (hmay : ∀ n w, ¬ may (.read n c) w) (hc : c.number < t.world.connections.length) :
    w'.source c = t.world.source c := by
  let R (w w' : World L S) : Prop := w.connections.length ≤ w'.connections.length ∧
    (c.number < w.connections.length → w'.source c = w.source c)
  have hrefl (w : World L S) : R w w := ⟨Nat.le_refl _, fun _ => rfl⟩
  have htrans {w w' w'' : World L S} (h : R w w') (h' : R w' w'') : R w w'' :=
    ⟨Nat.le_trans h.1 h'.1, fun hc => (h'.2 (Nat.lt_of_lt_of_le hc h.1)).trans (h.2 hc)⟩
  have hstep {w w' : World L S} (h : Step env may w w') : R w w' := by
    refine ⟨h.lasting.connections, fun hc => ?_⟩
    cases h.fate (c := c) with
    | same h => exact congrArg (·.socket.stream.source) h
    | new hnew hadmitted => exact absurd hnew (Nat.ne_of_lt hc)
    | used h => exact h.source hmay
  exact (h.keeps hrefl htrans hstep).2 hc

/-- Every open connection keeps its socket open. -/
theorem Story.open_sockets {t : Turn L S} {w' : World L S} (h : Story env may t w')
    (hopen : t.world.OpenSockets) : w'.OpenSockets := by
  have hstep {w w' : World L S} (h : Step env may w w') : w.OpenSockets → w'.OpenSockets := by
    intro hopen c hreason
    cases h.fate (c := c) with
    | same h =>
      rw [h] at hreason ⊢
      exact hopen c hreason
    | new hnew hadmitted =>
      obtain ⟨n, hadmitted⟩ := hadmitted hreason
      obtain ⟨direction, hconn⟩ := hadmitted.comesTo
      exact hconn.closed
    | used h => exact (h.open hreason).2.trans (hopen c (h.open hreason).1)
  exact h.keeps (R := fun w w' => w.OpenSockets → w'.OpenSockets) (fun _ h => h)
    (fun h h' hopen => h' (h hopen)) hstep hopen

/-- Nothing is written on a connection that is closed. -/
theorem Story.written_of_closed {t : Turn L S} {w' : World L S} (h : Story env may t w')
    (hclosed : (t.world.connection c).closeReason ≠ none) : w'.written c = t.world.written c := by
  let R (w w' : World L S) : Prop := (w.connection c).closeReason ≠ none →
    (w'.connection c).closeReason ≠ none ∧ w'.written c = w.written c
  have hrefl (w : World L S) : R w w := fun hclosed => ⟨hclosed, rfl⟩
  have htrans {w w' w'' : World L S} (h : R w w') (h' : R w' w'') : R w w'' := by
    intro hclosed
    obtain ⟨hclosed', hwritten⟩ := h hclosed
    obtain ⟨hclosed'', hwritten'⟩ := h' hclosed'
    exact ⟨hclosed'', hwritten'.trans hwritten⟩
  have hstep {w w' : World L S} (h : Step env may w w') : R w w' := by
    intro hclosed
    cases h.fate (c := c) with
    | same h => exact ⟨h ▸ hclosed, congrArg (·.socket.stream.sink.written) h⟩
    | new hnew hadmitted => exact absurd hnew (Nat.ne_of_lt (lt_length_of_closed hclosed))
    | used h => exact h.of_closed hclosed
  exact (h.keeps hrefl htrans hstep hclosed).2

end World
end Courier
