import Courier.Proofs.Worlds.Established

/-!
# Courier — how a connection is read

What the peer has sent on an established connection decides everything: the messages among the whole
frames are told to the listeners, in order and once; probes are answered, one by one; and where there
is no whole frame any more, the connection is closed, for a reason that depends on whether there was
nothing else or something that is not a frame.

All this holds as long as nobody else closes the connection and replies can be written.

* `Course` — what comes of some acts, one of which may be to read;
* `Established.progress`, `Established.course` — one act, and any number of them;
* `Established.comes_to_end` — the read after the last frame;
* `established_connection` — all of it, after any run.
-/

namespace Courier.World

variable {L S : Type} {env : Surroundings L S} {depth : Nat} {n : NodeRef} {c : ConnectionRef}
variable {w : World L S}

-- ---------------------------------------------------------------------------
-- One act
-- ---------------------------------------------------------------------------

/-- The reader has taken these frames, each in the world beside it, and is ahead of what is left. -/
structure Course (env : Surroundings L S) (depth : Nat) (n : NodeRef) (c : ConnectionRef)
    (taken : List (Received × World L S)) (silent : Prop) (w w' : World L S) : Prop where
  frames : w.unread c = (taken.map (·.1) ++ (w'.unread c).1, (w'.unread c).2)
  dry : (w'.source c).dry = (w.source c).dry
  delivered : ∃ deliveries, Delivered n c taken deliveries w w'
  answered : ∀ x ∈ taken, x.1.envelope.payload.isMail = false → Answered env depth n c x.1 x.2
  /-- If nobody else has written anything, the replies are all that was written. -/
  written : silent →
    w'.written c = w.written c ++ (payloads taken).flatMap (·.reply)

/-- An act that reads nothing takes no frames. -/
theorem Course.nil {silent : Prop} {w' : World L S} (hsource : w'.source c = w.source c)
    (hmax : (w'.connection c).socket.maxFrameSize = (w.connection c).socket.maxFrameSize)
    (hcalls : w'.mailCalls c = w.mailCalls c) (hdeeds : w'.mailDeeds c = w.mailDeeds c)
    (hwritten : silent → w'.written c = w.written c) : Course env depth n c [] silent w w' where
  frames := by
    rw [unread, unread, hsource, hmax]
    rfl
  dry := by rw [hsource]
  delivered := ⟨[], rfl, hcalls.trans (List.append_nil _).symm,
    hdeeds.trans (List.append_nil _).symm⟩
  answered _ hx := absurd hx List.not_mem_nil
  written hsilent := (hwritten hsilent).trans (List.append_nil _).symm

/-- One frame was taken. -/
theorem Course.single {silent : Prop} {w' : World L S} {r : Received} {frames : List Received}
    {rest : Bytes} (hbefore : w.unread c = (r :: frames, rest))
    (hafter : w'.unread c = (frames, rest)) (hdry : (w'.source c).dry = (w.source c).dry)
    (hdelivered : ∃ deliveries, Delivered n c [(r, w)] deliveries w w')
    (hanswered : r.envelope.payload.isMail = false → Answered env depth n c r w)
    (hwritten : silent → w'.written c = w.written c ++ r.envelope.payload.reply) :
    Course env depth n c [(r, w)] silent w w' where
  frames := by
    rw [hafter]
    exact hbefore
  dry := hdry
  delivered := hdelivered
  answered := List.forall_mem_singleton.mpr hanswered
  written hsilent := by
    rw [hwritten hsilent, payloads, List.map_singleton, List.flatMap_singleton]

/-- The reader goes on, on a node that keeps its id and its registry. -/
theorem Course.append {w' w'' : World L S} {taken taken' : List (Received × World L S)}
    {silent silent' : Prop} (h : Course env depth n c taken silent w w')
    (h' : Course env depth n c taken' silent' w' w'')
    (hnode : SameNode (w.node n) (w'.node n)) :
    Course env depth n c (taken ++ taken') (silent ∧ silent') w w'' where
  frames := by
    rw [h.frames, h'.frames, List.map_append, List.append_assoc]
  dry := h'.dry.trans h.dry
  delivered := by
    obtain ⟨deliveries, hmessages, hcalls, hdeeds⟩ := h.delivered
    obtain ⟨deliveries', hmessages', hcalls', hdeeds'⟩ := h'.delivered
    refine ⟨deliveries ++ deliveries', ?_, ?_, ?_⟩
    · rw [List.map_append, List.filterMap_append, hmessages, hmessages']
    · rw [hcalls', hcalls, hnode.id, List.flatMap_append, List.append_assoc]
    · rw [hdeeds', hdeeds, hnode.id, hnode.registry, List.flatMap_append, List.append_assoc]
  answered x hx := (List.mem_append.mp hx).elim (h.answered x) (h'.answered x)
  written hsilent := by
    rw [h'.written hsilent.2, h.written hsilent.1, payloads, payloads, payloads, List.map_append,
      List.flatMap_append, List.append_assoc]

/-- Whoever is called does not read from the connection. -/
def NoReader (env : Surroundings L S) (c : ConnectionRef) : Prop :=
  ∀ l e w, ∀ act ∈ env.react l e w, ∀ m, act ≠ .read m c

/-- An act that is not to read from the connection. -/
def NotReading (c : ConnectionRef) (act : Act L) (_ : World L S) : Prop := ∀ m, act ≠ .read m c

/-- To read from the connection is to read. -/
theorem not_notReading (m : NodeRef) (w : World L S) : ¬ NotReading c (.read m c) w :=
  fun h => h m rfl

/-- Listeners that do not read from it leave it to its reader. -/
theorem NoReader.faithful (h : NoReader env c) (depth : Nat) :
    Faithful env (NotReading c) (World.call env depth) :=
  call_faithful_of env (fun _ l e w => .of_forall env (fun act hact _ => h l e w act hact) w) depth

/-- An act that does not read leaves the connection alone if it leaves it open. -/
theorem LeftAlone.aside {act : Act L} (hnot : ∀ m, act ≠ .read m c)
    (hopen : ((perform env depth act w).2.connection c).closeReason = none) :
    LeftAlone env depth n c act w where
  reader m hm := absurd hm (hnot m)
  replies hact := absurd (Act.reads_iff.mp hact) (hnot n)
  others _ := hopen
  listeners hact := absurd (Act.reads_iff.mp hact) (hnot n)

/-- It is left alone when it is read from, if the reply can be written, or else nobody who is told
of the message closes it. -/
theorem LeftAlone.read {payload : Payload} (hnext : w.nextPayload c = some payload)
    (hreply : ∀ p, payload = .ping p →
      ∃ size, (Frame.write (.ofPayload (.pong ⟨p.nonce⟩)) (w.connection c).socket.maxFrameSize
        (w.connection c).socket.stream.sink).1 = .ok size)
    (hopen : payload.isMail →
      ((afterTelling env depth n c payload w).connection c).closeReason = none) :
    LeftAlone env depth n c (.read n c) w where
  reader m hm := by
    cases hm
    rfl
  replies _ p hp := hreply p (Option.some.inj (hnext.symm.trans hp))
  others hact := by
    rw [Act.reads_iff.mpr rfl] at hact
    cases hact
  listeners _ p hp := by
    obtain rfl : payload = p := Option.some.inj (hnext.symm.trans hp)
    exact hopen

/-- An act beside reading is silent if it writes nothing on the connection. -/
theorem Silent.aside {act : Act L} (hnot : act ≠ .read n c)
    (hsame : (perform env depth act w).2.written c = w.written c) :
    Silent env depth n c act w where
  others _ := hsame
  listeners hact := absurd (Act.reads_iff.mp hact) hnot

/-- To read is silent if those who are told write nothing on it. -/
theorem Silent.read {payload : Payload} (hnext : w.nextPayload c = some payload)
    (hsame : payload.isMail →
      (afterTelling env depth n c payload w).written c = (afterReceive env c w).written c) :
    Silent env depth n c (.read n c) w where
  others hact := by
    rw [Act.reads_iff.mpr rfl] at hact
    cases hact
  listeners _ p hp := by
    obtain rfl : payload = p := Option.some.inj (hnext.symm.trans hp)
    exact hsame

/-- Whatever else is done leaves the frames that are unread. -/
theorem Established.aside (h : Established n c w) (hreact : NoReader env c) {act : Act L}
    (hnot : ∀ m, act ≠ .read m c)
    (hopen : ((perform env depth act w).2.connection c).closeReason = none) :
    Established n c (perform env depth act w).2 ∧
      Course env depth n c [] (Silent env depth n c act w) w (perform env depth act w).2 := by
  have hstory : Story env (NotReading c) ⟨[], w⟩ (perform env depth act w).2 :=
    performWith_story (hreact.faithful depth) hnot
  have hsource : (perform env depth act w).2.source c = w.source c :=
    hstory.source not_notReading h.known
  obtain ⟨hcalls, hdeeds⟩ := mailMade_nil_iff.mp (hstory.mail not_notReading)
  have hact : act.reads n c = false :=
    Bool.eq_false_iff.mpr fun hread => hnot n (Act.reads_iff.mp hread)
  refine ⟨h.of_open hopen (by rw [hsource]; exact h.steady), ?_⟩
  exact .nil hsource (hstory.lasting.connection c h.known).maxFrameSize hcalls hdeeds
    fun hsilent => hsilent.others hact

/-- A frame is read that is not for listeners, and answered if need be. -/
theorem Established.control (h : Established n c w) {r : Received} {frames : List Received}
    {rest : Bytes} (hunread : w.unread c = (r :: frames, rest))
    (hkind : r.envelope.payload.isMail = false)
    (hreply : ∀ p, r.envelope.payload = .ping p →
      ∃ size, (Frame.write (.ofPayload (.pong ⟨p.nonce⟩)) (w.connection c).socket.maxFrameSize
        (w.connection c).socket.stream.sink).1 = .ok size) :
    Established n c (perform env depth (.read n c) w).2 ∧
      Course env depth n c [(r, w)] (Silent env depth n c (.read n c) w) w
        (perform env depth (.read n c) w).2 := by
  obtain ⟨hread, hreceived, hrest, hdry⟩ :=
    h.readNext_frame env (World.call env depth) hunread
  have hself := h.connection_afterReceive env
  obtain ⟨f, hf, hsame, hsource, hwritten⟩ := onPayload_control env
    (World.call env depth) hkind hreceived.listed.2.2.1 hreceived.closeReason
    (hreceived.sockets c hreceived.closeReason)
    (by rwa [hself, sink_receive, (sameLife_receive ..).maxFrameSize])
  obtain ⟨hchanged, hsent⟩ :=
    hreceived.setConnection hsame (by rw [hsource]; exact hreceived.steady)
  -- all that is different after the read is the connection
  have hperform : (perform env depth (.read n c) w).2 =
      (afterReceive env c w).setConnection c f := hread.trans hf
  have hsource' : (perform env depth (.read n c) w).2.source c =
      (afterReceive env c w).source c := by
    rw [hperform, World.source, hchanged]
    exact hsource
  have hframes : (perform env depth (.read n c) w).2.unread c = (frames, rest) := by
    rw [unread, hsource', hperform, hchanged, hsame.maxFrameSize]
    exact hrest
  have hreply : (perform env depth (.read n c) w).2.written c =
      w.written c ++ r.envelope.payload.reply := by
    rw [hperform, written, hchanged, hwritten, ← h.written_afterReceive env]
    rfl
  have hcalls : (perform env depth (.read n c) w).2.calls = w.calls := by
    rw [hperform]
    rfl
  have hhistory : (perform env depth (.read n c) w).2.history = w.history := by
    rw [hperform]
    rfl
  have hnothing : Delivered n c [(r, w)] [] w (perform env depth (.read n c) w).2 := by
    refine ⟨?_, ?_, ?_⟩
    · rw [List.filterMap_cons, mail?, hkind]
      rfl
    · rw [mailCalls, hcalls]
      exact (List.append_nil _).symm
    · rw [mailDeeds, hhistory]
      exact (List.append_nil _).symm
  exact ⟨hperform ▸ hsent, .single hunread hframes (by rw [hsource', hdry]) ⟨[], hnothing⟩
    (fun _ => ⟨hcalls, hreply⟩) fun _ => hreply⟩

/-- Messages are not answered. -/
theorem reply_of_isMail {payload : Payload} (h : payload.isMail = true) : payload.reply = [] := by
  cases payload with
  | ping p => cases h
  | _ => rfl

/-- A message is read, and told to the listeners. -/
theorem Established.mail (h : Established n c w) (hreact : NoReader env c) {r : Received}
    {frames : List Received} {rest : Bytes} (hunread : w.unread c = (r :: frames, rest))
    (hkind : r.envelope.payload.isMail = true)
    (hopen : ((afterTelling env depth n c r.envelope.payload w).connection c).closeReason = none) :
    Established n c (perform env depth (.read n c) w).2 ∧
      Course env depth n c [(r, w)] (Silent env depth n c (.read n c) w) w
        (perform env depth (.read n c) w).2 := by
  obtain ⟨hread, hreceived, hrest, hdry⟩ :=
    h.readNext_frame env (World.call env depth) hunread
  have hperform : (perform env depth (.read n c) w).2 =
      afterTelling env depth n c r.envelope.payload w := by
    refine hread.trans ?_
    generalize r.envelope.payload = payload at hkind
    cases payload with
    | confidential m => rfl
    | application m => rfl
    | _ => cases hkind
  have hstory : Story env (NotReading c) (Turn.tell n _ ⟨[], afterReceive env c w⟩)
      (afterTelling env depth n c r.envelope.payload w) :=
    raise_story (hreact.faithful depth) n _ _
  rw [← hperform] at hstory hopen
  -- nobody who is told of the message reads on
  have hsource : (perform env depth (.read n c) w).2.source c =
      (afterReceive env c w).source c := hstory.source not_notReading hreceived.known
  have hframes : (perform env depth (.read n c) w).2.unread c = (frames, rest) := by
    rw [unread, hsource, (hstory.lasting.connection c hreceived.known).maxFrameSize]
    exact hrest
  obtain ⟨d, hpayload, hlisteners, hcalls, hdeeds⟩ :=
    (hstory.mail not_notReading).delivery r.envelope.payload (decide_eq_true rfl)
  have hdelivered : Delivered n c [(r, w)] [d] w (perform env depth (.read n c) w).2 := by
    refine ⟨?_, ?_, ?_⟩
    · rw [List.filterMap_cons, mail?, hkind, ← hpayload]
      exact congrArg (fun listeners => [(d.payload, listeners)]) hlisteners
    · rw [List.flatMap_singleton, hpayload]
      exact hcalls
    · rw [List.flatMap_singleton, hpayload]
      exact hdeeds
  refine ⟨h.of_open hopen (by rw [hsource]; exact hreceived.steady),
    .single hunread hframes (by rw [hsource, hdry]) ⟨[d], hdelivered⟩ (fun hcontrol => ?_)
      fun hsilent => ?_⟩
  · rw [hkind] at hcontrol
    cases hcontrol
  · have hnext : w.nextPayload c = some r.envelope.payload := by
      rw [nextPayload, hunread]
      rfl
    rw [hperform, hsilent.listeners (Act.reads_iff.mpr rfl) _ hnext hkind,
      h.written_afterReceive env, reply_of_isMail hkind, List.append_nil]

/-- **Each act takes the reader a frame further, or leaves it where it is.** -/
theorem Established.progress (h : Established n c w) (hreact : NoReader env c) {act : Act L}
    (hlet : LeftAlone env depth n c act w) (hmore : act.reads n c → (w.unread c).1 ≠ []) :
    Established n c (perform env depth act w).2 ∧
      ∃ taken, taken.map (·.2) = (if act.reads n c then [w] else []) ∧
        Course env depth n c taken (Silent env depth n c act w) w (perform env depth act w).2 := by
  cases hact : act.reads n c with
  | false =>
    have hnot (m : NodeRef) : act ≠ .read m c := by
      intro hm
      obtain rfl := hlet.reader m hm
      rw [hm, Act.reads_iff.mpr rfl] at hact
      cases hact
    obtain ⟨hlive, hcourse⟩ := h.aside hreact hnot (hlet.others hact)
    exact ⟨hlive, [], rfl, hcourse⟩
  | true =>
    obtain ⟨r, frames, hframes⟩ := List.exists_cons_of_ne_nil (hmore hact)
    have hunread : w.unread c = (r :: frames, (w.unread c).2) := Prod.ext hframes rfl
    have hnext : w.nextPayload c = some r.envelope.payload := by
      rw [nextPayload, hunread]
      rfl
    have hreads := hact
    obtain rfl := Act.reads_iff.mp hreads
    cases hkind : r.envelope.payload.isMail with
    | false =>
      obtain ⟨hlive, hcourse⟩ :=
        h.control hunread hkind fun p hp => hlet.replies hact p (hp ▸ hnext)
      exact ⟨hlive, [(r, w)], rfl, hcourse⟩
    | true =>
      obtain ⟨hlive, hcourse⟩ :=
        h.mail hreact hunread hkind (hlet.listeners hact _ hnext hkind)
      exact ⟨hlive, [(r, w)], rfl, hcourse⟩

-- ---------------------------------------------------------------------------
-- A run
-- ---------------------------------------------------------------------------

/-- **The reader comes through the frames one by one**, whatever is done in between: every message
is delivered, everything else is answered, and nothing is left out. -/
theorem Established.course (hreact : NoReader env c) {acts : List (Act L)} {w : World L S}
    (h : Established n c w) (hlet : Within env (LeftAlone env depth n c) depth acts w)
    (hmore : (readings env depth n c acts w).length ≤ (w.unread c).1.length) :
    Established n c (run env depth acts w).2 ∧
      ∃ taken, taken.map (·.2) = readings env depth n c acts w ∧
        Course env depth n c taken (Within env (Silent env depth n c) depth acts w) w
          (run env depth acts w).2 := by
  induction acts generalizing w with
  | nil => exact ⟨h, [], rfl, .nil rfl rfl rfl rfl fun _ => rfl⟩
  | cons act acts ih =>
    have hstory : Story env (fun _ _ => True) ⟨[], w⟩ (perform env depth act w).2 :=
      performWith_story (call_faithful env depth) trivial
    have hnode : SameNode (w.node n) ((perform env depth act w).2.node n) :=
      hstory.lasting.node n h.listed.2.1
    rw [readings, List.length_append] at hmore
    obtain ⟨hlive, taken, hworlds, hcourse⟩ := h.progress hreact hlet.1 fun hact hnil => by
      rw [if_pos hact, hnil, List.length_singleton, List.length_nil] at hmore
      omega
    -- what is left is enough for the reads to come
    have hless : (readings env depth n c acts (perform env depth act w).2).length ≤
        ((perform env depth act w).2.unread c).1.length := by
      rw [hcourse.frames, ← hworlds, List.length_append, List.length_map, List.length_map] at hmore
      omega
    obtain ⟨hend, taken', hworlds', hcourse'⟩ := ih hlive hlet.2 hless
    rw [run_cons]
    refine ⟨hend, taken ++ taken', ?_, hcourse.append hcourse' hnode⟩
    rw [List.map_append, hworlds, hworlds', readings]

-- ---------------------------------------------------------------------------
-- What was heard
-- ---------------------------------------------------------------------------

/-- The messages that were delivered are those among the frames, in order. -/
theorem Delivered.payloads {w' : World L S} {taken : List (Received × World L S)}
    {deliveries : List (Delivery L)} (h : Delivered n c taken deliveries w w') :
    deliveries.map (·.payload) = (World.payloads taken).filter (·.isMail) := by
  have hmail : deliveries.map (·.payload) = (taken.filterMap (mail? n)).map (·.1) := by
    rw [← h.messages, List.map_map]
    rfl
  rw [hmail, List.map_filterMap, World.payloads, ← List.filterMap_eq_filter, List.filterMap_map]
  refine List.filterMap_congr fun x _ => ?_
  unfold mail?
  cases hkind : x.1.envelope.payload.isMail <;> simp [hkind, Option.guard]

/-- Each listener has heard every message as often as it was among those who were called for it,
and the messages in order. -/
theorem Delivered.heardOn [DecidableEq L] {w' : World L S} {taken : List (Received × World L S)}
    {deliveries : List (Delivery L)} (h : Delivered n c taken deliveries w w') (l : L) :
    w'.heardOn c l = w.heardOn c l ++
      deliveries.flatMap fun d => List.replicate (d.hearers.count l) d.payload := by
  have hblock (hearers : List L) (p : Payload) (id : String) :
      (hearers.map fun l' => (⟨l', .message p c id⟩ : Call L)).filterMap
          (fun call => if call.listener = l then call.event.payload? else none) =
        List.replicate (hearers.count l) p := by
    induction hearers with
    | nil => rfl
    | cons l' hearers ih =>
      rw [List.map_cons, List.filterMap_cons, ih]
      by_cases hl : l' = l
      · subst hl
        rw [List.count_cons_self, List.replicate_succ]
        simp [Event.payload?]
      · rw [List.count_cons_of_ne hl]
        simp [hl]
  rw [World.heardOn, h.calls, List.filterMap_append, List.filterMap_flatMap]
  simp only [Delivery.calls, hblock]
  rfl

/-- A message was told to those who listened to the node in one of the worlds in which it read. -/
theorem Delivered.listeners {w' : World L S} {taken : List (Received × World L S)}
    {deliveries : List (Delivery L)} (h : Delivered n c taken deliveries w w') {d : Delivery L}
    (hd : d ∈ deliveries) :
    ∃ u ∈ taken.map (·.2), d.listeners = (u.node n).listeners.snapshot := by
  have hmem : (d.payload, d.listeners) ∈ taken.filterMap (mail? n) :=
    h.messages ▸ List.mem_map_of_mem hd
  obtain ⟨⟨r, u⟩, htaken, hmail⟩ := List.mem_filterMap.mp hmem
  refine ⟨u, List.mem_map_of_mem htaken, ?_⟩
  by_cases hkind : r.envelope.payload.isMail = true
  · rw [mail?, if_pos hkind] at hmail
    exact (congrArg Prod.snd (Option.some.inj hmail)).symm
  · rw [mail?, if_neg hkind] at hmail
    cases hmail

/-- A listener that listened to the node once whenever it read, and to whom the registry passed
nothing on, has heard all the messages, in order and once. -/
theorem Delivered.heardOn_of_once [DecidableEq L] {w' : World L S}
    {taken : List (Received × World L S)} {deliveries : List (Delivery L)}
    (h : Delivered n c taken deliveries w w') {l : L}
    (hlistens : ∀ u ∈ taken.map (·.2), (u.node n).listeners.snapshot.count (.own l) = 1)
    (hrelayed : ∀ d ∈ deliveries, l ∉ d.relayed) :
    w'.heardOn c l = w.heardOn c l ++ (World.payloads taken).filter (·.isMail) := by
  have hcount : ∀ d ∈ deliveries, d.hearers.count l = 1 := by
    intro d hd
    obtain ⟨u, hu, hlisteners⟩ := h.listeners hd
    rw [d.count_hearers l, hlisteners, hlistens u hu, List.count_eq_zero.mpr (hrelayed d hd)]
  have honce : (deliveries.flatMap fun d => List.replicate (d.hearers.count l) d.payload) =
      deliveries.map (·.payload) := by
    rw [← List.flatMap_singleton' (deliveries.map (·.payload)), List.flatMap_map]
    exact List.flatMap_congr fun d hd => by rw [hcount d hd]; rfl
  rw [h.heardOn l, honce, h.payloads]

-- ---------------------------------------------------------------------------
-- The end
-- ---------------------------------------------------------------------------

/-- Nothing is read from a connection that is closed. -/
theorem readNext_of_closed (call : L → Event → World L S → World L S)
    (h : (w.connection c).closeReason ≠ none) (m : NodeRef) : readNext env call m c w = w := by
  have hclosed : (w.connection c).isClosed = true := Option.isSome_iff_ne_none.mpr h
  unfold readNext
  dsimp only
  rw [hclosed]
  rfl

/-- Nothing is told and nothing is written after the end, whatever is done. -/
theorem run_of_closed (hreact : NoReader env c) (depth : Nat) (acts : List (Act L)) {w : World L S}
    (hclosed : (w.connection c).closeReason ≠ none) :
    (run env depth acts w).2.mailCalls c = w.mailCalls c ∧
      (run env depth acts w).2.written c = w.written c := by
  induction acts generalizing w with
  | nil => exact ⟨rfl, rfl⟩
  | cons act acts ih =>
    rw [run_cons]
    dsimp only
    by_cases hread : ∃ m, act = .read m c
    · obtain ⟨m, rfl⟩ := hread
      have hperform : (perform env depth (.read m c) w).2 = w :=
        readNext_of_closed (World.call env depth) hclosed m
      rw [hperform]
      exact ih hclosed
    · have hstory : Story env (NotReading c) ⟨[], w⟩ (perform env depth act w).2 :=
        performWith_story (hreact.faithful depth) fun m hm => hread ⟨m, hm⟩
      obtain ⟨reason, hreason⟩ := Option.ne_none_iff_exists'.mp hclosed
      have hstays : ((perform env depth act w).2.connection c).closeReason = some reason :=
        (hstory.moves []).stays_closed hreason
      obtain ⟨hcalls, hwritten⟩ := ih (w := (perform env depth act w).2) (by rw [hstays]; simp)
      exact ⟨hcalls.trans (mailMade_nil_iff.mp (hstory.mail not_notReading)).1,
        hwritten.trans (hstory.written_of_closed hclosed)⟩

/-- A node that closes a connection of its own for the first time tells of the end of it, for the
reason that it has. -/
theorem Established.close (h : Established n c w) (call : L → Event → World L S → World L S)
    (reason : CloseReason) :
    closeConnection call n c reason w =
        raise call n (.disconnected c reason) (w.takeOut n c reason).2 ∧
      ((w.takeOut n c reason).2.connection c).closeReason = some reason ∧
      (w.takeOut n c reason).2.written c = w.written c ∧
      (Turn.tell n (.disconnected c reason) ⟨[], (w.takeOut n c reason).2⟩).world.life c =
        [.began n, .closed n reason, .ended n reason] := by
  obtain ⟨hlife, hn, howns, htable⟩ := h.listed
  have hthere : (w.takeOut n c reason).1 = true := (fst_takeOut ..).trans htable
  have htaken : (w.takeOut n c reason).2.connection c =
      ((w.connection c).markClosed reason).2 := by
    rw [connection_takeOut n c reason c h.known, if_pos rfl]
  have hreason : ((w.takeOut n c reason).2.connection c).closeReason = some reason := by
    rw [htaken, closeReason_markClosed, h.closeReason]
    rfl
  refine ⟨?_, hreason, ?_, ?_⟩
  · unfold closeConnection
    rw [howns]
    dsimp only
    rw [hthere, hreason]
    rfl
  · rw [written, htaken, stream_markClosed]
    rfl
  · unfold Turn.tell
    rw [life_record, life_takeOut, hlife, if_pos rfl]
    simp [Deed.moment?]

/-- **The reader comes to the end** when no more can be read. What is left decides why. -/
theorem Established.comes_to_end (h : Established n c w) (hreact : NoReader env c)
    (hnone : NoMore c w) (more : List (Act L)) :
    let reason := if (w.unread c).2 = [] then .closedByPeer else .readError
    let w' := (run env depth (.read n c :: more) w).2
    Ended env n c reason w' ∧ w'.mailCalls c = w.mailCalls c ∧ w'.written c = w.written c := by
  intro reason w'
  obtain ⟨hend, hreceived⟩ := h.readNext_end env (World.call env depth) hnone
  let v := afterReceive env c w
  let u := (perform env depth (.read n c) w).2
  have hw' : w' = (run env depth more u).2 := by
    show (run env depth (.read n c :: more) w).2 = _
    rw [run_cons]
  have hread : u = closeConnection (World.call env depth) n c reason v := hend
  obtain ⟨hclose, hreason, hstays, hlife⟩ := hreceived.close (World.call env depth) reason
  have htelling : Story env (NotReading c) (Turn.tell n (.disconnected c reason)
      ⟨[], (v.takeOut n c reason).2⟩) u := by
    rw [hread, hclose]
    exact raise_story (hreact.faithful depth) n _ _
  have hclosed : (u.connection c).closeReason = some reason :=
    (htelling.moves []).stays_closed hreason
  obtain ⟨hcalls, hwritten⟩ := run_of_closed hreact depth more
    (hclosed ▸ Option.some_ne_none reason : (u.connection c).closeReason ≠ none)
  refine ⟨?_, ?_, ?_⟩
  · -- what the reader has put on record stays there
    have hlater : Later
        (Turn.tell n (.disconnected c reason) ⟨[], (v.takeOut n c reason).2⟩).world w' := by
      rw [hw']
      exact htelling.later.trans (run_runs env depth more u []).later
    have hsettled : Settled w' := h.settled.run env depth (.read n c :: more)
    have hclosings : (Turn.tell n (.disconnected c reason)
        ⟨[], (v.takeOut n c reason).2⟩).world.life c =
          .began n :: .closed n reason :: .ended n reason :: closings [] := hlife
    obtain ⟨after, hafter⟩ := life_later hsettled.sound hlater hclosings
    exact hsettled.ended hafter
  · have hstory : Story env (NotReading c) ⟨[], v⟩ u := by
      rw [hread]
      exact closeConnection_story (hreact.faithful depth) n c reason v
    rw [hw', hcalls]
    exact (mailMade_nil_iff.mp (hstory.mail not_notReading)).1
  · have hover : ((v.takeOut n c reason).2.connection c).closeReason ≠ none :=
      hreason ▸ Option.some_ne_none reason
    rw [hw', hwritten, htelling.written_of_closed hover]
    exact hstays.trans (h.written_afterReceive env)

/-- No socket is closed before its connection, from the start on. -/
theorem OpenSockets.run (env : Surroundings L S) (depth : Nat) (acts : List (Act L))
    (registries : List (Registry L)) (outside : S) :
    (run env depth acts { start outside with registries }).2.OpenSockets :=
  (run_story_free env depth acts _).open_sockets fun _ _ => rfl

/-- **How an established connection is read.** After any run, let a connection be open that a node
has taken up, with whatever its peer sends. Let any acts follow that leave it alone, apart from
reads of the node, of which there are no more than whole frames. Then the frames that were read are
the first ones of the stream. What the listeners have heard on the connection since are the messages
among these, in order, each told to those who listened to the node when it was read, and so a
listener of the node hears all of them, once. The rest is answered, each probe by the frame that
belongs to it, without anyone being called. When all whole frames were read, and the stream has
ended or goes on with a frame that is refused, the next read closes the connection: the peer has
closed it if nothing is left, and else what is left cannot be read. Its end is announced once, and
nothing is heard or written on it any more, whatever is done. -/
theorem established_connection [DecidableEq L] (env : Surroundings L S) (depth : Nat)
    (before : List (Act L)) (registries : List (Registry L)) (outside : S) :
    let w := (run env depth before { start outside with registries }).2
    ∀ n c acts, .began n ∈ w.life c → (w.connection c).closeReason = none →
      (w.source c).Steady → NoReader env c → Within env (LeftAlone env depth n c) depth acts w →
      (readings env depth n c acts w).length ≤ (w.unread c).1.length →
      let w' := (run env depth acts w).2
      ∃ (taken : List (Received × World L S)) (deliveries : List (Delivery L)),
        taken.map (·.2) = readings env depth n c acts w ∧
        w.unread c = (taken.map (·.1) ++ (w'.unread c).1, (w'.unread c).2) ∧
        (w'.source c).dry = (w.source c).dry ∧ Delivered n c taken deliveries w w' ∧
        (∀ l, w'.heardOn c l = w.heardOn c l ++
          deliveries.flatMap fun d => List.replicate (d.hearers.count l) d.payload) ∧
        (∀ l, (∀ u ∈ readings env depth n c acts w,
            (u.node n).listeners.snapshot.count (.own l) = 1) →
          (∀ d ∈ deliveries, l ∉ d.relayed) →
          w'.heardOn c l = w.heardOn c l ++ (payloads taken).filter (·.isMail)) ∧
        (∀ x ∈ taken, x.1.envelope.payload.isMail = false → Answered env depth n c x.1 x.2) ∧
        (Within env (Silent env depth n c) depth acts w →
          w'.written c = w.written c ++ (payloads taken).flatMap (·.reply)) ∧
        (w'.connection c).closeReason = none ∧
        (NoMore c w' → ∀ more,
          let reason := if (w'.unread c).2 = [] then .closedByPeer else .readError
          let w'' := (run env depth (.read n c :: more) w').2
          Ended env n c reason w'' ∧ w''.mailCalls c = w'.mailCalls c ∧
            w''.written c = w'.written c) := by
  intro w n c acts hbegan hopen hsteady hreact hlet hmore w'
  have h : Established n c w := {
    settled := (Settled.start registries outside).run env depth before
    sockets := .run env depth before registries outside
    began := hbegan
    closeReason := hopen
    steady := hsteady }
  obtain ⟨hend, taken, hworlds, hcourse⟩ := h.course hreact hlet hmore
  obtain ⟨deliveries, hdelivered⟩ := hcourse.delivered
  exact ⟨taken, deliveries, hworlds, hcourse.frames, hcourse.dry, hdelivered, hdelivered.heardOn,
    fun l hl => hdelivered.heardOn_of_once (hworlds ▸ hl), hcourse.answered, hcourse.written,
    hend.closeReason,
    fun hnone more => hend.comes_to_end hreact hnone more⟩

/-- A message and a probe, in short pieces, and then the beginning of a frame. -/
theorem established_connection_sample :
    let frame (p : Payload) : Bytes := Frame.ofEnvelope (.ofPayload p)
    let hello : Payload := .handshake ⟨"b", none, protocolVersion⟩
    let message : Payload := .application (.direct "1" "t" [7])
    let peer : StreamEnd := ⟨0, ⟨frame hello ++ frame message ++ frame (.ping ⟨5⟩) ++ [0, 0],
      [.atMost 3, .atMost 1, .atMost 16, .atMost 2, .fails (.ofKind .interrupted)], .ended⟩,
      .unlimited⟩
    let env : Surroundings Bool Unit := .plain (fun l e _ => match l, e with
      | true, .message .. => [.listenToRegistry ⟨0⟩ true]
      | _, _ => []) peer
    let before : List (Act Bool) :=
      [.start ⟨0⟩ "a" 0, .listen ⟨0⟩ true, .connectNode ⟨0⟩ (.localhost 7002)]
    let w := (run env 2 before { start () with registries := [.fresh .default .clearNet] }).2
    let w' := (run env 2 [.read ⟨0⟩ ⟨0⟩, .listen ⟨0⟩ false, .read ⟨0⟩ ⟨0⟩] w).2
    w'.heardOn ⟨0⟩ true = [message] ∧ w'.written ⟨0⟩ = w.written ⟨0⟩ ++ frame (.pong ⟨5⟩) ∧
      Ended env ⟨0⟩ ⟨0⟩ .readError (run env 2 [.read ⟨0⟩ ⟨0⟩] w').2 := by
  intro frame hello message peer env before w w'
  have hprotocol := established_connection env 2 before [.fresh .default .clearNet] ()
  generalize hrun : (run env 2 before
    { start () with registries := [.fresh .default .clearNet] }).2 = v at hprotocol
  obtain rfl : w = v := hrun
  have hlife : w.life ⟨0⟩ = [.began ⟨0⟩] := by decide +kernel
  have hsteady : (w.source ⟨0⟩).Steady := by
    have hplan : (w.source ⟨0⟩).plan = [.atMost 2, .fails (.ofKind .interrupted)] := by
      decide +kernel
    intro step hstep
    rw [hplan] at hstep
    simp only [List.mem_cons, List.not_mem_nil, or_false] at hstep
    rcases hstep with rfl | rfl <;> simp [ReadStep.IsSteady, IoFailure.ofKind]
  have hreact : NoReader env ⟨0⟩ := by
    intro l e u act hact m
    cases l <;> cases e <;> simp [env, Surroundings.plain] at hact
    rw [hact]
    intro h
    cases h
  let u := (perform env 2 (.listen ⟨0⟩ false) (perform env 2 (.read ⟨0⟩ ⟨0⟩) w).2).2
  have hfirst : w.nextPayload ⟨0⟩ = some message := by decide +kernel
  have hsecond : u.nextPayload ⟨0⟩ = some (.ping ⟨5⟩) := by decide +kernel
  have hlet : Within env (LeftAlone env 2 ⟨0⟩ ⟨0⟩) 2
      [.read ⟨0⟩ ⟨0⟩, .listen ⟨0⟩ false, .read ⟨0⟩ ⟨0⟩] w := by
    refine ⟨.read hfirst (fun _ h => by simp [message] at h) fun _ => ?_,
      .aside (fun _ h => by cases h) ?_, .read hsecond (fun p h => ?_) (fun h => by cases h),
      trivial⟩
    · decide +kernel
    · decide +kernel
    · cases h
      exact ⟨13, by decide +kernel⟩
  have hsilent : Within env (Silent env 2 ⟨0⟩ ⟨0⟩) 2
      [.read ⟨0⟩ ⟨0⟩, .listen ⟨0⟩ false, .read ⟨0⟩ ⟨0⟩] w := by
    refine ⟨.read hfirst fun _ => ?_, .aside (fun h => by cases h) ?_,
      .read hsecond (fun h => by cases h), trivial⟩
    · decide +kernel
    · decide +kernel
  obtain ⟨taken, deliveries, hworlds, hframes, hdry, hdelivered, -, honce, -, hwritten, -, hend⟩ :=
    hprotocol ⟨0⟩ ⟨0⟩ _ (hlife ▸ List.mem_cons_self ..) (by decide +kernel) hsteady hreact hlet
      (by decide +kernel)
  have hnone : (w'.unread ⟨0⟩).1 = [] := by decide +kernel
  have hrest : (w'.unread ⟨0⟩).2 = [0, 0] := by decide +kernel
  have hpayloads : payloads taken = [message, .ping ⟨5⟩] := by
    have htaken : (w.unread ⟨0⟩).1 = taken.map (·.1) := by
      rw [hframes]
      exact (congrArg (taken.map (·.1) ++ ·) hnone).trans (List.append_nil _)
    have hunread : (w.unread ⟨0⟩).1.map (·.envelope.payload) = [message, .ping ⟨5⟩] := by
      decide +kernel
    rw [htaken, List.map_map] at hunread
    exact hunread
  -- one message was told, and one listener was called for it
  have hmessage : deliveries.map (·.payload) = [message] := by
    rw [hdelivered.payloads, hpayloads]
    rfl
  obtain ⟨d, rfl, hd⟩ := List.map_eq_singleton_iff.mp hmessage
  have hlistens : ∀ u ∈ readings env 2 ⟨0⟩ ⟨0⟩ [.read ⟨0⟩ ⟨0⟩, .listen ⟨0⟩ false, .read ⟨0⟩ ⟨0⟩] w,
      (u.node ⟨0⟩).listeners.snapshot.count (.own true) = 1 := by
    decide +kernel
  have hcalled : d.hearers.count true = 1 := by
    have hcalls : d.hearers = (w'.mailCalls ⟨0⟩).map (·.listener) := by
      rw [hdelivered.calls, show w.mailCalls ⟨0⟩ = [] by decide +kernel, List.flatMap_singleton,
        Delivery.calls, List.nil_append, List.map_map]
      exact (List.map_id _).symm
    rw [hcalls]
    decide +kernel
  have hrelayed : true ∉ d.relayed := by
    obtain ⟨u, hu, hlisteners⟩ := hdelivered.listeners (List.mem_singleton_self d)
    have hcount := d.count_hearers true
    rw [hcalled, hlisteners, hlistens u (hworlds ▸ hu)] at hcount
    exact List.count_eq_zero.mp (by omega)
  refine ⟨?_, ?_, ?_⟩
  · have hheard := honce true hlistens (List.forall_mem_singleton.mpr hrelayed)
    rw [hpayloads] at hheard
    exact hheard.trans (by decide +kernel)
  · have hreplies := hwritten hsilent
    rw [hpayloads] at hreplies
    exact hreplies
  · have hended := (hend ⟨hnone, .inl (hdry.trans (by decide +kernel))⟩ []).1
    rwa [if_neg (by rw [hrest]; exact List.cons_ne_nil _ _)] at hended

end Courier.World
