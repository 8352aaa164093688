import Courier.Proofs.Json.Records

/-!
# Courier — settings over their defaults

A configuration text is an object that gives some settings; all others keep their defaults. Its
members may stand in any order, with any blanks and with any number of others among them, whose values
may be of any kind. A setting that is given twice is refused, and so is one whose value is no whole
number of 64 bits: a number with a sign, a fraction or an exponent is none, even if it equals one.

A record may also be given by a list of its first fields. Together with the objects these are all
texts that are accepted.

* `NodeGiven`, `RegistryGiven` — the settings that a text gives, and what they make of others
  (`overlay`);
* `InObject`, `InList`, `WrittenAs` — when a value gives them;
* `NodeSettings.reads`, `RegistrySettings.reads` — what is read is what was given, over the defaults;
* `RegistrySettings.given_over_defaults` — **the configuration overlay**, on whole texts.
-/

namespace Courier

open Json

/-- How a whole number is written. -/
def number (n : UInt64) : List Char := digits n.toNat

-- ---------------------------------------------------------------------------
-- What a text gives
-- ---------------------------------------------------------------------------

/-- The settings of a node as far as they are given. -/
structure NodeGiven where
  connectTimeoutMs : Option UInt64
  idleTimeoutMs : Option UInt64
  handshakeTimeoutMs : Option UInt64
  maxFrameSize : Option UInt64

/-- The settings of a registry as far as they are given. -/
structure RegistryGiven where
  shutdownTimeoutMs : Option UInt64
  node : Option NodeGiven

namespace NodeGiven

/-- What is given takes the place of what was set. -/
def overlay (given : NodeGiven) (s : NodeSettings) : NodeSettings where
  connectTimeoutMs := given.connectTimeoutMs.getD s.connectTimeoutMs
  idleTimeoutMs := given.idleTimeoutMs.getD s.idleTimeoutMs
  handshakeTimeoutMs := given.handshakeTimeoutMs.getD s.handshakeTimeoutMs
  maxFrameSize := given.maxFrameSize.getD s.maxFrameSize

/-- These members give a setting each by the only member of its name, and no others. -/
structure InObject (given : NodeGiven) (ms : List (String × List Char)) : Prop where
  connectTimeoutMs :
    valuesOf "connect_timeout_ms" ms = given.connectTimeoutMs.toList.map number
  idleTimeoutMs : valuesOf "io_timeout_ms" ms = given.idleTimeoutMs.toList.map number
  handshakeTimeoutMs :
    valuesOf "handshake_timeout_ms" ms = given.handshakeTimeoutMs.toList.map number
  maxFrameSize : valuesOf "max_frame_size" ms = given.maxFrameSize.toList.map number

/-- These elements give the first settings, as many as they are. -/
structure InList (given : NodeGiven) (vs : List (List Char)) : Prop where
  connectTimeoutMs : vs[0]? = given.connectTimeoutMs.map number
  idleTimeoutMs : vs[1]? = given.idleTimeoutMs.map number
  handshakeTimeoutMs : vs[2]? = given.handshakeTimeoutMs.map number
  maxFrameSize : vs[3]? = given.maxFrameSize.map number
  noMore : vs[4]? = none

/-- The value gives these settings and no others, by an object or by a list. -/
def WrittenAs (given : NodeGiven) : List Char → Prop := GivenBy given.InObject given.InList

end NodeGiven

namespace RegistryGiven

/-- The settings of the node are overlaid in the same way. -/
def overlay (given : RegistryGiven) (s : RegistrySettings) : RegistrySettings where
  shutdownTimeoutMs := given.shutdownTimeoutMs.getD s.shutdownTimeoutMs
  node := (given.node.map fun node => node.overlay s.node).getD s.node

structure InObject (given : RegistryGiven) (ms : List (String × List Char)) : Prop where
  shutdownTimeoutMs :
    valuesOf "shutdown_timeout_ms" ms = given.shutdownTimeoutMs.toList.map number
  node : List.Forall₂ (fun v node => node.WrittenAs v) (valuesOf "node" ms) given.node.toList

structure InList (given : RegistryGiven) (vs : List (List Char)) : Prop where
  shutdownTimeoutMs : vs[0]? = given.shutdownTimeoutMs.map number
  node : List.Forall₂ (fun v node => node.WrittenAs v) vs[1]?.toList given.node.toList
  noMore : vs[2]? = none

/-- The value gives these settings and no others, by an object or by a list. -/
def WrittenAs (given : RegistryGiven) : List Char → Prop := GivenBy given.InObject given.InList

end RegistryGiven

-- ---------------------------------------------------------------------------
-- What is read is what was given
-- ---------------------------------------------------------------------------

/-- Values are the numbers that were given if they are written so. -/
theorem forall₂_number {vs : List (List Char)} {ns : List UInt64} :
    List.Forall₂ (fun v n => v = digits n.toNat) vs ns ↔ vs = ns.map number := by
  have hmap := List.forall₂_map_right_iff (R := Eq) (l := vs) (f := number) (u := ns)
  rw [List.forall₂_eq_eq_eq] at hmap
  exact hmap.symm

theorem toList_eq_number {v? : Option (List Char)} {n? : Option UInt64} :
    v?.toList = n?.toList.map number ↔ v? = n?.map number := by
  cases v? <;> cases n? <;> simp

/-- The settings of a node are read as the defaults under what is given. -/
theorem NodeSettings.reads : Reads NodeSettings.schema.read fun v s =>
    ∃ given : NodeGiven, given.WrittenAs v ∧ given.overlay .default = s := by
  refine Reads.congr (Reads.record
    (.cons "connect_timeout_ms" default.connectTimeoutMs (.word64 "u64")
      (.cons "io_timeout_ms" default.idleTimeoutMs (.word64 "u64")
        (.cons "handshake_timeout_ms" default.handshakeTimeoutMs (.word64 "u64")
          (.cons "max_frame_size" default.maxFrameSize (.word64 "usize") .nil
            (by decide)) (by decide)) (by decide)) (by decide)) _ _) fun v s => ?_
  constructor
  · rintro ⟨given, hgiven, hcomplete⟩
    refine ⟨⟨given.1, given.2.1, given.2.2.1, given.2.2.2.1⟩, ?_, ?_⟩
    · cases hgiven with
      | object hms h =>
        obtain ⟨hconnect, hidle, hhandshake, hframe, -⟩ := h
        exact .object hms ⟨forall₂_number.mp hconnect, forall₂_number.mp hidle,
          forall₂_number.mp hhandshake, forall₂_number.mp hframe⟩
      | list hvs h =>
        simp only [forall₂_number, toList_eq_number, ← List.head?_eq_none_iff,
          List.head?_eq_getElem?, List.getElem?_tail] at h
        obtain ⟨hconnect, hidle, hhandshake, hframe, hno⟩ := h
        exact .list hvs ⟨hconnect, hidle, hhandshake, hframe, hno⟩
    · obtain ⟨hconnect, hcomplete⟩ := (Fields.complete_withDefault ..).mp hcomplete
      obtain ⟨hidle, hcomplete⟩ := (Fields.complete_withDefault ..).mp hcomplete
      obtain ⟨hhandshake, hcomplete⟩ := (Fields.complete_withDefault ..).mp hcomplete
      obtain ⟨hframe, -⟩ := (Fields.complete_withDefault ..).mp hcomplete
      rw [NodeGiven.overlay, hconnect, hidle, hhandshake, hframe]
  · rintro ⟨given, hwritten, rfl⟩
    refine ⟨(given.connectTimeoutMs, given.idleTimeoutMs, given.handshakeTimeoutMs,
      given.maxFrameSize, ()), ?_, ?_⟩
    · cases hwritten with
      | object hms h =>
        exact .object hms ⟨forall₂_number.mpr h.connectTimeoutMs,
          forall₂_number.mpr h.idleTimeoutMs, forall₂_number.mpr h.handshakeTimeoutMs,
          forall₂_number.mpr h.maxFrameSize, trivial⟩
      | list hvs h =>
        refine .list hvs ?_
        simp only [forall₂_number, toList_eq_number, ← List.head?_eq_none_iff,
          List.head?_eq_getElem?, List.getElem?_tail]
        exact ⟨h.connectTimeoutMs, h.idleTimeoutMs, h.handshakeTimeoutMs, h.maxFrameSize, h.noMore⟩
    · iterate 4 refine (Fields.complete_withDefault ..).mpr ⟨rfl, ?_⟩
      rfl

/-- What is given in some way is what is made of something that is given. -/
theorem forall₂_made {α β γ : Type} {r : α → β → Prop} {f : β → γ} {vs : List α} {c? : Option γ} :
    List.Forall₂ (fun v c => ∃ b, r v b ∧ f b = c) vs c?.toList ↔
      ∃ b? : Option β, List.Forall₂ r vs b?.toList ∧ b?.map f = c? := by
  constructor
  · intro h
    cases c? with
    | none => exact ⟨none, by simpa using h, rfl⟩
    | some c =>
      cases h with
      | cons hc hnil =>
        obtain ⟨b, hb, rfl⟩ := hc
        obtain rfl := List.forall₂_nil_right_iff.mp hnil
        exact ⟨some b, .cons hb .nil, rfl⟩
  · rintro ⟨b?, h, rfl⟩
    cases b? with
    | none => simpa using h
    | some b =>
      cases h with
      | cons hb hnil =>
        obtain rfl := List.forall₂_nil_right_iff.mp hnil
        exact .cons ⟨b, hb, rfl⟩ .nil

/-- The settings of a registry are read likewise, with those of its nodes inside. -/
theorem RegistrySettings.reads : Reads RegistrySettings.schema.read fun v s =>
    ∃ given : RegistryGiven, given.WrittenAs v ∧ given.overlay .default = s := by
  refine Reads.congr (Reads.record
    (.cons "shutdown_timeout_ms" default.shutdownTimeoutMs (.word64 "u64")
      (.cons "node" default.node NodeSettings.reads .nil (by decide)) (by decide)) _ _)
    fun v s => ?_
  constructor
  · rintro ⟨given, hgiven, hcomplete⟩
    obtain ⟨hshutdown, hcomplete⟩ := (Fields.complete_withDefault ..).mp hcomplete
    obtain ⟨hnode, -⟩ := (Fields.complete_withDefault ..).mp hcomplete
    have hover {node? : Option NodeGiven}
        (h : node?.map (fun node => node.overlay .default) = given.2.1) :
        (⟨given.1, node?⟩ : RegistryGiven).overlay .default = s := by
      rw [RegistryGiven.overlay, hshutdown]
      exact congrArg (mk s.shutdownTimeoutMs) ((congrArg (·.getD default.node) h).trans hnode)
    cases hgiven with
    | object hms h =>
      obtain ⟨hshutdown', hnode', -⟩ := h
      obtain ⟨node?, hwritten, hsame⟩ := forall₂_made.mp hnode'
      exact ⟨⟨given.1, node?⟩, .object hms ⟨forall₂_number.mp hshutdown', hwritten⟩, hover hsame⟩
    | list hvs h =>
      simp only [forall₂_number, toList_eq_number, ← List.head?_eq_none_iff,
        List.head?_eq_getElem?, List.getElem?_tail] at h
      obtain ⟨hshutdown', hnode', hno⟩ := h
      obtain ⟨node?, hwritten, hsame⟩ := forall₂_made.mp hnode'
      exact ⟨⟨given.1, node?⟩, .list hvs ⟨hshutdown', hwritten, hno⟩, hover hsame⟩
  · rintro ⟨given, hwritten, rfl⟩
    refine ⟨(given.shutdownTimeoutMs, given.node.map fun node => node.overlay .default, ()), ?_,
      (Fields.complete_withDefault ..).mpr ⟨rfl, (Fields.complete_withDefault ..).mpr ⟨rfl, rfl⟩⟩⟩
    cases hwritten with
    | object hms h =>
      exact .object hms ⟨forall₂_number.mpr h.shutdownTimeoutMs,
        forall₂_made.mpr ⟨given.node, h.node, rfl⟩, trivial⟩
    | list hvs h =>
      refine .list hvs ?_
      simp only [forall₂_number, toList_eq_number, ← List.head?_eq_none_iff,
        List.head?_eq_getElem?, List.getElem?_tail]
      exact ⟨h.shutdownTimeoutMs, forall₂_made.mpr ⟨given.node, h.node, rfl⟩, h.noMore⟩

-- ---------------------------------------------------------------------------
-- Whole texts
-- ---------------------------------------------------------------------------

/-- A text is nothing but this value, with blanks around it. -/
def Json.IsTextOf (v : List Char) (text : String) : Prop :=
  ∃ ws ws', IsBlanks ws ∧ IsBlanks ws' ∧ text.toList = ws ++ (v ++ ws')

/-- A text is an object with these members. -/
def Json.HasMembers (ms : List (String × List Char)) (text : String) : Prop :=
  ∃ v, IsObject ms v ∧ IsTextOf v text

/-- Digits without needless zeros, of a number of up to 64 bits: no sign, no fraction and no
exponent. -/
def Json.IsWord64 (v : List Char) : Prop :=
  IsWhole v ∧ Nat.ofDigitChars 10 v 0 < UInt64.size

instance (v : List Char) : Decidable (IsWord64 v) :=
  inferInstanceAs (Decidable (IsWhole v ∧ Nat.ofDigitChars 10 v 0 < UInt64.size))

/-- Members of these names are the same, but for their order. -/
def Json.SameMembers (names : List String) (ms ms' : List (String × List Char)) : Prop :=
  (ms.filter fun m => m.1 ∈ names).Perm (ms'.filter fun m => m.1 ∈ names)

/-- The text is refused, with a message. -/
def RegistrySettings.Refused (text : String) : Prop :=
  ∃ message, ofJson text = .error (.serialization message)

def NodeGiven.names : List String :=
  ["connect_timeout_ms", "io_timeout_ms", "handshake_timeout_ms", "max_frame_size"]

def RegistryGiven.names : List String := ["shutdown_timeout_ms", "node"]

theorem endsNumber_of_isBlanks {ws : List Char} (h : IsBlanks ws) : EndsNumber ws := by
  have hends := endsNumber_blanks h endsNumber_nil
  rwa [List.append_nil] at hends

/-- A text is the text of one value. -/
theorem Json.IsTextOf.unique {v v' : List Char} {text : String} (hv : IsValue v) (hv' : IsValue v')
    (h : IsTextOf v text) (h' : IsTextOf v' text) : v = v' := by
  obtain ⟨ws₁, ws₂, hws₁, hws₂, htext⟩ := h
  obtain ⟨ws₁', ws₂', hws₁', hws₂', htext'⟩ := h'
  exact (hv.append_inj hv' hws₁ hws₁' (fun _ => endsNumber_of_isBlanks hws₂)
    (fun _ => endsNumber_of_isBlanks hws₂') (htext.symm.trans htext')).1

/-- A value is a number of 64 bits or it is none. -/
theorem exists_number_iff {v : List Char} : (∃ n, v = number n) ↔ IsWord64 v := by
  constructor
  · rintro ⟨n, rfl⟩
    refine ⟨isWhole_digits _, ?_⟩
    have hn : Nat.ofDigitChars 10 (digits n.toNat) 0 = n.toNat :=
      Nat.ofDigitChars_toDigits (by decide) (by decide)
    rw [number, hn]
    exact n.toNat_lt
  · rintro ⟨hwhole, hlt⟩
    refine ⟨UInt64.ofNat (Nat.ofDigitChars 10 v 0), ?_⟩
    rw [number, UInt64.toNat_ofNat_of_lt' hlt, Number.digits_ofDigitChars hwhole]

/-- The same members have the same values, perhaps in another order. -/
theorem valuesOf_perm {names : List String} {ms ms' : List (String × List Char)}
    (h : SameMembers names ms ms') {name : String} (hname : name ∈ names) :
    (valuesOf name ms).Perm (valuesOf name ms') := by
  have hfilter (ms : List (String × List Char)) :
      (ms.filter fun m => m.1 ∈ names).filter (fun m => m.1 = name) =
        ms.filter fun m => m.1 = name := by
    rw [List.filter_filter]
    refine List.filter_congr fun m _ => ?_
    by_cases hm : m.1 = name <;> simp [hm, hname]
  have hperm := (h.filter fun m => m.1 = name).map Prod.snd
  rwa [hfilter, hfilter] at hperm

/-- One value, or none, has no order. -/
theorem valuesOf_eq {names : List String} {ms ms' : List (String × List Char)}
    (h : SameMembers names ms ms') {name : String} (hname : name ∈ names)
    (hle : (valuesOf name ms).length ≤ 1) : valuesOf name ms' = valuesOf name ms := by
  have hperm := valuesOf_perm h hname
  match hvs : valuesOf name ms with
  | [] =>
    rw [hvs] at hperm
    exact hperm.symm.eq_nil
  | [v] =>
    rw [hvs] at hperm
    exact List.perm_singleton.mp hperm.symm
  | _ :: _ :: _ =>
    rw [hvs] at hle
    exact absurd hle (by simp)

theorem length_toList_le {α : Type} (a? : Option α) : a?.toList.length ≤ 1 := by
  cases a? <;> simp

/-- A setting is given once at most. -/
theorem length_le_of_eq {vs : List (List Char)} {n? : Option UInt64}
    (h : vs = n?.toList.map number) : vs.length ≤ 1 := by
  rw [h, List.length_map]
  exact length_toList_le n?

/-- So each name of the settings of a node occurs once at most. -/
theorem NodeGiven.InObject.length_le {given : NodeGiven} {ms : List (String × List Char)}
    (h : given.InObject ms) : ∀ name ∈ names, (valuesOf name ms).length ≤ 1 := by
  intro name hname
  simp only [names, List.mem_cons, List.not_mem_nil, or_false] at hname
  obtain rfl | rfl | rfl | rfl := hname
  · exact length_le_of_eq h.connectTimeoutMs
  · exact length_le_of_eq h.idleTimeoutMs
  · exact length_le_of_eq h.handshakeTimeoutMs
  · exact length_le_of_eq h.maxFrameSize

/-- What is given is a number of 64 bits. -/
theorem isWord64_of_mem {vs : List (List Char)} {n? : Option UInt64}
    (h : vs = n?.toList.map number) : ∀ v ∈ vs, IsWord64 v := by
  subst h
  intro v hv
  obtain ⟨n, -, rfl⟩ := List.mem_map.mp hv
  exact exists_number_iff.mp ⟨n, rfl⟩

/-- So are all values of these names. -/
theorem NodeGiven.InObject.isWord64 {given : NodeGiven} {ms : List (String × List Char)}
    (h : given.InObject ms) : ∀ name ∈ names, ∀ v ∈ valuesOf name ms, IsWord64 v := by
  intro name hname
  simp only [names, List.mem_cons, List.not_mem_nil, or_false] at hname
  obtain rfl | rfl | rfl | rfl := hname
  · exact isWord64_of_mem h.connectTimeoutMs
  · exact isWord64_of_mem h.idleTimeoutMs
  · exact isWord64_of_mem h.handshakeTimeoutMs
  · exact isWord64_of_mem h.maxFrameSize

/-- Neither the order of the members nor other members matter. -/
theorem NodeGiven.InObject.of_sameMembers {given : NodeGiven} {ms ms' : List (String × List Char)}
    (hsame : SameMembers names ms ms') (h : given.InObject ms) : given.InObject ms' := by
  have hvalues (name : String) (hname : name ∈ names) : valuesOf name ms' = valuesOf name ms :=
    valuesOf_eq hsame hname (h.length_le name hname)
  exact ⟨(hvalues _ (by decide)).trans h.connectTimeoutMs,
    (hvalues _ (by decide)).trans h.idleTimeoutMs,
    (hvalues _ (by decide)).trans h.handshakeTimeoutMs,
    (hvalues _ (by decide)).trans h.maxFrameSize⟩

/-- Each name of the settings of a registry occurs once at most. -/
theorem RegistryGiven.InObject.length_le {given : RegistryGiven} {ms : List (String × List Char)}
    (h : given.InObject ms) : ∀ name ∈ names, (valuesOf name ms).length ≤ 1 := by
  intro name hname
  simp only [names, List.mem_cons, List.not_mem_nil, or_false] at hname
  obtain rfl | rfl := hname
  · exact length_le_of_eq h.shutdownTimeoutMs
  · rw [h.node.length_eq]
    exact length_toList_le _

/-- Nor do they matter to the settings of a registry. -/
theorem RegistryGiven.InObject.of_sameMembers {given : RegistryGiven}
    {ms ms' : List (String × List Char)} (hsame : SameMembers names ms ms')
    (h : given.InObject ms) : given.InObject ms' := by
  have hvalues (name : String) (hname : name ∈ names) : valuesOf name ms' = valuesOf name ms :=
    valuesOf_eq hsame hname (h.length_le name hname)
  refine ⟨(hvalues _ (by decide)).trans h.shutdownTimeoutMs, ?_⟩
  rw [hvalues _ (by decide)]
  exact h.node

namespace RegistrySettings

/-- `from_json` reads the defaults under what a text gives. -/
theorem ofJson_eq_ok_iff {text : String} {s : RegistrySettings} :
    ofJson text = .ok s ↔ ∃ v given, IsTextOf v text ∧ RegistryGiven.WrittenAs given v ∧
      given.overlay .default = s := by
  have hschema : ofJson text = .ok s ↔ schema.ofJson text = .ok s := by
    unfold ofJson
    cases schema.ofJson text <;> simp
  rw [hschema, Schema.ofJson, parse_eq_ok]
  constructor
  · rintro ⟨rest, hread, hrest⟩
    obtain ⟨ws, v, hws, ⟨given, hwritten, hover⟩, htext⟩ := reads.sound hread
    exact ⟨v, given, ⟨ws, rest, hws, skipBlanks_eq_nil_iff.mp hrest, htext⟩, hwritten, hover⟩
  · rintro ⟨v, given, ⟨ws, rest, hws, hrest, htext⟩, hwritten, hover⟩
    refine ⟨rest, ?_, skipBlanks_eq_nil_iff.mpr hrest⟩
    rw [htext]
    exact reads.complete hws ⟨given, hwritten, hover⟩ (endsNumber_of_isBlanks hrest)

/-- A text is refused if no settings are read from it. -/
theorem refused_iff {text : String} : Refused text ↔ ∀ s, ofJson text ≠ .ok s := by
  unfold Refused ofJson
  cases schema.ofJson text <;> simp

/-- What the members of an object give is read from its text. -/
theorem ofJson_of_members {ms : List (String × List Char)} {text : String}
    (h : HasMembers ms text) (s : RegistrySettings) :
    ofJson text = .ok s ↔
      ∃ given : RegistryGiven, given.InObject ms ∧ given.overlay .default = s := by
  obtain ⟨v, hms, htext⟩ := h
  rw [ofJson_eq_ok_iff]
  constructor
  · rintro ⟨v', given, htext', hwritten, hover⟩
    obtain rfl := htext.unique hms.isValue hwritten.isValue htext'
    exact ⟨given, (GivenBy.object_iff hms).mp hwritten, hover⟩
  · rintro ⟨given, h, hover⟩
    exact ⟨v, given, htext, .object hms h, hover⟩

/-- The values of a name are those in both parts, in order. -/
theorem valuesOf_append (name : String) (ms ms' : List (String × List Char)) :
    valuesOf name (ms ++ ms') = valuesOf name ms ++ valuesOf name ms' := by
  rw [valuesOf, List.filter_append, List.map_append]
  rfl

theorem forall₂_replace {α β : Type} {r : α → β → Prop} {v v' : α} {vs₁ vs₂ : List α} {bs : List β}
    (hr : ∀ b, r v b → r v' b) (h : List.Forall₂ r (vs₁ ++ v :: vs₂) bs) :
    List.Forall₂ r (vs₁ ++ v' :: vs₂) bs := by
  induction vs₁ generalizing bs with
  | nil =>
    cases h with
    | cons hv hvs => exact .cons (hr _ hv) hvs
  | cons w vs₁ ih =>
    cases h with
    | cons hw hvs => exact .cons hw (ih hvs)

/-- Another value of the node setting, which gives the same, changes nothing. -/
theorem of_node {given : RegistryGiven} {ms₁ ms₂ nodes nodes' : List (String × List Char)}
    {v v' : List Char} (hv : IsObject nodes v) (hv' : IsObject nodes' v')
    (hsame : SameMembers NodeGiven.names nodes nodes')
    (h : given.InObject (ms₁ ++ ("node", v) :: ms₂)) :
    given.InObject (ms₁ ++ ("node", v') :: ms₂) := by
  have hvalues (name : String) (v : List Char) : valuesOf name (ms₁ ++ ("node", v) :: ms₂) =
      valuesOf name ms₁ ++ if "node" = name then v :: valuesOf name ms₂ else valuesOf name ms₂ := by
    rw [valuesOf_append, valuesOf_cons]
  have hshutdown := h.shutdownTimeoutMs
  have hnode := h.node
  rw [hvalues, if_neg (by decide)] at hshutdown
  rw [hvalues, if_pos rfl] at hnode
  constructor
  · rw [hvalues, if_neg (by decide)]
    exact hshutdown
  · rw [hvalues, if_pos rfl]
    refine forall₂_replace (fun node hwritten => ?_) hnode
    have hgiven := (GivenBy.object_iff hv).mp hwritten
    exact (GivenBy.object_iff hv').mpr (hgiven.of_sameMembers hsame)

/-- Of values that are given one each to what there is at most one of, each is given to it. -/
theorem exists_of_forall₂ {α β : Type} {r : α → β → Prop} {vs : List α} {bs : List β}
    (h : List.Forall₂ r vs bs) {v : α} (hv : v ∈ vs) : ∃ b, r v b := by
  induction h with
  | nil => cases hv
  | cons hb _ ih =>
    rcases List.mem_cons.mp hv with rfl | hv
    · exact ⟨_, hb⟩
    · exact ih hv

/-- **Settings over their defaults.** -/
theorem given_over_defaults :
    (∀ text s, ofJson text = .ok s ↔ ∃ v given, IsTextOf v text ∧
      RegistryGiven.WrittenAs given v ∧ given.overlay .default = s) ∧
    (∀ text, (∀ s, ofJson text ≠ .ok s) → Refused text) ∧
    (∀ text ms, HasMembers ms text → ∀ s, ofJson text = .ok s ↔
      ∃ given : RegistryGiven, given.InObject ms ∧ given.overlay .default = s) ∧
    (∀ text text' ms ms', HasMembers ms text → HasMembers ms' text' →
      SameMembers RegistryGiven.names ms ms' → ∀ s, ofJson text = .ok s ↔ ofJson text' = .ok s) ∧
    (∀ text text' ms₁ ms₂ v v' nodes nodes', HasMembers (ms₁ ++ ("node", v) :: ms₂) text →
      HasMembers (ms₁ ++ ("node", v') :: ms₂) text' → IsObject nodes v → IsObject nodes' v' →
      SameMembers NodeGiven.names nodes nodes' → ∀ s, ofJson text = .ok s ↔ ofJson text' = .ok s) ∧
    (∀ text ms, HasMembers ms text → ∀ name ∈ RegistryGiven.names,
      2 ≤ (valuesOf name ms).length → Refused text) ∧
    (∀ text ms, HasMembers ms text → ∀ v ∈ valuesOf "shutdown_timeout_ms" ms,
      ¬ IsWord64 v → Refused text) ∧
    (∀ text ms, HasMembers ms text → ∀ v ∈ valuesOf "node" ms,
      (∀ given : NodeGiven, ¬ given.WrittenAs v) → Refused text) ∧
    (∀ text ms v nodes, HasMembers ms text → v ∈ valuesOf "node" ms → IsObject nodes v →
      ∀ name ∈ NodeGiven.names,
        2 ≤ (valuesOf name nodes).length ∨ (∃ w ∈ valuesOf name nodes, ¬ IsWord64 w) →
        Refused text) ∧
    (∀ text ms ws v tail, IsBlanks ws → IsObject ms v → text.toList = ws ++ (v ++ tail) →
      ¬ IsBlanks tail → Refused text) := by
  have hnode (text : String) (ms : List (String × List Char)) (h : HasMembers ms text)
      (v : List Char) (hv : v ∈ valuesOf "node" ms)
      (hno : ∀ given : NodeGiven, ¬ given.WrittenAs v) : Refused text := by
    refine refused_iff.mpr fun s hs => ?_
    obtain ⟨given, hgiven, -⟩ := (ofJson_of_members h s).mp hs
    obtain ⟨node, hwritten⟩ := exists_of_forall₂ hgiven.node hv
    exact hno node hwritten
  refine ⟨fun _ _ => ofJson_eq_ok_iff, fun _ => refused_iff.mpr, fun _ _ h => ofJson_of_members h,
    fun text text' ms ms' h h' hsame s => ?_,
    fun text text' ms₁ ms₂ v v' nodes nodes' h h' hv hv' hsame s => ?_,
    fun text ms h name hname hlength => refused_iff.mpr fun s hs => ?_,
    fun text ms h v hv hword => refused_iff.mpr fun s hs => ?_, hnode,
    fun text ms v nodes h hv hnodes name hname hbad => hnode text ms h v hv fun node hwritten => ?_,
    fun text ms ws v tail hws hv htext htail => refused_iff.mpr fun s hs => ?_⟩
  · rw [ofJson_of_members h, ofJson_of_members h']
    constructor
    · exact fun ⟨given, hgiven, hover⟩ => ⟨given, hgiven.of_sameMembers hsame, hover⟩
    · exact fun ⟨given, hgiven, hover⟩ => ⟨given, hgiven.of_sameMembers hsame.symm, hover⟩
  · rw [ofJson_of_members h, ofJson_of_members h']
    constructor
    · exact fun ⟨given, hgiven, hover⟩ => ⟨given, of_node hv hv' hsame hgiven, hover⟩
    · exact fun ⟨given, hgiven, hover⟩ => ⟨given, of_node hv' hv hsame.symm hgiven, hover⟩
  · obtain ⟨given, hgiven, -⟩ := (ofJson_of_members h s).mp hs
    have hle := hgiven.length_le name hname
    omega
  · obtain ⟨given, hgiven, -⟩ := (ofJson_of_members h s).mp hs
    exact hword (isWord64_of_mem hgiven.shutdownTimeoutMs v hv)
  · have hgiven := (GivenBy.object_iff hnodes).mp hwritten
    obtain hlength | ⟨w, hw, hword⟩ := hbad
    · have hle := hgiven.length_le name hname
      omega
    · exact hword (hgiven.isWord64 name hname w hw)
  · obtain ⟨v', given, ⟨ws₁, ws₂, hws₁, hws₂, htext'⟩, hwritten, -⟩ := ofJson_eq_ok_iff.mp hs
    have hends (h : IsNumber v) : EndsNumber tail := absurd h hv.not_isNumber
    have hsame := hwritten.isValue.append_inj hv.isValue hws₁ hws
      (fun _ => endsNumber_of_isBlanks hws₂) hends (htext'.symm.trans htext)
    exact htail (hsame.2 ▸ hws₂)

/-- An object with blanks, with another member among its own, with an escape in a name and with
values in another order than the settings. And smaller ones with a setting twice, with numbers that
are no whole numbers of 64 bits, and with something behind it. -/
theorem given_over_defaults_sample :
    let node : String := "\x7b\"max_frame_size\": 64, \"x\": \"\", \"io_timeout_ms\":7\x7d"
    let other : String := "[1.5e3, \x7b\"\\ud800\": null\x7d]"
    let object (members : String) : String := "\x7b" ++ members ++ "\x7d"
    let shutdown (value : String) : String := "\"shutdown_timeout_ms\":" ++ value
    let config : String := object ("\"other\" : " ++ other ++ ", \"node\": " ++ node ++
      ", \"shut\\u0064own_timeout_ms\" :20")
    ofJson (" " ++ config ++ "\n") = .ok ⟨20, ⟨10000, 7, 15000, 64⟩⟩ ∧
      Refused (object (shutdown "20" ++ "," ++ shutdown "20")) ∧
      (∀ value ∈ ["2e1", "20.0", "-0", "18446744073709551616", "\"20\"", "null"],
        Refused (object (shutdown value))) ∧
      Refused (object (shutdown "20") ++ ",") := by
  intro node other object shutdown config
  have halone (ms : List (String × List Char)) (text : String) (h : IsObject ms text.toList) :
      HasMembers ms text := ⟨text.toList, h, [], [], isBlanks_nil, isBlanks_nil, by simp⟩
  obtain ⟨-, -, hobject, -, -, htwice, hword, -, -, hbehind⟩ := given_over_defaults
  refine ⟨?_, ?_, ?_, ?_⟩
  · let ms : List (String × List Char) :=
      [("other", other.toList), ("node", node.toList), ("shutdown_timeout_ms", ['2', '0'])]
    have hnode : IsObject [("max_frame_size", ['6', '4']), ("x", ['"', '"']),
        ("io_timeout_ms", ['7'])] node.toList := by decide +kernel
    have hgiven : valuesOf "node" ms = [node.toList] := by decide +kernel
    have hconfig : HasMembers ms (" " ++ config ++ "\n") :=
      ⟨config.toList, by decide +kernel, [' '], ['\n'], by decide, by decide,
        by rw [String.toList_append, String.toList_append]; rfl⟩
    refine (hobject _ ms hconfig _).mpr
      ⟨⟨some 20, some ⟨none, some 7, none, some 64⟩⟩, ⟨by decide +kernel, ?_⟩, rfl⟩
    rw [hgiven]
    exact .cons (.object hnode ⟨by decide, by decide, by decide, by decide⟩) .nil
  · exact htwice _ [("shutdown_timeout_ms", ['2', '0']), ("shutdown_timeout_ms", ['2', '0'])]
      (halone _ _ (by decide +kernel)) "shutdown_timeout_ms" (by decide) (by decide)
  · intro value hvalue
    have hall : ∀ value ∈ ["2e1", "20.0", "-0", "18446744073709551616", "\"20\"", "null"],
        IsObject [("shutdown_timeout_ms", value.toList)] (object (shutdown value)).toList ∧
          ¬ IsWord64 value.toList := by decide +kernel
    obtain ⟨hms, hno⟩ := hall value hvalue
    exact hword _ _ (halone _ _ hms) value.toList (.head _) hno
  · exact hbehind _ [("shutdown_timeout_ms", ['2', '0'])] [] (object (shutdown "20")).toList [',']
      isBlanks_nil (by decide +kernel) String.toList_append (by decide)

end RegistrySettings

end Courier
