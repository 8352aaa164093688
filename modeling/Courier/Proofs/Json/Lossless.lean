import Courier.Envelope.Basic
import Courier.Link.Reason
import Courier.Mail.Delivery
import Courier.Proofs.Binary
import Courier.Proofs.Json.Scalars
import Courier.Settings

/-!
# Courier — nothing is lost in JSON

What is written for a value is read back as that value. This is one induction on the schema, so it
holds of every transmitted type at once; it takes that names can be told apart:

* `Schema.legible` — the names in a record, of alternatives and of labels differ, and an optional
  value is not optional itself, since both would be absent in the same way.

Main results:

* `Schema.read_print` — a value is read back from its form, and what stands behind it is left;
* `Schema.ofJson_toJson` — the same on whole texts;
* `transmitted_types_lossless` — all types that have written forms, by JSON alone and from the
  binary form to JSON and back.
-/

namespace Courier

open Json

/-! ## Names that can be told apart -/

/-- The names of the fields. -/
def Fields.names : {β : Type} → Fields β → List String
  | _, .nil => []
  | _, .cons name _ _ rest => name :: rest.names

def Schema.isOptional : {α : Type} → Schema α → Bool
  | _, .optional _ => true
  | _, _ => false

mutual

/-- Different parts of a value can be told apart in its JSON form. -/
def Schema.legible : {α : Type} → Schema α → Bool
  | _, .word8 => true
  | _, .word16 => true
  | _, .word64 _ => true
  | _, .flag => true
  | _, .text => true
  | _, .octets => true
  | _, .block _ => true
  | _, .base64 _ => true
  | _, .optional s => !s.isOptional && s.legible
  | _, .record _ _ fields _ => decide fields.names.Nodup && fields.legible
  | _, .choice cases _ => decide cases.names.Nodup && cases.legible
  | _, .label names _ => decide names.Nodup

def Fields.legible : {β : Type} → Fields β → Bool
  | _, .nil => true
  | _, .cons _ s _ rest => s.legible && rest.legible

def Cases.legible : {β : Type} → Cases β → Bool
  | _, .nil => true
  | _, .cons _ s rest => s.legible && rest.legible

end

/-! ## Where forms begin -/

/-- What follows an object follows its closing brace. -/
theorem Json.braced_append (members : List (List Char)) (rest : List Char) :
    braced members ++ rest = '\x7b' :: (joined true members ++ '\x7d' :: rest) := by
  rw [braced, commaSeparated_eq]
  simp

/-- What follows a member follows its value. -/
theorem Json.member_append (name : String) (value rest : List Char) :
    member name value ++ rest =
      '"' :: (name.toList.flatMap escapeChar ++ '"' :: ':' :: (value ++ rest)) := by
  rw [member, List.append_assoc, quote_append]
  rfl

/-- An alternative is written as an object with its name as only key. -/
theorem Cases.print_eq : {β : Type} → (cases : Cases β) → (b : β) →
    ∃ name value, cases.print b = braced [member name value]
  | _, .nil, e => nomatch e
  | _, .cons name s _, .inl a => ⟨name, s.print a, rfl⟩
  | _, .cons _ _ rest, .inr b => rest.print_eq b

/-- A form begins with no blank, and only an absent value like the word for it. -/
theorem Schema.print_begins {α : Type} (s : Schema α) (h : s.isOptional = false) (a : α) :
    ∃ c cs, s.print a = c :: cs ∧ isBlank c = false ∧ c ≠ 'n' := by
  have hdigits (n : Nat) : ∃ c cs, digits n = c :: cs ∧ isBlank c = false ∧ c ≠ 'n' := by
    obtain ⟨c, cs, hn, hc, -⟩ := digits_eq_cons n
    exact ⟨c, cs, hn, not_isBlank_of_isDigit hc, fun he => absurd (he ▸ hc) (by decide)⟩
  cases s with
  | word8 => exact hdigits a.toNat
  | word16 => exact hdigits a.toNat
  | word64 name => exact hdigits a.toNat
  | flag => cases a <;> exact ⟨_, _, rfl, by decide, by decide⟩
  | text => exact ⟨'"', _, rfl, by decide, by decide⟩
  | octets => exact ⟨'[', _, rfl, by decide, by decide⟩
  | block n => exact ⟨'[', _, rfl, by decide, by decide⟩
  | base64 n => exact ⟨'"', _, rfl, by decide, by decide⟩
  | optional s => cases h
  | record name lenient fields view => exact ⟨'\x7b', _, rfl, by decide, by decide⟩
  | choice cases view =>
    obtain ⟨name, value, hprint⟩ := cases.print_eq (view.forth a)
    exact ⟨'\x7b', _, by rw [Schema.print, hprint]; rfl, by decide, by decide⟩
  | label names view => exact ⟨'"', _, rfl, by decide, by decide⟩

/-! ## What is written reads back -/

/-- All fields were given. -/
def Fields.allGiven : {β : Type} → (fields : Fields β) → β → fields.Given
  | _, .nil, _ => ()
  | _, .cons _ _ _ rest, (a, b) => (some a, rest.allGiven b)

/-- A record with all fields given is complete. -/
theorem Fields.complete_allGiven : {β : Type} → (fields : Fields β) → (b : β) →
    fields.complete (fields.allGiven b) = .ok b
  | _, .nil, _ => rfl
  | _, .cons _ _ _ rest, (a, b) => by
    have hrest := rest.complete_allGiven b
    simp only [Fields.complete, Fields.allGiven, Option.or, hrest]

/-- Each field is written as one member. -/
theorem Fields.length_print : {β : Type} → (fields : Fields β) → (b : β) →
    (fields.print b).length = fields.size
  | _, .nil, _ => rfl
  | _, .cons _ _ _ rest, (_, b) => by
    rw [Fields.print, List.length_cons, rest.length_print, Fields.size]

/-- No member is written as nothing. -/
theorem Fields.ne_nil_of_mem_print : {β : Type} → (fields : Fields β) → (b : β) →
    ∀ m ∈ fields.print b, m ≠ []
  | _, .nil, _, _, h => nomatch h
  | _, .cons name s _ rest, (a, b), m, h => by
    rw [Fields.print, List.mem_cons] at h
    rcases h with rfl | h
    · rw [member, quote]
      exact List.cons_ne_nil _ _
    · exact rest.ne_nil_of_mem_print b m h

/-- What was given of a first field and of the others. -/
def Fields.giving {α β : Type} {name : String} {s : Schema α} {absent : Option α}
    {rest : Fields β} (a : Option α) (given : rest.Given) :
    (Fields.cons name s absent rest).Given := (a, given)

section

variable {α β : Type} {name : String} {s : Schema α} {absent : Option α} {rest : Fields β}

/-- A field that was not given yet is read behind its name. -/
theorem Fields.readMember_self (given : rest.Given) (cs : List Char) :
    (Fields.cons name s absent rest).readMember (giving none given) name cs =
      (colon cs).andThen fun _ cs => (s.read cs).map fun a => giving (some a) given :=
  (if_pos rfl : ite (name = name) _ _ = _)

/-- A key is passed on to the other fields by a field of another name. -/
theorem Fields.readMember_of_ne {key : String} (a : Option α) (given : rest.Given)
    (h : key ≠ name) (cs : List Char) :
    (Fields.cons name s absent rest).readMember (giving a given) key cs =
      (rest.readMember given key cs).map (giving a) :=
  (if_neg h : ite (key = name) _ _ = _)

end

/-- `nextKey` comes to the key of a member, behind a comma if it is not the first. -/
theorem Json.nextKey_member (first : Bool) (cs : List Char) :
    nextKey first ((if first then [] else [',']) ++ '"' :: cs) = .done true cs := by
  cases first <;> rfl

theorem Json.colon_cons (cs : List Char) : colon (':' :: cs) = .done () cs := rfl

theorem Reading.map_map {α β γ : Type} (r : Reading α) (f : α → β) (g : β → γ) :
    (r.map f).map g = r.map fun a => g (f a) := by
  cases r <;> rfl

theorem Reading.map_id {α : Type} (r : Reading α) : (r.map fun a => a) = r := by
  cases r <;> rfl

mutual

/-- A value is read back from its form, and what follows is left. -/
theorem Schema.read_print : {α : Type} → (s : Schema α) → s.legible = true → (a : α) →
    (rest : List Char) → EndsNumber rest → s.read (s.print a ++ rest) = .done a rest
  | _, .word8, _, n, rest, h => by rw [Schema.print, Schema.read, readByte_digits n h]
  | _, .word16, _, n, rest, h => by
    have hn := n.toNat_lt
    rw [Schema.print, Schema.read, readNatural_digits "u16" hn (Nat.lt_trans hn (by decide)) h,
      Reading.map, Reading.andThen, UInt16.ofNat_toNat]
  | _, .word64 name, _, n, rest, h => by
    have hn := n.toNat_lt
    rw [Schema.print, Schema.read, readNatural_digits name hn hn h, Reading.map, Reading.andThen,
      UInt64.ofNat_toNat]
  | _, .flag, _, b, rest, _ => by rw [Schema.print, Schema.read, readFlag_print]
  | _, .text, _, s, rest, _ => by rw [Schema.print, Schema.read, readString_quote]
  | _, .octets, _, bs, rest, _ => by rw [Schema.print, Schema.read, readOctets_byteList]
  | _, .block n, _, b, rest, _ => by rw [Schema.print, Schema.read, readBlock_byteList]
  | _, .base64 n, _, b, rest, _ => by rw [Schema.print, Schema.read, readBase64_quote]
  | _, .optional s, _, none, rest, _ => by
    rw [Schema.print, Schema.read]
    rfl
  | _, .optional s, hs, some a, rest, h => by
    rw [Schema.legible, Bool.and_eq_true, Bool.not_eq_true'] at hs
    -- the value does not begin like the word for an absent one
    obtain ⟨c, cs, hprint, hblank, hn⟩ := s.print_begins hs.1 a
    have ha := s.read_print hs.2 a rest h
    rw [hprint, List.cons_append] at ha
    rw [Schema.print, Schema.read, hprint, List.cons_append, skipBlanks_cons hblank]
    split
    · rename_i heq
      exact absurd (List.cons.inj heq).1 hn
    · rw [ha]
      rfl
  | _, .record name lenient fields view, hs, a, rest, _ => by
    rw [Schema.legible, Bool.and_eq_true, decide_eq_true_eq] at hs
    have hlength := length_le_joined (fields.ne_nil_of_mem_print (view.forth a)) true
    rw [fields.length_print] at hlength
    have hmembers := fields.readMembers_print hs.1 hs.2 (view.forth a)
      (fun given key cs => fields.readMember given key cs) (fun given => given)
      (fun given key cs _ => (Reading.map_id _).symm)
      ((joined true (fields.print (view.forth a)) ++ '\x7d' :: rest).length + 1)
      (by rw [List.length_append]; omega) true rest
    rw [Schema.print, Schema.read, braced_append]
    rw [expecting_cons (view.forth a) rest (by decide)]
    · rw [Reading.map, Reading.andThen, view.back_forth]
    · refine congrArg some ?_
      rw [hmembers, Reading.andThen, Fields.finish, fields.complete_allGiven]
      rfl
  | _, .choice cases view, hs, a, rest, _ => by
    rw [Schema.legible, Bool.and_eq_true, decide_eq_true_eq] at hs
    obtain ⟨i, value, hprint, hvalue⟩ := cases.read_print hs.2 (view.forth a)
    have hread := hvalue ('\x7d' :: rest) (endsNumber_brace rest)
    rw [Schema.print, Schema.read, hprint, braced_append, joined, joined, if_pos rfl,
      List.nil_append, List.append_nil, member, List.append_assoc]
    rw [readChoice_keyed (view.forth a) rest]
    · rw [Reading.map, Reading.andThen, view.back_forth]
    · rw [readName_quote hs.1, Reading.andThen, ← hread]
      rfl
  | _, .label names view, hs, a, rest, _ => by
    rw [Schema.legible, decide_eq_true_eq] at hs
    rw [Schema.print, Schema.read, readLabel_quote hs, Reading.map, Reading.andThen,
      view.back_forth]

/-- The members of a record are read back one by one. Whoever reads them keeps more than these
fields, put around them by `put`: the fields in front of them. -/
theorem Fields.readMembers_print : {β : Type} → (fields : Fields β) → fields.names.Nodup →
    fields.legible = true → (b : β) → {σ : Type} →
    (step : σ → String → List Char → Reading σ) → (put : fields.Given → σ) →
    (∀ given key cs, key ∈ fields.names →
      step (put given) key cs = (fields.readMember given key cs).map put) →
    (fuel : Nat) → fields.size < fuel → (first : Bool) → (rest : List Char) →
    readMembers step fuel first (put fields.noneGiven)
        (joined first (fields.print b) ++ '\x7d' :: rest) =
      .done (put (fields.allGiven b)) ('\x7d' :: rest)
  | _, .nil, _, _, (), _, step, put, _, fuel, hfuel, first, rest => by
    obtain ⟨fuel, rfl⟩ := Nat.exists_eq_add_of_lt hfuel
    rfl
  | _, .cons name s absent more, hnames, hs, (a, b), _, step, put, hstep, fuel, hfuel, first,
      rest => by
    obtain ⟨fuel, rfl⟩ : ∃ k, fuel = k + 1 := ⟨fuel - 1, by omega⟩
    rw [Fields.names, List.nodup_cons] at hnames
    rw [Fields.legible, Bool.and_eq_true] at hs
    -- behind this field stand the others, and then the brace
    have hends := endsNumber_joined (endsNumber_brace rest) (more.print b)
    have ha := s.read_print hs.1 a _ hends
    have hmore := more.readMembers_print hnames.2 hs.2 b step
      (fun given => put (Fields.giving (some a) given))
      (fun given key cs hkey => by
        have hne : key ≠ name := fun h => hnames.1 (h ▸ hkey)
        rw [hstep _ key cs (List.mem_cons_of_mem _ hkey), Fields.readMember_of_ne _ given hne,
          Reading.map_map])
      fuel (by rw [Fields.size] at hfuel; omega) false rest
    have hthis := hstep (Fields.giving none more.noneGiven) name
      (':' :: (s.print a ++ (joined false (more.print b) ++ '\x7d' :: rest)))
      (List.mem_cons_self ..)
    rw [Fields.readMember_self, colon_cons, Reading.andThen, ha] at hthis
    rw [Fields.print, joined, List.append_assoc, List.append_assoc, member_append, readMembers,
      nextKey_member]
    dsimp only
    rw [readText_escaped, Reading.andThen]
    show (match step (put (Fields.giving none more.noneGiven)) name _ with
      | .done s rest => readMembers step fuel false s rest
      | .refused cause rest => .refused cause rest
      | .failed cause left => .failed cause left) = _
    rw [hthis]
    exact hmore

/-- An alternative is read back by its number among these. -/
theorem Cases.read_print : {β : Type} → (cases : Cases β) → cases.legible = true → (b : β) →
    ∃ (i : Fin cases.names.length) (value : List Char),
      cases.print b = braced [member (cases.names.get i) value] ∧
      ∀ rest, EndsNumber rest → cases.read i.val (value ++ rest) = .done b rest
  | _, .nil, _, e => nomatch e
  | _, .cons name s more, hs, .inl a => by
    rw [Cases.legible, Bool.and_eq_true] at hs
    refine ⟨⟨0, by simp [Cases.names]⟩, s.print a, rfl, fun rest h => ?_⟩
    rw [Cases.read, s.read_print hs.1 a rest h]
    rfl
  | _, .cons name s more, hs, .inr b => by
    rw [Cases.legible, Bool.and_eq_true] at hs
    obtain ⟨i, value, hprint, hread⟩ := more.read_print hs.2 b
    refine ⟨⟨i.val + 1, by simp [Cases.names]⟩, value, by rw [Cases.print, hprint]; rfl,
      fun rest h => ?_⟩
    rw [Cases.read, hread rest h]
    rfl

end

/-- A whole text reads as the value that it was written for. -/
theorem Schema.ofJson_toJson {α : Type} {s : Schema α} (hs : s.legible = true) (a : α) :
    s.ofJson (s.toJson a) = .ok a := by
  have hread := s.read_print hs a [] endsNumber_nil
  rw [List.append_nil] at hread
  rw [Schema.ofJson, Schema.toJson, parse, String.toList_ofList, hread]
  rfl

/-! ## All written forms of a type -/

/-- No value of a type changes on its way through the written forms. -/
structure Schema.Lossless {α : Type} (s : Schema α) : Prop where
  json : ∀ a, s.ofJson (s.toJson a) = .ok a
  binary : ∀ a, s.Fits a → s.decode (s.encode a) = .ok (a, [])
  /-- Binary data that is read, written as JSON, and read and written once more, is as before. -/
  recoded : ∀ bs a rest, s.decode bs = .ok (a, rest) →
    ∃ b, s.ofJson (s.toJson a) = .ok b ∧ bs = s.encode b ++ rest

/-- A type is lossless if its schema passes two checks, which can be evaluated. -/
theorem Schema.Lossless.of_legible {α : Type} {s : Schema α} (hlegible : s.legible = true)
    (hnumbered : s.numbered = true) : s.Lossless where
  json a := ofJson_toJson hlegible a
  binary a hfits := by
    have hread := s.decode_encode hnumbered a hfits []
    rwa [List.append_nil] at hread
  recoded bs a rest hread :=
    ⟨a, ofJson_toJson hlegible a, (s.eq_encode_of_decode bs a rest hread).2⟩

/-- **Nothing is lost in the JSON form**, whichever type a value has: texts of any characters, whole
numbers of up to 64 bits, byte strings, and values that are absent. -/
theorem transmitted_types_lossless :
    Address.schema.Lossless ∧ Transport.schema.Lossless ∧
    Envelope.schema.Lossless ∧ Payload.schema.Lossless ∧ AppMessage.schema.Lossless ∧
    MailboxMeta.schema.Lossless ∧ Handshake.schema.Lossless ∧ Ping.schema.Lossless ∧
    Pong.schema.Lossless ∧ CloseReason.schema.Lossless ∧ Direction.schema.Lossless ∧
    NodeSettings.schema.Lossless ∧ RegistrySettings.schema.Lossless ∧
    (∀ parallelism, (ServiceSettings.schema parallelism).Lossless) ∧
    SealedData.schema.Lossless ∧ SealedMessage.schema.Lossless ∧ MailboxEntry.schema.Lossless ∧
    AuthenticatedData.schema.Lossless ∧ Broadcast.schema.Lossless ∧
    DeliveryStatus.schema.Lossless ∧ VerifyingKey.schema.Lossless ∧ Signature.schema.Lossless ∧
    PublicIdentity.schema.Lossless :=
  ⟨.of_legible rfl rfl, .of_legible rfl rfl, .of_legible rfl rfl, .of_legible rfl rfl,
    .of_legible rfl rfl, .of_legible rfl rfl, .of_legible rfl rfl, .of_legible rfl rfl,
    .of_legible rfl rfl, .of_legible rfl rfl, .of_legible rfl rfl, .of_legible rfl rfl,
    .of_legible rfl rfl, fun _ => .of_legible rfl rfl, .of_legible rfl rfl, .of_legible rfl rfl,
    .of_legible rfl rfl, .of_legible rfl rfl, .of_legible rfl rfl, .of_legible rfl rfl,
    .of_legible rfl rfl, .of_legible rfl rfl, .of_legible rfl rfl⟩

/-- A message with every kind of character, the largest numbers, and a byte string. -/
theorem transmitted_types_lossless_sample :
    let e : Envelope := ⟨1, .application ⟨"\"\\/\n\x01", "clé 😀", [0, 127, 255],
      some ⟨18446744073709551615, 255, ""⟩, true⟩⟩
    Envelope.schema.Fits e ∧ Envelope.schema.ofJson (Envelope.schema.toJson e) = .ok e ∧
      Envelope.schema.decode (Envelope.schema.encode e) = .ok (e, []) := by
  intro e
  have hfits : Envelope.schema.Fits e :=
    Envelope.schema.fits_of_encodedSize_lt e (by decide +kernel)
  obtain ⟨-, -, henvelope, -⟩ := transmitted_types_lossless
  exact ⟨hfits, henvelope.json e, henvelope.binary e hfits⟩

end Courier
