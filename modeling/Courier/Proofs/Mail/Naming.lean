import Courier.Proofs.Inbox.Contents
import Courier.Proofs.Json.Lossless
import Courier.Proofs.Mail.Opening

/-!
# Courier — ids and the keys that they name

The id of an identity shows the front of a hash of both public keys, and a receiver looks its key
pairs up by their ids. An identity that is made from keys has the id of these keys. One that is read
has the id that was written, and nothing compares that with the keys. A message that is sealed for
an identity is encrypted for the owner of its keys and carries its id. So the owner is found just if
the id is that of the keys, and otherwise the message passes for one that is sealed for somebody
else.

Main results:

* `Hex.isLowerForm_iff` — bytes have one form in lower-case digits;
* `PublicIdentity.isNamed_iff` — which id names the keys of an identity;
* `SealedMessage.owner_found_iff_named` — whose messages find their owner, of all identities;
* `SealedMessage.not_every_identity_named` — one that was read and is not named.
-/

namespace Courier.Hex

-- ---------------------------------------------------------------------------
-- Lower-case digits
-- ---------------------------------------------------------------------------

def IsLowerDigit (c : Char) : Prop := ('0' ≤ c ∧ c ≤ '9') ∨ ('a' ≤ c ∧ c ≤ 'f')

instance (c : Char) : Decidable (IsLowerDigit c) := inferInstanceAs (Decidable (_ ∨ _))

/-- A text shows some bytes in lower-case digits. -/
structure IsLowerForm (s : String) (bs : Bytes) : Prop where
  denotes : decode? s = some bs
  lower : ∀ c ∈ s.toList, IsLowerDigit c

/-- Ids are written in lower case. -/
theorem isLowerDigit_digit {n : Nat} (h : n < 16) : IsLowerDigit (digit n) := by
  have hall : ∀ m : Fin 16, IsLowerDigit (digit m.val) := by decide
  exact hall ⟨n, h⟩

/-- A lower-case digit is the one that is written for its value. -/
theorem digit_of_value? {c : Char} {n : Nat} (hlower : IsLowerDigit c) (h : value? c = some n) :
    n < 16 ∧ digit n = c := by
  have hchar {k : Nat} (hk : k = c.toNat) : Char.ofNat k = c := by rw [hk, Char.ofNat_toNat]
  rw [value?] at h
  split_ifs at h with hdecimal hletter
  · cases h
    have hfirst : 48 ≤ c.toNat := hdecimal.1
    have hlast : c.toNat ≤ 57 := hdecimal.2
    exact ⟨by omega, by rw [digit, if_pos (by omega), hchar (by omega)]⟩
  · cases h
    have hfirst : 97 ≤ c.toNat := hletter.1
    have hlast : c.toNat ≤ 102 := hletter.2
    exact ⟨by omega, by rw [digit, if_neg (by omega), hchar (by omega)]⟩
  · exact (hlower.elim hdecimal hletter).elim

/-- Each byte is written with two digits, the high one first. -/
theorem encodeChars_cons (b : UInt8) (bs : Bytes) :
    encodeChars (b :: bs) = digit (b.toNat / 16) :: digit (b.toNat % 16) :: encodeChars bs :=
  rfl

/-- Two digits are read as one byte. -/
theorem decodeChars?_eq_some {h l : Char} {cs : List Char} {bs : Bytes} :
    decodeChars? (h :: l :: cs) = some bs ↔
      ∃ high low rest, value? h = some high ∧ value? l = some low ∧ decodeChars? cs = some rest ∧
        bs = UInt8.ofNat (16 * high + low) :: rest := by
  constructor
  · intro hdecode
    obtain ⟨high, hhigh, hdecode⟩ := Option.bind_eq_some_iff.mp hdecode
    obtain ⟨low, hlow, hdecode⟩ := Option.bind_eq_some_iff.mp hdecode
    obtain ⟨rest, hrest, hdecode⟩ := Option.bind_eq_some_iff.mp hdecode
    exact ⟨high, low, rest, hhigh, hlow, hrest, (Option.some.inj hdecode).symm⟩
  · rintro ⟨high, low, rest, hhigh, hlow, hrest, rfl⟩
    rw [decodeChars?, hhigh, hlow, hrest]
    rfl

/-- Bytes are read back from their digits. -/
theorem decodeChars?_encodeChars (bs : Bytes) : decodeChars? (encodeChars bs) = some bs := by
  induction bs with
  | nil => rfl
  | cons b bs ih =>
    have hb := b.toNat_lt
    rw [encodeChars_cons, decodeChars?_eq_some]
    refine ⟨_, _, bs, Json.value?_digit (by omega), Json.value?_digit (by omega), ih, ?_⟩
    rw [Nat.div_add_mod, UInt8.ofNat_toNat]

/-- All that is written are digits in lower case. -/
theorem isLowerDigit_of_mem {bs : Bytes} {c : Char} (h : c ∈ encodeChars bs) : IsLowerDigit c := by
  obtain ⟨b, -, hc⟩ := List.mem_flatMap.mp h
  have hb := b.toNat_lt
  rcases List.mem_pair.mp hc with rfl | rfl
  · exact isLowerDigit_digit (by omega)
  · exact isLowerDigit_digit (by omega)

/-- Lower-case digits are those that are written for what they denote. -/
theorem encodeChars_of_decodeChars? {cs : List Char} {bs : Bytes} (h : decodeChars? cs = some bs)
    (hlower : ∀ c ∈ cs, IsLowerDigit c) : encodeChars bs = cs := by
  induction cs using decodeChars?.induct generalizing bs with
  | case1 =>
    cases h
    rfl
  | case2 c d cs ih =>
    rw [List.forall_mem_cons, List.forall_mem_cons] at hlower
    obtain ⟨hc, hd, hrest⟩ := hlower
    obtain ⟨high, low, rest, hhigh, hlow, hdecode, rfl⟩ := decodeChars?_eq_some.mp h
    obtain ⟨hhigh16, hhighDigit⟩ := digit_of_value? hc hhigh
    obtain ⟨hlow16, hlowDigit⟩ := digit_of_value? hd hlow
    have hvalue : (UInt8.ofNat (16 * high + low)).toNat = 16 * high + low :=
      UInt8.toNat_ofNat_of_lt' (by show _ < 256; omega)
    have hfirst : (16 * high + low) / 16 = high := by omega
    have hsecond : (16 * high + low) % 16 = low := by omega
    rw [encodeChars_cons, hvalue, hfirst, hsecond, hhighDigit, hlowDigit, ih hdecode hrest]
  | case3 c => cases h

/-- Bytes have one form in lower-case digits, which is the one that is written. -/
theorem isLowerForm_iff {s : String} {bs : Bytes} : IsLowerForm s bs ↔ s = encode bs := by
  constructor
  · intro h
    rw [encode, encodeChars_of_decodeChars? h.denotes h.lower, String.ofList_toList]
  · rintro rfl
    have hchars : (encode bs).toList = encodeChars bs := String.toList_ofList
    refine ⟨?_, fun c hc => isLowerDigit_of_mem (hchars ▸ hc)⟩
    rw [decode?, hchars, decodeChars?_encodeChars]

end Courier.Hex

namespace Courier

-- ---------------------------------------------------------------------------
-- Named identities
-- ---------------------------------------------------------------------------

namespace PublicIdentity

variable {i : PublicIdentity}

/-- The id of an identity names its keys: it shows the first twenty bytes of the hash of both. -/
def IsNamed (i : PublicIdentity) : Prop :=
  Hex.IsLowerForm i.keyId ((sha256 (i.signingKey.bytes.bytes ++ i.encryptionKey.bytes)).take 20)

/-- An identity is named rightly if its id is the one that is computed from its keys. -/
theorem isNamed_iff : i.IsNamed ↔ i.keyId = keyIdOf i.signingKey i.encryptionKey :=
  Hex.isLowerForm_iff

/-- The keys leave no choice of a named identity. -/
theorem isNamed_iff_eq : i.IsNamed ↔ i = ofKeys i.signingKey i.encryptionKey := by
  rw [isNamed_iff]
  exact ⟨fun h => congrArg (mk i.signingKey i.encryptionKey) h, congrArg keyId⟩

/-- `new` names identities rightly. -/
theorem isNamed_ofKeys (signingKey : VerifyingKey) (encryptionKey : Block 32) :
    (ofKeys signingKey encryptionKey).IsNamed :=
  isNamed_iff.mpr rfl

/-- The named identities are those that are made from public keys. -/
theorem isNamed_iff_exists :
    i.IsNamed ↔ ∃ signingKey encryptionKey, i = ofKeys signingKey encryptionKey := by
  constructor
  · intro h
    exact ⟨i.signingKey, i.encryptionKey, isNamed_iff_eq.mp h⟩
  · rintro ⟨signingKey, encryptionKey, rfl⟩
    exact isNamed_ofKeys signingKey encryptionKey

/-- An identity that was made from keys can be written. -/
theorem fits_ofKeys (signingKey : VerifyingKey) (encryptionKey : Block 32) :
    schema.Fits (ofKeys signingKey encryptionKey) := by
  have hkeyId : (Bytes.ofText (keyIdOf signingKey encryptionKey)).length < UInt64.size :=
    Nat.lt_of_le_of_lt (length_keyIdOf_le _ _) (by decide)
  exact ⟨⟨trivial, trivial⟩, trivial, hkeyId, trivial⟩

/-- Binary data is that of a named identity just if it was read as one. -/
theorem isNamed_iff_of_decode {bs rest : Bytes} (h : schema.decode bs = .ok (i, rest)) :
    i.IsNamed ↔ bs = schema.encode (ofKeys i.signingKey i.encryptionKey) ++ rest := by
  constructor
  · intro hnamed
    rw [← isNamed_iff_eq.mp hnamed]
    exact (Schema.eq_encode_of_decode _ bs i rest h).2
  · rintro rfl
    rw [Schema.decode_encode _ rfl _ (fits_ofKeys _ _), Except.ok.injEq, Prod.mk.injEq] at h
    exact isNamed_iff_eq.mpr h.1.symm

/-- The ways in which an identity gets into a program: from a key pair, from public keys, and out of
its written forms. -/
inductive Obtained : PublicIdentity → Prop where
  | ofPair (k : KeyPair) : Obtained k.identity
  | ofKeys (signingKey : VerifyingKey) (encryptionKey : Block 32) :
      Obtained (ofKeys signingKey encryptionKey)
  | ofJson {text : String} {i : PublicIdentity} (h : schema.ofJson text = .ok i) : Obtained i
  | ofBinary {bs rest : Bytes} {i : PublicIdentity} (h : schema.decode bs = .ok (i, rest)) :
      Obtained i

/-- Whatever its id is, an identity is read from its JSON form. -/
theorem obtained (i : PublicIdentity) : i.Obtained := .ofJson (Schema.ofJson_toJson rfl i)

end PublicIdentity

-- ---------------------------------------------------------------------------
-- Owners and their stores
-- ---------------------------------------------------------------------------

namespace KeyPair

variable {k : KeyPair} {i : PublicIdentity} {keyPair? : String → Option KeyPair}

/-- The two public keys of an identity are those of a pair. -/
structure Owns (k : KeyPair) (i : PublicIdentity) : Prop where
  signingKey : k.signingKey = i.signingKey
  encryptionKey : k.encryptionKey = i.encryptionKey

/-- An identity is named rightly if it has the id of its owner. -/
theorem Owns.isNamed_iff (h : k.Owns i) : i.IsNamed ↔ i.keyId = k.keyId := by
  rw [PublicIdentity.isNamed_iff, ← h.signingKey, ← h.encryptionKey]
  rfl

/-- A pair is among those that a store finds by their ids. -/
structure IsKeptIn (k : KeyPair) (keyPair? : String → Option KeyPair) : Prop where
  found : keyPair? k.keyId = some k
  byId : ∀ {id : String} {other : KeyPair}, keyPair? id = some other → other.keyId = id

/-- A key store finds a pair under its own id only. -/
theorem IsKeptIn.finds_iff (h : k.IsKeptIn keyPair?) {id : String} :
    keyPair? id = some k ↔ id = k.keyId := by
  constructor
  · intro hfound
    exact (h.byId hfound).symm
  · rintro rfl
    exact h.found

/-- The store that keeps one pair. -/
def only (k : KeyPair) (id : String) : Option KeyPair := if id = k.keyId then some k else none

/-- A store of one pair keeps it. -/
theorem isKeptIn_only (k : KeyPair) : k.IsKeptIn k.only where
  found := if_pos rfl
  byId {id other} h := by
    rw [only] at h
    split_ifs at h with hid
    cases h
    exact hid.symm

end KeyPair

namespace SealedMessage

variable {i : PublicIdentity} {owner sender : KeyPair} {payload : Payload} {random : Randomness}
  {m : SealedMessage}

/-- A message passes for one of somebody else just if no key pair is found. -/
theorem answer_eq_ok_false_iff {keyPair? : String → Option KeyPair} :
    m.answer keyPair? = .ok false ↔ keyPair? m.receiverKeyId = none := by
  rw [answer]
  cases keyPair? m.receiverKeyId with
  | none => exact ⟨fun _ => rfl, fun _ => rfl⟩
  | some owner =>
    dsimp only
    cases m.payloadFor owner <;> exact ⟨nofun, nofun⟩

/-- A message is for somebody else if it names another id. -/
theorem answer_only_iff : m.answer owner.only = .ok false ↔ m.receiverKeyId ≠ owner.keyId := by
  rw [answer_eq_ok_false_iff, KeyPair.only]
  split_ifs with h
  · exact ⟨nofun, fun hne => absurd h hne⟩
  · exact ⟨fun _ => h, fun _ => rfl⟩

/-- What is sealed for an identity carries the id of the owner of its keys just if it is named. -/
theorem receiverKeyId_eq_iff (howner : owner.Owns i)
    (hseal : ofPayload payload i sender random = .ok m) :
    m.receiverKeyId = owner.keyId ↔ i.IsNamed := by
  rw [(ofPayload_eq_ok hseal).1]
  exact howner.isNamed_iff.symm

/-- **A message finds its owner just if the identity that it was sealed for is named.** The
identities of key pairs are named, and no others than those that are made from public keys. One that
is read, as JSON or as binary data, has the id that was written, whatever it is; so it is named just
if it was read from a form of the named identity. What is sealed for an identity carries the id of
the owner of its keys, and the owner is found in every store that keeps its pair, just if the
identity is named; otherwise the owner takes the message for one that is sealed for somebody
else. -/
theorem owner_found_iff_named (i : PublicIdentity) :
    (∀ k : KeyPair, i = k.identity → k.Owns i ∧ i.IsNamed) ∧
    (i.IsNamed ↔ ∃ signingKey encryptionKey, i = .ofKeys signingKey encryptionKey) ∧
    (PublicIdentity.schema.ofJson (PublicIdentity.schema.toJson i) = .ok i ∧
      ∀ text, PublicIdentity.schema.ofJson text = .ok i →
        (i.IsNamed ↔ PublicIdentity.schema.ofJson text =
          .ok (.ofKeys i.signingKey i.encryptionKey))) ∧
    (∀ rest,
      (PublicIdentity.schema.Fits i →
        PublicIdentity.schema.decode (PublicIdentity.schema.encode i ++ rest) = .ok (i, rest)) ∧
      ∀ bs, PublicIdentity.schema.decode bs = .ok (i, rest) →
        (i.IsNamed ↔ bs = PublicIdentity.schema.encode
          (.ofKeys i.signingKey i.encryptionKey) ++ rest)) ∧
    (∀ (owner sender : KeyPair) (payload : Payload) (random : Randomness) (m : SealedMessage),
      owner.Owns i → ofPayload payload i sender random = .ok m →
      (m.receiverKeyId = owner.keyId ↔ i.IsNamed) ∧
      (∀ keyPair? : String → Option KeyPair, owner.IsKeptIn keyPair? →
        (keyPair? m.receiverKeyId = some owner ↔ i.IsNamed)) ∧
      (m.answer owner.only = .ok false ↔ ¬i.IsNamed)) := by
  refine ⟨?_, PublicIdentity.isNamed_iff_exists,
    ⟨Schema.ofJson_toJson rfl i, fun text hread => ?_⟩,
    fun rest => ⟨fun hfits => Schema.decode_encode _ rfl i hfits rest,
      fun bs hread => PublicIdentity.isNamed_iff_of_decode hread⟩,
    fun owner sender payload random m howner hseal => ?_⟩
  · rintro k rfl
    exact ⟨⟨rfl, rfl⟩, PublicIdentity.isNamed_ofKeys _ _⟩
  · rw [hread, Except.ok.injEq]
    exact PublicIdentity.isNamed_iff_eq
  · have hcarried : m.receiverKeyId = owner.keyId ↔ i.IsNamed := receiverKeyId_eq_iff howner hseal
    refine ⟨hcarried, fun keyPair? hkept => hkept.finds_iff.trans hcarried, ?_⟩
    rw [answer_only_iff]
    exact not_congr hcarried

open SealedData (Sample.sender Sample.receiver Sample.random Sample.payload Sample.data
  Sample.data_sealed)

/-- The identity of the receiver, read from its forms, and the sample that was sealed for it. -/
theorem owner_found_iff_named_sample :
    let i := Sample.receiver.identity
    let m : SealedMessage := ⟨Sample.data, i.keyId⟩
    let form := PublicIdentity.schema.encode i ++ [7]
    i.IsNamed ∧
      PublicIdentity.schema.ofJson (PublicIdentity.schema.toJson i) =
        .ok (.ofKeys i.signingKey i.encryptionKey) ∧
      PublicIdentity.schema.decode form = .ok (i, [7]) ∧
      form = PublicIdentity.schema.encode (.ofKeys i.signingKey i.encryptionKey) ++ [7] ∧
      ofPayload Sample.payload i Sample.sender Sample.random = .ok m ∧
      Sample.receiver.only m.receiverKeyId = some Sample.receiver ∧
      m.answer Sample.receiver.only ≠ .ok false := by
  intro i m form
  obtain ⟨pairs, -, json, binary, messages⟩ := owner_found_iff_named i
  obtain ⟨howns, hnamed⟩ := pairs Sample.receiver rfl
  have hdecode : PublicIdentity.schema.decode form = .ok (i, [7]) :=
    (binary [7]).1 (PublicIdentity.fits_ofKeys _ _)
  have hseal : ofPayload Sample.payload i Sample.sender Sample.random = .ok m := by
    rw [ofPayload, Sample.data_sealed]
  obtain ⟨-, hfound, hanswer⟩ :=
    messages Sample.receiver Sample.sender Sample.payload Sample.random m howns hseal
  exact ⟨hnamed, (json.2 _ json.1).mp hnamed, hdecode,
    ((binary [7]).2 form hdecode).mp hnamed, hseal,
    (hfound _ Sample.receiver.isKeptIn_only).mpr hnamed,
    fun hlost => hanswer.mp hlost hnamed⟩

/-- The keys of the receiver under the id of the sender. -/
def misnamed : PublicIdentity :=
  ⟨Sample.receiver.signingKey, Sample.receiver.encryptionKey, Sample.sender.keyId⟩

/-- Not every identity that a program can hold is named. The misnamed one is read from its JSON
form, and what is sealed for it is for the receiver to open, who takes it for a message to somebody
else. -/
theorem not_every_identity_named :
    PublicIdentity.schema.ofJson (PublicIdentity.schema.toJson misnamed) = .ok misnamed ∧
      Sample.receiver.Owns misnamed ∧
      ofPayload Sample.payload misnamed Sample.sender Sample.random =
        .ok ⟨Sample.data, Sample.sender.keyId⟩ ∧
      (⟨Sample.data, Sample.sender.keyId⟩ : SealedMessage).answer Sample.receiver.only =
        .ok false ∧
      ¬ ∀ i : PublicIdentity, i.Obtained → i.IsNamed := by
  have howns : Sample.receiver.Owns misnamed := ⟨rfl, rfl⟩
  have hother : Sample.sender.keyId ≠ Sample.receiver.keyId := by decide +kernel
  have hkey : misnamed.encryptionKey = Sample.receiver.identity.encryptionKey := rfl
  have hsealed : SealedData.ofPlaintext (Payload.schema.encode Sample.payload) misnamed
      Sample.sender Sample.random = .ok Sample.data :=
    (SealedData.ofPlaintext_congr hkey).trans Sample.data_sealed
  refine ⟨Schema.ofJson_toJson rfl misnamed, howns, ?_, answer_only_iff.mpr hother,
    fun hnamed => ?_⟩
  · rw [ofPayload, hsealed]
    rfl
  · exact hother (howns.isNamed_iff.mp (hnamed misnamed misnamed.obtained))

end SealedMessage

end Courier
