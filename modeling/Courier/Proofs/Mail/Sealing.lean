import Courier.Mail.Sealing
import Courier.Proofs.Frames
import Courier.Proofs.Mail.Ciphers

/-!
# Courier — what is sealed is what is opened

Two laws of the primitives are assumed, and only for the keys and bytes of the message at hand: the
two sides of an agreement compute the same secret (`Randomness.AgreesWith`), and a signature verifies
under the public key of its signer (`KeyPair.Vouches`). From these alone, a payload comes out of a
sealed message as it went in, with the key of its sender, also after the message has travelled in a
frame or lain in a store.

The signature covers the ephemeral key and the ciphertext, and the message key depends on the
ephemeral key and the receiver. Neither covers the key of the sender. So the same ciphertext opens
under any key whose owner signs it, and the key that is handed on is that of the last signer.

* `SealedData.ofPlaintext_eq_ok` — what sealing yields;
* `SealedData.plaintextFor_of_ciphertext` — what opens, of all data with one ciphertext;
* `SealedMessage.sealed_payload_opens` — a payload comes back, on every way;
* `SealedMessage.not_read_at_any_size` — but not in a frame that is too large for its header;
* `SealedData.opens_just_when_signed` — whose key is handed on;
* `SealedData.not_bound_to_author` — which need not be the author's.
-/

namespace Courier

/-- Outcomes are compared by what they hold. -/
instance decidableEqExcept {ε α : Type} [DecidableEq ε] [DecidableEq α] :
    DecidableEq (Except ε α)
  | .ok a, .ok b => decidable_of_iff (a = b) ⟨congrArg _, Except.ok.inj⟩
  | .error a, .error b => decidable_of_iff (a = b) ⟨congrArg _, Except.error.inj⟩
  | .ok _, .error _ => isFalse nofun
  | .error _, .ok _ => isFalse nofun

-- ---------------------------------------------------------------------------
-- The laws of the primitives
-- ---------------------------------------------------------------------------

/-- The receiver of a message and its sender, who made a key for it, compute the same secret. -/
def Randomness.AgreesWith (random : Randomness) (receiver : KeyPair) : Prop :=
  X25519.agree receiver.encryptionSecret (X25519.publicKey random.ephemeral) =
    X25519.agree random.ephemeral receiver.encryptionKey

/-- The signature of a pair on some bytes verifies under its public key. -/
def KeyPair.Vouches (k : KeyPair) (bytes : Bytes) : Prop :=
  Ed25519.verify k.signingKey bytes (k.sign bytes) = true

namespace SealedData

variable {plaintext : Bytes} {receiver sender : KeyPair} {random : Randomness} {d d' : SealedData}

-- ---------------------------------------------------------------------------
-- Sealed data
-- ---------------------------------------------------------------------------

/-- What sealing yields: the plaintext under the key of the message, and the sender's signature. -/
theorem ofPlaintext_eq_ok {identity : PublicIdentity}
    (h : ofPlaintext plaintext identity sender random = .ok d) :
    d.senderKey = sender.signingKey ∧ d.ephemeralKey = X25519.publicKey random.ephemeral ∧
      d.signature = sender.sign (signedBytes d.ephemeralKey d.ciphertext) ∧
      ∃ shared, sharedSecret random.ephemeral identity.encryptionKey = .ok shared ∧
        (messageKey shared d.ephemeralKey identity.encryptionKey).encrypt random.nonce plaintext =
          .ok d.ciphertext := by
  obtain ⟨shared, hshared, h⟩ := bind_inv h
  obtain ⟨ciphertext, hencrypt, h⟩ := bind_inv h
  cases h
  exact ⟨rfl, rfl, rfl, shared, hshared, hencrypt⟩

/-- Whether a plaintext can be sealed depends on its length and on the secret that is shared. -/
theorem exists_ofPlaintext {identity : PublicIdentity} {shared : Block 32} (sender : KeyPair)
    (hshared : sharedSecret random.ephemeral identity.encryptionKey = .ok shared)
    (hfits : XChaCha20Poly1305.fits plaintext.length = true) :
    ∃ d, ofPlaintext plaintext identity sender random = .ok d := by
  obtain ⟨ciphertext, hencrypt⟩ := SymmetricKey.exists_encrypt
    (messageKey shared (X25519.publicKey random.ephemeral) identity.encryptionKey) random.nonce hfits
  simp only [ofPlaintext, hshared, ok_bind, hencrypt]
  exact ⟨_, rfl⟩

/-- Only the look at the signature depends on the key of the sender. -/
theorem plaintextFor_eq (d : SealedData) (receiver : KeyPair) :
    d.plaintextFor receiver =
      if d.isSigned then
        receiver.agree d.ephemeralKey >>= fun shared =>
          (messageKey shared d.ephemeralKey receiver.encryptionKey).decrypt d.ciphertext
      else .error .invalidSignature := by
  unfold plaintextFor
  cases d.isSigned <;> rfl

/-- The receiver derives the key that the sender encrypted with. -/
theorem agree_eq (h : random.AgreesWith receiver) :
    receiver.agree (X25519.publicKey random.ephemeral) =
      sharedSecret random.ephemeral receiver.encryptionKey := by
  have hagree : X25519.agree receiver.encryptionSecret (X25519.publicKey random.ephemeral) =
      X25519.agree random.ephemeral receiver.encryptionKey := h
  rw [KeyPair.agree, sharedSecret, sharedSecret, hagree]

/-- All data with the ephemeral key and the ciphertext of a message holds the plaintext of the
message, whoever it names as sender, and opens if it is signed. -/
theorem plaintextFor_of_ciphertext
    (hseal : ofPlaintext plaintext receiver.identity sender random = .ok d)
    (hagree : random.AgreesWith receiver) (hkey : d'.ephemeralKey = d.ephemeralKey)
    (htext : d'.ciphertext = d.ciphertext) :
    d'.plaintextFor receiver = if d'.isSigned then .ok plaintext else .error .invalidSignature := by
  obtain ⟨-, hephemeral, -, shared, hshared, hencrypt⟩ := ofPlaintext_eq_ok hseal
  have hsame : receiver.agree d'.ephemeralKey = .ok shared := by
    rw [hkey, hephemeral, agree_eq hagree]
    exact hshared
  have hopen : (messageKey shared d'.ephemeralKey receiver.encryptionKey).decrypt d'.ciphertext =
      .ok plaintext := by
    rw [hkey, htext]
    exact SymmetricKey.decrypt_encrypt hencrypt
  rw [plaintextFor_eq, hsame, ok_bind, hopen]

/-- What was sealed opens. -/
theorem plaintextFor_ofPlaintext
    (hseal : ofPlaintext plaintext receiver.identity sender random = .ok d)
    (hagree : random.AgreesWith receiver)
    (hsign : sender.Vouches (signedBytes d.ephemeralKey d.ciphertext)) :
    d.plaintextFor receiver = .ok plaintext := by
  obtain ⟨hsender, -, hsignature, -⟩ := ofPlaintext_eq_ok hseal
  have hsigned : d.isSigned = true := by
    rw [isSigned, hsender, hsignature]
    exact hsign
  rw [plaintextFor_of_ciphertext hseal hagree rfl rfl, if_pos hsigned]

/-- The same ephemeral key and ciphertext, signed by the owner of another pair. -/
def signedBy (d : SealedData) (k : KeyPair) : SealedData :=
  { d with
    senderKey := k.signingKey
    signature := k.sign (signedBytes d.ephemeralKey d.ciphertext) }

/-- Whoever signs the ephemeral key and the ciphertext takes the place of the sender. -/
theorem plaintextFor_signedBy
    (hseal : ofPlaintext plaintext receiver.identity sender random = .ok d)
    (hagree : random.AgreesWith receiver) {other : KeyPair}
    (hsign : other.Vouches (signedBytes d.ephemeralKey d.ciphertext)) :
    (d.signedBy other).plaintextFor receiver = .ok plaintext := by
  have hsigned : (d.signedBy other).isSigned = true := hsign
  have hkey : (d.signedBy other).ephemeralKey = d.ephemeralKey := rfl
  rw [plaintextFor_of_ciphertext hseal hagree hkey rfl, if_pos hsigned]

end SealedData

-- ---------------------------------------------------------------------------
-- A message to look at
-- ---------------------------------------------------------------------------

namespace SealedData.Sample

def sender : KeyPair := ⟨.ofNat 32 1, .ofNat 32 8⟩

def receiver : KeyPair := ⟨.ofNat 32 2, .ofNat 32 16⟩

/-- Somebody who sees the message on its way. -/
def outsider : KeyPair := ⟨.ofNat 32 3, .ofNat 32 24⟩

def random : Randomness := ⟨.ofNat 32 32, .ofNat 24 5⟩

def payload : Payload := .ping ⟨7⟩

/-- The payload, sealed. -/
def data : SealedData where
  senderKey := ⟨.ofNat 32 0xfcd43b685d06dfe696d6731b4d04b9ad95f08808291c959572dd1ddc0715ccce⟩
  ephemeralKey := .ofNat 32 0x32f4eb9f96c58cf447b3544acc903d541eb268e4d9fceed98f25127eef4b520f
  ciphertext := [2, 5, 0, 0, 0, 0, 0, 0, 0, 0, 0, 0, 0, 0, 0, 0, 0, 0, 0, 0, 0, 0, 0, 0, 0, 191, 180,
    142, 57, 87, 247, 156, 44, 127, 238, 155, 61, 23, 118, 3, 5, 121, 30, 176, 30, 123, 164, 23,
    140, 212, 124, 30, 205]
  signature := ⟨.ofNat 64
    (0x9ea58e375ce526a2cf3d57f435f9ef5aae5c80085ae3880dff6fff33e246a5a <<< 256 +
      0x62b90a4c1dea8ccfa55f16606d03eaf43e5a0b109079db78a8a68648dc47ba91)⟩

/-- The sample is what sealing its payload yields. -/
theorem data_sealed :
    ofPlaintext (Payload.schema.encode payload) receiver.identity sender random = .ok data := by
  decide +kernel

/-- Both sides of the sample agree on their secret. -/
theorem agrees : random.AgreesWith receiver := by
  have hsecret : X25519.multiply (X25519.scalar receiver.encryptionSecret)
        (X25519.coordinate (X25519.publicKey random.ephemeral)) =
      X25519.multiply (X25519.scalar random.ephemeral)
        (X25519.coordinate receiver.encryptionKey) := by
    decide +kernel
  exact congrArg (Block.ofNat 32) hsecret

/-- The signature of the outsider verifies. -/
theorem outsider_vouches : outsider.Vouches (signedBytes data.ephemeralKey data.ciphertext) := by
  show Ed25519.verify _ _ _ = true
  decide +kernel

end SealedData.Sample

-- ---------------------------------------------------------------------------
-- Sealed messages
-- ---------------------------------------------------------------------------

/-- A key id is short: it shows the front of a hash. -/
theorem length_keyIdOf_le (signingKey : VerifyingKey) (encryptionKey : Block 32) :
    (Bytes.ofText (keyIdOf signingKey encryptionKey)).length ≤ 8 * keyIdSize := by
  have hfront : ((sha256 (signingKey.bytes.bytes ++ encryptionKey.bytes)).take keyIdSize).length ≤
      keyIdSize := List.length_take_le _ _
  have htext := Utf8.length_ofText_ofList_le (Hex.encodeChars
    ((sha256 (signingKey.bytes.bytes ++ encryptionKey.bytes)).take keyIdSize))
  rw [Hex.length_encodeChars] at htext
  rw [keyIdOf, Hex.encode]
  omega

namespace SealedMessage

variable {payload : Payload} {receiver sender : KeyPair} {random : Randomness} {m : SealedMessage}

/-- `seal` encrypts and signs the form of the payload, and names the key pair of the receiver. -/
theorem ofPayload_eq_ok {identity : PublicIdentity}
    (h : ofPayload payload identity sender random = .ok m) :
    m.receiverKeyId = identity.keyId ∧
      SealedData.ofPlaintext (Payload.schema.encode payload) identity sender random =
        .ok m.data := by
  rw [ofPayload] at h
  split at h
  next data hdata =>
    cases h
    exact ⟨rfl, hdata⟩
  next => cases h

/-- The form of a payload that was sealed is far below the length that a codec can write. -/
theorem fits_of_sealed (hseal : ofPayload payload receiver.identity sender random = .ok m) :
    Payload.schema.Fits payload ∧ schema.Fits m := by
  obtain ⟨hid, hdata⟩ := ofPayload_eq_ok hseal
  obtain ⟨-, -, -, shared, -, hencrypt⟩ := SealedData.ofPlaintext_eq_ok hdata
  obtain ⟨hshort, hlength⟩ := SymmetricKey.length_encrypt hencrypt
  have h38 : (1 <<< 38 : Nat) + 41 < UInt64.size := by decide
  have hciphertext : m.data.ciphertext.length < UInt64.size := by
    have hextra : 1 + SymmetricKey.nonceSize + XChaCha20Poly1305.codeSize = 41 := rfl
    omega
  have hsignature : (Base64.encodeBytes m.data.signature.bytes.bytes).length < UInt64.size := by
    rw [Base64.length_encodeBytes, m.data.signature.bytes.length_bytes]
    decide
  have hkeyId : (Bytes.ofText m.receiverKeyId).length < UInt64.size := by
    rw [hid]
    exact Nat.lt_of_le_of_lt (length_keyIdOf_le _ _) (by decide)
  exact ⟨Payload.schema.fits_of_encodedSize_lt payload (by omega),
    ⟨⟨trivial, trivial⟩, trivial, hciphertext, ⟨hsignature, trivial⟩, trivial⟩, hkeyId, trivial⟩

/-- A payload that was sealed comes out again, with the key of its sender. -/
theorem payloadFor_ofPayload (hseal : ofPayload payload receiver.identity sender random = .ok m)
    (hagree : random.AgreesWith receiver)
    (hsign : sender.Vouches (SealedData.signedBytes m.data.ephemeralKey m.data.ciphertext)) :
    m.payloadFor receiver = .ok (payload, sender.signingKey) := by
  obtain ⟨-, hdata⟩ := ofPayload_eq_ok hseal
  obtain ⟨hsender, -⟩ := SealedData.ofPlaintext_eq_ok hdata
  have hplain := SealedData.plaintextFor_ofPlaintext hdata hagree hsign
  have hdecode : Payload.schema.decode (Payload.schema.encode payload) = .ok (payload, []) := by
    rw [Schema.decode_eq_ok_iff rfl]
    exact ⟨(fits_of_sealed hseal).1, (List.append_nil _).symm⟩
  rw [payloadFor, hplain]
  dsimp only
  rw [hdecode, hsender]

/-- **A sealed payload comes back**, for every payload that can be sealed, all keys and all random
values. The message names the key pair of its receiver, and opens with it to the payload and the key
of the sender. A frame of the message, anywhere in a stream that is read in pieces of any size,
brings the message back, provided that the four bytes of a frame can tell its size; and so does the
form of a mailbox entry. -/
theorem sealed_payload_opens
    (hseal : ofPayload payload receiver.identity sender random = .ok m)
    (hagree : random.AgreesWith receiver)
    (hsign : sender.Vouches (SealedData.signedBytes m.data.ephemeralKey m.data.ciphertext)) :
    m.receiverKeyId = receiver.keyId ∧
    m.payloadFor receiver = .ok (payload, sender.signingKey) ∧
    (∀ (max : Nat) (frame : Bytes),
      Frame.encode (.ofPayload (.confidential m)) max = .ok frame →
      (Envelope.ofPayload (.confidential m)).size < UInt32.size →
      ∀ (s : Source) (rest : Bytes), s.Steady → s.data = frame ++ rest →
        ∃ size plan, Frame.read max s =
          (.ok (some ⟨.ofPayload (.confidential m), size⟩), ⟨rest, plan, s.dry⟩)) ∧
    (∀ (metaData : MailboxMeta) (createdMs : UInt64) (rest : Bytes),
      MailboxMeta.schema.Fits metaData →
      MailboxEntry.schema.decode (MailboxEntry.schema.encode ⟨m, metaData, createdMs⟩ ++ rest) =
        .ok (⟨m, metaData, createdMs⟩, rest)) := by
  refine ⟨(ofPayload_eq_ok hseal).1, payloadFor_ofPayload hseal hagree hsign, ?_, ?_⟩
  · intro max frame hframe hsize s rest hs hdata
    obtain ⟨hmax, rfl⟩ := Frame.eq_ofEnvelope_of_encode hframe
    obtain ⟨plan, -, hread⟩ := Frame.read_append hmax hsize hs hdata
    exact ⟨_, plan, hread⟩
  · intro metaData createdMs rest hmeta
    rw [Schema.decode_eq_ok_iff rfl]
    exact ⟨⟨(fits_of_sealed hseal).2, hmeta, trivial, trivial⟩, rfl⟩

open SealedData in
/-- A probe that is sealed, framed with another frame behind it, and stored. -/
theorem sealed_payload_opens_sample :
    let m : SealedMessage := ⟨Sample.data, Sample.receiver.keyId⟩
    let frame := Frame.ofEnvelope (.ofPayload (.confidential m))
    ofPayload Sample.payload Sample.receiver.identity Sample.sender Sample.random = .ok m ∧
      Sample.random.AgreesWith Sample.receiver ∧
      Sample.sender.Vouches (signedBytes m.data.ephemeralKey m.data.ciphertext) ∧
      m.payloadFor Sample.receiver = .ok (Sample.payload, Sample.sender.signingKey) ∧
      (∃ size plan, Frame.read 512 ⟨frame ++ [0, 0], [.atMost 3, .atMost 1], .ended⟩ =
        (.ok (some ⟨.ofPayload (.confidential m), size⟩), ⟨[0, 0], plan, .ended⟩)) ∧
      MailboxEntry.schema.decode (MailboxEntry.schema.encode ⟨m, .ofClass "Offer", 17⟩ ++ []) =
        .ok (⟨m, .ofClass "Offer", 17⟩, []) := by
  intro m frame
  have hseal : ofPayload Sample.payload Sample.receiver.identity Sample.sender Sample.random =
      .ok m := by
    rw [ofPayload, Sample.data_sealed]
    rfl
  have hsign : Sample.sender.Vouches (signedBytes m.data.ephemeralKey m.data.ciphertext) := by
    show Ed25519.verify _ _ _ = true
    decide +kernel
  obtain ⟨-, hopen, hframe, hentry⟩ := sealed_payload_opens hseal Sample.agrees hsign
  have hsize : (Envelope.ofPayload (.confidential m)).size ≤ 512 := by decide +kernel
  have hsteady : (⟨frame ++ [0, 0], [.atMost 3, .atMost 1], .ended⟩ : Source).Steady := by
    intro step hstep
    rcases List.mem_cons.mp hstep with rfl | hstep
    · exact Nat.succ_ne_zero 2
    · obtain rfl := List.mem_singleton.mp hstep
      exact Nat.succ_ne_zero 0
  refine ⟨hseal, Sample.agrees, hsign, hopen, ?_, ?_⟩
  · exact hframe 512 frame (Frame.encode_eq_ok hsize) (Nat.lt_of_le_of_lt hsize (by decide)) _ [0, 0]
      hsteady rfl
  · have hclass : (Bytes.ofText "Offer").length < UInt64.size := by decide +kernel
    exact hentry (.ofClass "Offer") 17 [] ⟨trivial, trivial, hclass, trivial⟩

/-- Around its ciphertext and the id of its receiver, the envelope of a message takes 181 bytes. -/
theorem size_confidential (m : SealedMessage) :
    (Envelope.ofPayload (.confidential m)).size =
      181 + m.data.ciphertext.length + (Bytes.ofText m.receiverKeyId).length := by
  have hsignature : (Bytes.ofText (Base64.encode m.data.signature.bytes.bytes)).length = 88 := by
    rw [Base64.ofText_encode, Base64.length_encodeBytes, m.data.signature.bytes.length_bytes]
  rw [Envelope.size, Envelope.toBytes, Envelope.ofPayload]
  simp only [Envelope.schema, Payload.schema, SealedMessage.schema, SealedData.schema,
    VerifyingKey.schema, Signature.schema, Fields.required, Schema.encode, Fields.encode,
    Cases.encode, Binary.encodeText, Binary.encodeOctets, Bytes.length_littleEndian,
    Block.length_bytes, List.length_append, List.length_cons, List.length_nil, hsignature]
  omega

/-- A body of so many bytes is sealed to a message whose envelope takes 292 bytes more. -/
theorem exists_sealed_bulk {n : Nat} (hfits : XChaCha20Poly1305.fits (30 + n) = true) :
    ∃ m, ofPayload (Frame.bulk n).payload SealedData.Sample.receiver.identity
        SealedData.Sample.sender SealedData.Sample.random = .ok m ∧
      (Envelope.ofPayload (.confidential m)).size = 292 + n := by
  have hplain : (Payload.schema.encode (Frame.bulk n).payload).length = 30 + n := by
    have hsize : (Frame.bulk n).size =
        (Payload.schema.encode (Frame.bulk n).payload ++ []).length + 1 := rfl
    rw [Frame.size_bulk, List.append_nil] at hsize
    omega
  obtain ⟨-, -, -, shared, hshared, -⟩ := SealedData.ofPlaintext_eq_ok SealedData.Sample.data_sealed
  rw [← hplain] at hfits
  obtain ⟨d, hd⟩ := SealedData.exists_ofPlaintext SealedData.Sample.sender hshared hfits
  obtain ⟨-, -, -, _, -, hencrypt⟩ := SealedData.ofPlaintext_eq_ok hd
  have hciphertext := (SymmetricKey.length_encrypt hencrypt).2
  have hid : (Bytes.ofText SealedData.Sample.receiver.keyId).length = 40 := by decide +kernel
  refine ⟨⟨d, SealedData.Sample.receiver.keyId⟩, ?_, ?_⟩
  · rw [ofPayload, hd]
    rfl
  · rw [size_confidential, hid, hciphertext, hplain]
    show 181 + (30 + n + 41) + 40 = 292 + n
    omega

open SealedData in
/-- Not every message comes out of its frame. A body of 4294967004 bytes is sealed to a message whose
envelope takes 2 ^ 32 bytes, so that the header of its frame is zero, and `read` looks for an envelope
in no bytes at all. -/
theorem not_read_at_any_size :
    ¬ ∀ (payload : Payload) (receiver sender : KeyPair) (random : Randomness) (m : SealedMessage)
        (max : UInt64) (frame : Bytes),
      ofPayload payload receiver.identity sender random = .ok m → random.AgreesWith receiver →
      Frame.encode (.ofPayload (.confidential m)) max.toNat = .ok frame →
      ∃ size s, Frame.read max.toNat (.ofBytes frame) =
        (.ok (some ⟨.ofPayload (.confidential m), size⟩), s) := by
  intro hreads
  obtain ⟨m, hseal, hsize⟩ := exists_sealed_bulk (n := 4294967004) (by decide)
  have hmax : (Envelope.ofPayload (.confidential m)).size ≤
      (18446744073709551615 : UInt64).toNat := by
    rw [hsize]
    decide
  obtain ⟨size, s, hread⟩ := hreads _ _ _ _ m 18446744073709551615 _ hseal Sample.agrees
    (Frame.encode_eq_ok hmax)
  have hheld : (Envelope.ofPayload (.confidential m)).size % UInt32.size = 0 := by
    rw [hsize]
    decide
  have hsteady : (Source.ofBytes (Frame.ofEnvelope (.ofPayload (.confidential m)))).Steady :=
    fun step hstep => nomatch hstep
  obtain ⟨plan, -, hread'⟩ := Frame.read_ofEnvelope (Nat.le_trans (Nat.le_of_eq hheld) (Nat.zero_le _))
    hsteady (List.append_nil _).symm
  obtain ⟨e, hbody⟩ : ∃ e, Frame.ofBody [] = .error e := ⟨_, rfl⟩
  rw [hread', hheld, List.take_zero, hbody] at hread
  cases hread

end SealedMessage

-- ---------------------------------------------------------------------------
-- Whose key is handed on
-- ---------------------------------------------------------------------------

namespace SealedData

/-- **Data opens just when it is signed by the owner of the key it names**: of all data with the
ephemeral key and the ciphertext of a sealed message, whatever key and signature it carries. It opens
to the plaintext of the message, and the key that is handed on with a payload is one whose owner
signed the ephemeral key and the ciphertext. -/
theorem opens_just_when_signed {plaintext : Bytes} {receiver sender : KeyPair} {random : Randomness}
    {d d' : SealedData} (hseal : ofPlaintext plaintext receiver.identity sender random = .ok d)
    (hagree : random.AgreesWith receiver) (hkey : d'.ephemeralKey = d.ephemeralKey)
    (htext : d'.ciphertext = d.ciphertext) :
    d'.plaintextFor receiver =
        (if Ed25519.verify d'.senderKey (signedBytes d.ephemeralKey d.ciphertext) d'.signature then
          .ok plaintext
        else .error .invalidSignature) ∧
      ∀ (id : String) (payload : Payload) (key : VerifyingKey),
        SealedMessage.payloadFor ⟨d', id⟩ receiver = .ok (payload, key) →
        key = d'.senderKey ∧
          Ed25519.verify key (signedBytes d.ephemeralKey d.ciphertext) d'.signature = true ∧
          ∃ rest, Payload.schema.decode plaintext = .ok (payload, rest) := by
  have hopen := plaintextFor_of_ciphertext hseal hagree hkey htext
  rw [isSigned, hkey, htext] at hopen
  refine ⟨hopen, fun id payload key hfound => ?_⟩
  rw [SealedMessage.payloadFor] at hfound
  dsimp only at hfound
  rw [hopen] at hfound
  split_ifs at hfound with hsigned
  · dsimp only at hfound
    split at hfound
    next => cases hfound
    next found rest hdecode =>
      cases hfound
      exact ⟨rfl, hsigned, rest, hdecode⟩

/-- The sample under the key of an outsider: with the signature of its sender it is refused, with one
of the outsider it opens. -/
theorem opens_just_when_signed_sample :
    let renamed : SealedData := { Sample.data with senderKey := Sample.outsider.signingKey }
    ofPlaintext (Payload.schema.encode Sample.payload) Sample.receiver.identity Sample.sender
        Sample.random = .ok Sample.data ∧
      Sample.random.AgreesWith Sample.receiver ∧
      renamed.plaintextFor Sample.receiver = .error .invalidSignature ∧
      (Sample.data.signedBy Sample.outsider).plaintextFor Sample.receiver =
        .ok (Payload.schema.encode Sample.payload) := by
  intro renamed
  have hkey : renamed.ephemeralKey = Sample.data.ephemeralKey := rfl
  have hkey' : (Sample.data.signedBy Sample.outsider).ephemeralKey = Sample.data.ephemeralKey := rfl
  have hrefused := (opens_just_when_signed Sample.data_sealed Sample.agrees hkey rfl).1
  have hopened := (opens_just_when_signed Sample.data_sealed Sample.agrees hkey' rfl).1
  refine ⟨Sample.data_sealed, Sample.agrees, hrefused.trans (if_neg ?_), hopened.trans (if_pos ?_)⟩
  · decide +kernel
  · exact Sample.outsider_vouches

/-- Data is not bound to its author: an outsider signs the sample anew, and it opens under the
outsider's key. -/
theorem not_bound_to_author :
    ¬ ∀ (plaintext : Bytes) (receiver sender : KeyPair) (random : Randomness) (d d' : SealedData),
      ofPlaintext plaintext receiver.identity sender random = .ok d →
      d'.ephemeralKey = d.ephemeralKey → d'.ciphertext = d.ciphertext →
      d'.senderKey ≠ sender.signingKey → ∀ found, d'.plaintextFor receiver ≠ .ok found := by
  intro hbound
  have hother : (Sample.data.signedBy Sample.outsider).senderKey ≠ Sample.sender.signingKey := by
    decide +kernel
  exact hbound _ _ _ _ _ (Sample.data.signedBy Sample.outsider) Sample.data_sealed rfl rfl hother _
    (plaintextFor_signedBy Sample.data_sealed Sample.agrees Sample.outsider_vouches)

end SealedData

end Courier
