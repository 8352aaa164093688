import Courier.Proofs.Mail.Sealing

/-!
# Courier — what opening yields, of any data

Opening looks at the signature, then at the shared secret, and then decrypts. So there are three
ways to fail, and what is looked at first decides: data whose signature is wrong is refused alike by
every receiver, and nothing of it is decrypted. For data that was not sealed here, no law of the
primitives is assumed. Data that was sealed opens under the two laws of `Randomness.AgreesWith` and
`KeyPair.Vouches`.

Main results:

* `SealedData.ofPlaintext_eq_invalidKey_iff` — when there is no key to seal with;
* `SealedData.signedBytes_inj` — a signature covers one ephemeral key and one ciphertext;
* `SealedData.plaintextFor_eq_ok_iff` — what opens, of all data;
* `SealedData.opening_is_exact` — both directions, and what each failure means.
-/

namespace Courier.SealedData

open XChaCha20Poly1305 (fits)

variable {plaintext : Bytes} {identity : PublicIdentity} {receiver sender : KeyPair}
  {random : Randomness} {d : SealedData}

-- ---------------------------------------------------------------------------
-- Whether something is sealed
-- ---------------------------------------------------------------------------

/-- The secret that both sides compute is refused when it is zero. -/
theorem sharedSecret_eq (secret publicKey : Block 32) :
    sharedSecret secret publicKey =
      if X25519.agree secret publicKey = Block.zero 32 then .error .invalidKey
      else .ok (X25519.agree secret publicKey) :=
  rfl

/-- With a secret that is not zero, sealing is encryption under the key of the message. -/
theorem ofPlaintext_of_ne_zero
    (h : X25519.agree random.ephemeral identity.encryptionKey ≠ Block.zero 32) :
    ofPlaintext plaintext identity sender random =
      ((messageKey (X25519.agree random.ephemeral identity.encryptionKey)
          (X25519.publicKey random.ephemeral) identity.encryptionKey).encrypt
            random.nonce plaintext).map fun ciphertext =>
        { senderKey := sender.signingKey
          ephemeralKey := X25519.publicKey random.ephemeral
          ciphertext
          signature := sender.sign
            (signedBytes (X25519.publicKey random.ephemeral) ciphertext) } := by
  unfold ofPlaintext
  rw [sharedSecret_eq, if_neg h, ok_bind]
  dsimp only
  cases (messageKey (X25519.agree random.ephemeral identity.encryptionKey)
    (X25519.publicKey random.ephemeral) identity.encryptionKey).encrypt random.nonce plaintext <;>
    rfl

/-- A plaintext is refused for the keys just when the secret is zero. -/
theorem ofPlaintext_eq_invalidKey_iff :
    ofPlaintext plaintext identity sender random = .error .invalidKey ↔
      X25519.agree random.ephemeral identity.encryptionKey = Block.zero 32 := by
  constructor
  · intro h
    by_cases hzero : X25519.agree random.ephemeral identity.encryptionKey = Block.zero 32
    · exact hzero
    · -- Encryption fails in a way of its own.
      rw [ofPlaintext_of_ne_zero hzero, SymmetricKey.encrypt] at h
      split at h <;> cases h
  · intro h
    unfold ofPlaintext
    rw [sharedSecret_eq, if_pos h]
    rfl

/-- Otherwise whatever fits is sealed. -/
theorem ofPlaintext_of_fits (hfits : fits plaintext.length = true)
    (h : X25519.agree random.ephemeral identity.encryptionKey ≠ Block.zero 32) :
    ∃ d, ofPlaintext plaintext identity sender random = .ok d := by
  obtain ⟨ciphertext, hencrypt⟩ := SymmetricKey.encrypt_of_fits
    (messageKey (X25519.agree random.ephemeral identity.encryptionKey)
      (X25519.publicKey random.ephemeral) identity.encryptionKey) random.nonce hfits
  rw [ofPlaintext_of_ne_zero h, hencrypt]
  exact ⟨_, rfl⟩

/-- Of the receiver, sealing looks at the encryption key only. -/
theorem ofPlaintext_congr {identity' : PublicIdentity}
    (h : identity.encryptionKey = identity'.encryptionKey) :
    ofPlaintext plaintext identity sender random =
      ofPlaintext plaintext identity' sender random := by
  unfold ofPlaintext
  rw [h]

-- ---------------------------------------------------------------------------
-- What a signature covers
-- ---------------------------------------------------------------------------

/-- The signed bytes determine the ephemeral key, which has a fixed length, and the ciphertext. -/
theorem signedBytes_inj {key key' : Block 32} {ciphertext ciphertext' : Bytes} :
    signedBytes key ciphertext = signedBytes key' ciphertext' ↔
      key = key' ∧ ciphertext = ciphertext' := by
  constructor
  · obtain ⟨bytes, hbytes⟩ := key
    obtain ⟨bytes', hbytes'⟩ := key'
    intro h
    obtain ⟨rfl, htext⟩ := List.append_inj h (hbytes.trans hbytes'.symm)
    exact ⟨rfl, htext⟩
  · rintro ⟨rfl, rfl⟩
    rfl

-- ---------------------------------------------------------------------------
-- What opens
-- ---------------------------------------------------------------------------

/-- The key that the receiver of data derives: from the secret of both sides, with the ephemeral key
and the receiver's key as salt. -/
def derivedKey (d : SealedData) (receiver : KeyPair) : SymmetricKey :=
  ⟨Hkdf.deriveKey (some (d.ephemeralKey.bytes ++ receiver.encryptionKey.bytes))
    (X25519.agree receiver.encryptionSecret d.ephemeralKey).bytes purpose⟩

/-- Without a signature of the sender the receiver does not matter. -/
theorem plaintextFor_of_unsigned (receiver : KeyPair) (h : d.isSigned = false) :
    d.plaintextFor receiver = .error .invalidSignature := by
  rw [plaintextFor_eq, h]
  rfl

/-- Signed data is decrypted, unless its key yields a predictable secret. -/
theorem plaintextFor_of_signed (receiver : KeyPair) (h : d.isSigned = true) :
    d.plaintextFor receiver =
      if X25519.agree receiver.encryptionSecret d.ephemeralKey = Block.zero 32 then
        .error .invalidKey
      else (d.derivedKey receiver).decrypt d.ciphertext := by
  rw [plaintextFor_eq, if_pos h, KeyPair.agree, sharedSecret_eq]
  split_ifs
  · rfl
  · exact ok_bind _ _

/-- Data opens to a plaintext just when it is signed, its secret is not zero, and its ciphertext is
what encryption under the derived key makes of that plaintext. -/
theorem plaintextFor_eq_ok_iff :
    d.plaintextFor receiver = .ok plaintext ↔
      d.isSigned = true ∧ X25519.agree receiver.encryptionSecret d.ephemeralKey ≠ Block.zero 32 ∧
        ∃ nonce, (d.derivedKey receiver).encrypt nonce plaintext = .ok d.ciphertext := by
  constructor
  · intro h
    cases hsigned : d.isSigned with
    | false =>
      rw [plaintextFor_of_unsigned receiver hsigned] at h
      cases h
    | true =>
      rw [plaintextFor_of_signed receiver hsigned] at h
      split_ifs at h with hzero
      exact ⟨rfl, hzero, SymmetricKey.decrypt_eq_ok_iff.mp h⟩
  · rintro ⟨hsigned, hzero, hencrypt⟩
    rw [plaintextFor_of_signed receiver hsigned, if_neg hzero]
    exact SymmetricKey.decrypt_eq_ok_iff.mpr hencrypt

/-- **Opening is exact.** A plaintext is refused for the keys just when the secret of both sides is
zero, and otherwise, if it is not too long, it is sealed and comes back, provided that the two sides
agree and the sender's signature verifies. Of all data that somebody may put together, and without
those two laws, what has no valid signature is refused as such whoever receives it; then what has a
zero secret; and all the rest is what decryption under the derived key makes of the ciphertext. A
signature covers an ephemeral key and a ciphertext together: with the ephemeral key of one message
and the ciphertext of another, the bytes are those of either only if the two agree in the other
part. -/
theorem opening_is_exact :
    (∀ (plaintext : Bytes) (identity : PublicIdentity) (sender : KeyPair) (random : Randomness),
      (ofPlaintext plaintext identity sender random = .error .invalidKey ↔
        X25519.agree random.ephemeral identity.encryptionKey = Block.zero 32) ∧
      (fits plaintext.length = true →
        X25519.agree random.ephemeral identity.encryptionKey ≠ Block.zero 32 →
        ∃ d, ofPlaintext plaintext identity sender random = .ok d ∧
          ∀ receiver : KeyPair, receiver.encryptionKey = identity.encryptionKey →
            random.AgreesWith receiver →
            sender.Vouches (signedBytes d.ephemeralKey d.ciphertext) →
            d.plaintextFor receiver = .ok plaintext)) ∧
    (∀ (d : SealedData) (receiver : KeyPair),
      (Ed25519.verify d.senderKey (d.ephemeralKey.bytes ++ d.ciphertext) d.signature = false →
        d.plaintextFor receiver = .error .invalidSignature) ∧
      (Ed25519.verify d.senderKey (d.ephemeralKey.bytes ++ d.ciphertext) d.signature = true →
        (X25519.agree receiver.encryptionSecret d.ephemeralKey = Block.zero 32 →
          d.plaintextFor receiver = .error .invalidKey) ∧
        (X25519.agree receiver.encryptionSecret d.ephemeralKey ≠ Block.zero 32 →
          d.plaintextFor receiver = (d.derivedKey receiver).decrypt d.ciphertext))) ∧
    (∀ d d' : SealedData,
      (signedBytes d.ephemeralKey d.ciphertext = signedBytes d'.ephemeralKey d'.ciphertext ↔
        d.ephemeralKey = d'.ephemeralKey ∧ d.ciphertext = d'.ciphertext) ∧
      (signedBytes d.ephemeralKey d'.ciphertext = signedBytes d.ephemeralKey d.ciphertext ↔
        d'.ciphertext = d.ciphertext) ∧
      (signedBytes d.ephemeralKey d'.ciphertext = signedBytes d'.ephemeralKey d'.ciphertext ↔
        d.ephemeralKey = d'.ephemeralKey)) := by
  refine ⟨fun plaintext identity sender random => ⟨ofPlaintext_eq_invalidKey_iff, ?_⟩,
    fun d receiver => ⟨plaintextFor_of_unsigned receiver, fun hsigned => ?_⟩,
    fun d d' => ⟨signedBytes_inj, ?_, ?_⟩⟩
  · intro hfits hzero
    obtain ⟨d, hseal⟩ : ∃ d, ofPlaintext plaintext identity sender random = .ok d :=
      ofPlaintext_of_fits hfits hzero
    refine ⟨d, hseal, fun receiver hkey hagree hsign => ?_⟩
    have hsame : ofPlaintext plaintext receiver.identity sender random = .ok d :=
      (ofPlaintext_congr hkey).trans hseal
    exact plaintextFor_ofPlaintext hsame hagree hsign
  · have hopen := plaintextFor_of_signed receiver hsigned
    exact ⟨fun hzero => hopen.trans (if_pos hzero), fun hzero => hopen.trans (if_neg hzero)⟩
  · rw [signedBytes_inj]
    exact and_iff_right rfl
  · rw [signedBytes_inj]
    exact and_iff_left rfl

/-- A key of low order, with which every secret is zero. -/
def Sample.lowOrder : SealedData := { Sample.data with ephemeralKey := Block.zero 32 }

/-- The plaintext of the sample comes back. With the signature of its sender under the key of an
outsider it is refused; and with a key of low order, signed by the outsider, it is refused for that
key. -/
theorem opening_is_exact_sample :
    let plaintext := Payload.schema.encode Sample.payload
    let renamed : SealedData := { Sample.data with senderKey := Sample.outsider.signingKey }
    (∃ d, ofPlaintext plaintext Sample.receiver.identity Sample.sender Sample.random = .ok d ∧
        d.plaintextFor Sample.receiver = .ok plaintext) ∧
      renamed.plaintextFor Sample.receiver = .error .invalidSignature ∧
      (Sample.lowOrder.signedBy Sample.outsider).plaintextFor Sample.receiver =
        .error .invalidKey := by
  intro plaintext renamed
  have hzero : X25519.agree Sample.random.ephemeral Sample.receiver.identity.encryptionKey ≠
      Block.zero 32 := by decide +kernel
  obtain ⟨d, hseal, hopen⟩ := (opening_is_exact.1 plaintext Sample.receiver.identity Sample.sender
    Sample.random).2 (by decide +kernel) hzero
  have hdata : d = Sample.data := Except.ok.inj (hseal.symm.trans Sample.data_sealed)
  have hsign : Sample.sender.Vouches (signedBytes d.ephemeralKey d.ciphertext) := by
    subst hdata
    show Ed25519.verify _ _ _ = true
    decide +kernel
  refine ⟨⟨d, hseal, hopen Sample.receiver rfl Sample.agrees hsign⟩, ?_, ?_⟩
  · exact (opening_is_exact.2.1 renamed Sample.receiver).1 (by decide +kernel)
  · exact ((opening_is_exact.2.1 _ Sample.receiver).2 (by decide +kernel)).1 (by decide +kernel)

end Courier.SealedData
