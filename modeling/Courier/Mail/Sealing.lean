import Courier.Crypto.Hkdf
import Courier.Envelope.Basic
import Courier.Keys.Pair
import Courier.Keys.Symmetric

/-!
# Courier — sealing and opening

A message is encrypted for the owner of a key pair and then signed by its sender. The key of a
message comes from a secret shared between a key made for this message alone and the receiver. Who
opens a message checks the signature first, so that forged data is never decrypted.

* `SealedData.ofPlaintext` / `SealedData.plaintextFor` — both directions, on byte strings;
* `SealedMessage.ofPayload` / `SealedMessage.payloadFor` — the same on payloads.
-/

namespace Courier

/-- Why a message was not sealed or opened. -/
inductive MailError where
  | crypto (error : CryptoError)
  | malformed (reason : String)
  | workerFailed (reason : String)
deriving DecidableEq, Repr, Inhabited

/-- The name of the kind of failure. -/
def MailError.name : MailError → String
  | crypto _ => "Crypto"
  | malformed _ => "Serialization"
  | workerFailed _ => "WorkerFailed"

def MailError.message : MailError → String
  | crypto error => s!"Crypto error: {error.message}"
  | malformed reason => s!"Serialization error: {reason}"
  | workerFailed reason => s!"Worker failed: {reason}"

/-- The random values of one message. -/
structure Randomness where
  /-- The secret of the key that is made for the message. -/
  ephemeral : Block 32
  nonce : Block 24
deriving DecidableEq, Inhabited

namespace SealedData

/-- What keys of messages are derived for. -/
def purpose : Bytes := Bytes.ofText "tradenet-confidential-v1"

/-- What the sender signs (`signed_bytes`). -/
def signedBytes (ephemeralKey : Block 32) (ciphertext : Bytes) : Bytes :=
  ephemeralKey.bytes ++ ciphertext

/-- The key of a message: the shared secret, bound to the public keys of both sides
(`derive_message_key`). -/
def messageKey (shared ephemeralKey receiverKey : Block 32) : SymmetricKey :=
  ⟨Hkdf.deriveKey (some (ephemeralKey.bytes ++ receiverKey.bytes)) shared.bytes purpose⟩

/-- Encrypts a plaintext for a receiver and signs the result (`encrypt_and_sign`). -/
def ofPlaintext (plaintext : Bytes) (receiver : PublicIdentity) (sender : KeyPair)
    (random : Randomness) : Except CryptoError SealedData := do
  let ephemeralKey := X25519.publicKey random.ephemeral
  let shared ← sharedSecret random.ephemeral receiver.encryptionKey
  let key := messageKey shared ephemeralKey receiver.encryptionKey
  let ciphertext ← key.encrypt random.nonce plaintext
  return {
    senderKey := sender.signingKey
    ephemeralKey
    ciphertext
    signature := sender.sign (signedBytes ephemeralKey ciphertext) }

/-- The signature belongs to the ephemeral key and the ciphertext. -/
def isSigned (d : SealedData) : Bool :=
  Ed25519.verify d.senderKey (signedBytes d.ephemeralKey d.ciphertext) d.signature

/-- The plaintext, if the signature is right and the data was encrypted for this key pair
(`decrypt_and_verify`). -/
def plaintextFor (d : SealedData) (receiver : KeyPair) : Except CryptoError Bytes := do
  if !d.isSigned then throw .invalidSignature
  let shared ← receiver.agree d.ephemeralKey
  (messageKey shared d.ephemeralKey receiver.encryptionKey).decrypt d.ciphertext

end SealedData

namespace SealedMessage

/-- Seals a payload for a receiver (`seal`). -/
def ofPayload (payload : Payload) (receiver : PublicIdentity) (sender : KeyPair)
    (random : Randomness) : Except MailError SealedMessage :=
  match SealedData.ofPlaintext (Payload.schema.encode payload) receiver sender random with
  | .ok data => .ok ⟨data, receiver.keyId⟩
  | .error error => .error (.crypto error)

/-- Opens a message: its payload, and the key of its sender (`open`). -/
def payloadFor (m : SealedMessage) (receiver : KeyPair) :
    Except MailError (Payload × VerifyingKey) :=
  match m.data.plaintextFor receiver with
  | .error error => .error (.crypto error)
  | .ok plaintext =>
    match Payload.schema.decode plaintext with
    | .error fault => .error (.malformed fault.message)
    | .ok (payload, _) => .ok (payload, m.data.senderKey)

end SealedMessage

end Courier
