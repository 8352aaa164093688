import Courier.Crypto.CryptoError
import Courier.Crypto.Ed25519
import Courier.Crypto.X25519
import Courier.Keys.Public
import Courier.Text.Hex
import Courier.Text.Quoted

/-!
# Courier — key pairs

The secrets of an identity on the network: a seed for signatures, and a secret for the messages that
are sealed for it. Its public part names the pair by a hash of both public keys, so that a receiver
finds the right pair without trying to decrypt.

* `PublicIdentity.ofKeys` — the identity of two public keys;
* `KeyPair.identity` — the public part of a pair;
* `KeyPair.agree` — the secret shared with the owner of a public key, unless that is predictable.
-/

namespace Courier

/-- The number of bytes of a hash that an id shows. -/
def keyIdSize : Nat := 20

/-- The id of two public keys (`compute_key_id`). -/
def keyIdOf (signingKey : VerifyingKey) (encryptionKey : Block 32) : String :=
  Hex.encode ((sha256 (signingKey.bytes.bytes ++ encryptionKey.bytes)).take keyIdSize)

/-- The identity of two public keys. -/
def PublicIdentity.ofKeys (signingKey : VerifyingKey) (encryptionKey : Block 32) :
    PublicIdentity :=
  ⟨signingKey, encryptionKey, keyIdOf signingKey encryptionKey⟩

/-- The secrets of an identity. -/
structure KeyPair where
  signingSeed : Block 32
  encryptionSecret : Block 32
deriving DecidableEq, Inhabited

namespace KeyPair

def signingKey (k : KeyPair) : VerifyingKey := Ed25519.verifyingKey k.signingSeed

def encryptionKey (k : KeyPair) : Block 32 := X25519.publicKey k.encryptionSecret

def identity (k : KeyPair) : PublicIdentity := .ofKeys k.signingKey k.encryptionKey

def keyId (k : KeyPair) : String := k.identity.keyId

def sign (k : KeyPair) (message : Bytes) : Signature := Ed25519.sign k.signingSeed message

end KeyPair

/-- The secret that the owner of a secret shares with the owner of a public key. Points of low order
are refused: with them it is zero whatever the secret. -/
def sharedSecret (secret publicKey : Block 32) : Except CryptoError (Block 32) :=
  let shared := X25519.agree secret publicKey
  if shared = Block.zero 32 then .error .invalidKey else .ok shared

namespace KeyPair

def agree (k : KeyPair) (publicKey : Block 32) : Except CryptoError (Block 32) :=
  sharedSecret k.encryptionSecret publicKey

/-- A view for diagnostics, which keeps the secrets. -/
def debugText (k : KeyPair) : String :=
  "KeyPair \x7b key_id: " ++ Text.quoted k.keyId ++ ", .. \x7d"

/-- A view of the signing half for diagnostics, which keeps the seed secret. -/
def signingDebugText (k : KeyPair) : String :=
  "SigningKeyPair \x7b public_key: " ++ Text.quoted (Hex.encode k.signingKey.bytes.bytes) ++ " \x7d"

end KeyPair

end Courier
