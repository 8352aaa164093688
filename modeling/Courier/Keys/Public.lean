import Courier.Schema.Basic

/-!
# Courier — public keys and signatures

What others know of a key pair: the key that verifies its signatures, the key that messages to it
are sealed for, and the id under which it is looked up.
-/

namespace Courier

/-- The key that verifies signatures. -/
structure VerifyingKey where
  bytes : Block 32
deriving DecidableEq, Inhabited

structure Signature where
  bytes : Block 64
deriving DecidableEq, Inhabited

/-- The public part of a key pair. -/
structure PublicIdentity where
  signingKey : VerifyingKey
  encryptionKey : Block 32
  keyId : String
deriving DecidableEq, Inhabited

/-! ## Schemas -/

def VerifyingKey.schema : Schema VerifyingKey :=
  .record "PublicKey" false (.required "bytes" (.block 32) .nil)
    { forth := fun k => (k.bytes, ())
      back := fun b => ⟨b.1⟩
      back_forth := fun _ => rfl
      forth_back := fun _ => rfl }

def Signature.schema : Schema Signature :=
  .record "Signature" false (.required "bytes" (.base64 64) .nil)
    { forth := fun s => (s.bytes, ())
      back := fun b => ⟨b.1⟩
      back_forth := fun _ => rfl
      forth_back := fun _ => rfl }

def PublicIdentity.schema : Schema PublicIdentity :=
  .record "PubKey" false
    (.required "signing_key" VerifyingKey.schema
      (.required "encryption_key" (.block 32) (.required "key_id" .text .nil)))
    { forth := fun k => (k.signingKey, k.encryptionKey, k.keyId, ())
      back := fun b => ⟨b.1, b.2.1, b.2.2.1⟩
      back_forth := fun _ => rfl
      forth_back := fun _ => rfl }

end Courier
