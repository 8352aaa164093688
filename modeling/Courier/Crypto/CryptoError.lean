/-!
# Courier — failures of cryptography

What goes wrong with keys, ciphertexts and signatures, and its wording.
-/

namespace Courier

inductive CryptoError where
  | keyGeneration
  | invalidKey
  | encryptionFailed
  | decryptionFailed
  | ciphertextTooShort
  | invalidSignature
deriving DecidableEq, Repr, Inhabited

/-- The name of the kind of failure. -/
def CryptoError.name : CryptoError → String
  | keyGeneration => "KeyGeneration"
  | invalidKey => "InvalidKey"
  | encryptionFailed => "EncryptionFailed"
  | decryptionFailed => "DecryptionFailed"
  | ciphertextTooShort => "CiphertextTooShort"
  | invalidSignature => "InvalidSignature"

def CryptoError.message : CryptoError → String
  | keyGeneration => "Key generation failed"
  | invalidKey => "Invalid key material"
  | encryptionFailed => "Encryption failed"
  | decryptionFailed => "Decryption failed: data may be corrupted or wrong key"
  | ciphertextTooShort => "Ciphertext too short"
  | invalidSignature => "Signature verification failed"

end Courier
