import Courier.Crypto.CryptoError
import Courier.Crypto.XChaCha20Poly1305

/-!
# Courier — keys for one message

Ciphertexts begin with a byte that names the cipher, so that another one can follow later; behind it
stand the nonce and the sealed text.

* `SymmetricKey.encrypt` — the ciphertext under a nonce;
* `SymmetricKey.decrypt` — the plaintext, for exactly the ciphertexts that encryption yields.
-/

namespace Courier

/-- A key that encrypts and decrypts. -/
structure SymmetricKey where
  bytes : Block 32
deriving DecidableEq, Inhabited

namespace SymmetricKey

/-- The byte that stands for XChaCha20-Poly1305. -/
def cipherTag : UInt8 := 2

/-- The number of bytes of a nonce. -/
def nonceSize : Nat := 24

/-- The ciphertext of a plaintext, under a nonce that is used once (`encrypt`). -/
def encrypt (key : SymmetricKey) (nonce : Block 24) (plaintext : Bytes) :
    Except CryptoError Bytes :=
  match XChaCha20Poly1305.encrypt? key.bytes nonce plaintext with
  | some sealedText => .ok (cipherTag :: nonce.bytes ++ sealedText)
  | none => .error .encryptionFailed

/-- The plaintext of a ciphertext (`decrypt`). Another cipher is refused before the length is looked
at. -/
def decrypt (key : SymmetricKey) : Bytes → Except CryptoError Bytes
  | [] => .error .ciphertextTooShort
  | tag :: rest =>
    if tag ≠ cipherTag then .error .decryptionFailed
    else if rest.length < nonceSize + XChaCha20Poly1305.codeSize then .error .ciphertextTooShort
    else
      let nonce := Block.fit 24 rest
      match XChaCha20Poly1305.decrypt? key.bytes nonce (rest.drop nonceSize) with
      | some plaintext => .ok plaintext
      | none => .error .decryptionFailed

/-- A view for diagnostics, which keeps the key secret. -/
def debugText (_ : SymmetricKey) : String := "SymmetricKey \x7b bytes: \"[REDACTED]\" \x7d"

end SymmetricKey

end Courier
