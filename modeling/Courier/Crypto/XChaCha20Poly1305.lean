import Courier.Crypto.ChaCha20
import Courier.Crypto.Poly1305

/-!
# Courier — authenticated encryption

XChaCha20-Poly1305 without associated data: a plaintext is added to the stream of a key and a nonce
of 24 bytes, and a code over the ciphertext stands behind it.

* `encrypt?` / `decrypt?` — both directions; decryption refuses every code but the right one.
-/

namespace Courier.XChaCha20Poly1305

/-- The number of bytes of a code. -/
def codeSize : Nat := 16

/-- The key and the nonce of the stream. -/
structure Stream where
  key : Bytes
  nonce : Bytes

/-- The stream for a long nonce. -/
def stream (key : Block 32) (nonce : Block 24) : Stream :=
  ⟨ChaCha20.subkey key.bytes (nonce.bytes.take 16), [0, 0, 0, 0] ++ nonce.bytes.drop 16⟩

namespace Stream

/-- The first block of the stream is the key of the code. -/
def codeKey (s : Stream) : Bytes := (ChaCha20.block s.key s.nonce 0).take 32

/-- Adds the stream from its second block on to a text. The same again gives the text back. -/
def apply (s : Stream) (text : Bytes) : Bytes :=
  Bytes.xor text (ChaCha20.keystream s.key s.nonce 1 text.length)

/-- The code over a ciphertext: it covers the ciphertext, filled up to whole blocks, and the lengths
of the associated data, of which there is none, and of the ciphertext. -/
def code (s : Stream) (ciphertext : Bytes) : Bytes :=
  let fill := List.replicate ((16 - ciphertext.length % 16) % 16) 0
  Poly1305.code s.codeKey
    (ciphertext ++ fill ++ Bytes.littleEndian 8 0 ++ Bytes.littleEndian 8 ciphertext.length)

end Stream

/-- The largest number of whole blocks of a text, which keeps the counter of the stream from
running over. -/
def maxBlocks : Nat := (1 <<< 32) - 2

/-- A text of this many bytes can be encrypted. -/
def fits (size : Nat) : Bool := size / 64 ≤ maxBlocks

/-- The ciphertext with its code, if the plaintext is not too long. -/
def encrypt? (key : Block 32) (nonce : Block 24) (plaintext : Bytes) : Option Bytes :=
  if fits plaintext.length then
    let s := stream key nonce
    let ciphertext := s.apply plaintext
    some (ciphertext ++ s.code ciphertext)
  else none

/-- The plaintext, if the code is the right one. -/
def decrypt? (key : Block 32) (nonce : Block 24) (sealedText : Bytes) : Option Bytes :=
  let size := sealedText.length - codeSize
  if sealedText.length < codeSize ∨ !fits size then none
  else
    let s := stream key nonce
    let ciphertext := sealedText.take size
    if sealedText.drop size = s.code ciphertext then some (s.apply ciphertext) else none

end Courier.XChaCha20Poly1305
