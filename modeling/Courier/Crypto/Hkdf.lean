import Courier.Crypto.Sha2

/-!
# Courier — key derivation

HMAC and HKDF of RFC 2104 and RFC 5869, over SHA-256. One block of output is enough for a key.

* `Hkdf.extract`, `Hkdf.expand`, `Hkdf.deriveKey` — the two halves of the derivation, and both.
-/

namespace Courier

namespace Hmac

/-- The size of a block of the hash. -/
def blockSize : Nat := 64

/-- A key filled up to a block; one longer than a block is hashed first. -/
def blockKey (key : Bytes) : Bytes :=
  let key := if blockSize < key.length then sha256 key else key
  key ++ List.replicate (blockSize - key.length) 0

/-- The code that authenticates a message under a key. -/
def sha256 (key message : Bytes) : Bytes :=
  let key := blockKey key
  Courier.sha256 (key.map (· ^^^ 0x5c) ++ Courier.sha256 (key.map (· ^^^ 0x36) ++ message))

end Hmac

namespace Hkdf

/-- The salt that stands for none. -/
def noSalt : Bytes := List.replicate 32 0

/-- A pseudorandom key from keying material. -/
def extract (salt : Option Bytes) (material : Bytes) : Bytes :=
  Hmac.sha256 (salt.getD noSalt) material

/-- The first block of output for a purpose. -/
def expand (pseudorandomKey info : Bytes) : Bytes := Hmac.sha256 pseudorandomKey (info ++ [1])

/-- A key of 32 bytes from keying material, for a purpose. -/
def deriveKey (salt : Option Bytes) (material info : Bytes) : Block 32 :=
  Block.fit 32 (expand (extract salt material) info)

end Hkdf

end Courier
