import Courier.Bytes

/-!
# Courier — the Poly1305 code

The one-time code of RFC 8439: a message is a polynomial over the field of `2 ^ 130 - 5` elements,
evaluated at a secret point and masked.
-/

namespace Courier.Poly1305

def prime : Nat := (1 <<< 130) - 5

/-- The secret point, some bits of which are always zero. -/
def clamp (r : Nat) : Nat := r &&& 0x0ffffffc0ffffffc0ffffffc0fffffff

/-- The value of the polynomial whose coefficients are the blocks of sixteen bytes of a message,
each with a one behind it. `n` bounds the number of blocks. -/
def evaluate (r : Nat) : Nat → Nat → Bytes → Nat
  | 0, sum, _ => sum
  | n + 1, sum, bs =>
    if bs.isEmpty then sum
    else
      let coefficient := Bytes.ofLittleEndian (bs.take 16 ++ [1])
      evaluate r n ((sum + coefficient) * r % prime) (bs.drop 16)

/-- The code of a message under a key of 32 bytes. -/
def code (key message : Bytes) : Bytes :=
  let r := clamp (Bytes.ofLittleEndian (key.take 16))
  let mask := Bytes.ofLittleEndian (key.drop 16)
  Bytes.littleEndian 16 (evaluate r message.length 0 message + mask)

end Courier.Poly1305
