import Courier.Bytes
import Courier.Crypto.Field25519

/-!
# Courier — agreement on a secret

The function X25519 of RFC 7748: a secret scalar times a point of a curve, of which only the first
coordinate is written. The Montgomery ladder keeps two neighbouring multiples of the point, as
fractions.

* `X25519.agree` — the shared secret of a secret and a public key;
* `X25519.publicKey` — the public key of a secret.
-/

namespace Courier.X25519

open Field25519

/-- Two points as fractions `x / z`. -/
structure Ladder where
  x2 : Nat
  z2 : Nat
  x3 : Nat
  z3 : Nat
deriving DecidableEq, Repr

/-- The constant `(486662 - 2) / 4` of the curve. -/
def a24 : Nat := 121665

/-- Exchanges the two points. -/
def Ladder.swap (bit : Bool) (l : Ladder) : Ladder :=
  if bit then ⟨l.x3, l.z3, l.x2, l.z2⟩ else l

/-- Doubles the first point and adds both, where their difference is `u`. -/
def Ladder.double (u : Nat) (l : Ladder) : Ladder :=
  let a := add l.x2 l.z2
  let b := sub l.x2 l.z2
  let aa := square a
  let bb := square b
  let e := sub aa bb
  let da := mul (sub l.x3 l.z3) a
  let cb := mul (add l.x3 l.z3) b
  { x2 := mul aa bb
    z2 := mul e (add aa (mul a24 e))
    x3 := square (add da cb)
    z3 := mul u (square (sub da cb)) }

/-- One bit of the scalar, from the high end on. -/
def Ladder.step (u : Nat) (l : Ladder) (bit : Bool) : Ladder :=
  ((l.swap bit).double u).swap bit

/-- The low `n` bits of a number, high bit first. -/
def bits (k : Nat) : Nat → List Bool
  | 0 => []
  | n + 1 => k.testBit n :: bits k n

/-- The first coordinate of the multiple of a point by a scalar of 255 bits. -/
def multiply (k u : Nat) : Nat :=
  let l := (bits k 255).foldl (Ladder.step u) ⟨1, 0, u, 1⟩
  mul l.x2 (inv l.z2)

/-- The scalar of a secret: a multiple of eight with its highest bit at place 254. -/
def scalar (secret : Block 32) : Nat :=
  let n := secret.toNat % (1 <<< 254)
  (1 <<< 254) + (n - n % 8)

/-- The coordinate that a public key stands for; its last bit is not looked at. -/
def coordinate (key : Block 32) : Nat := key.toNat % (1 <<< 255) % prime

/-- The secret that the owner of a secret shares with the owner of a public key. -/
def agree (secret key : Block 32) : Block 32 :=
  Block.ofNat 32 (multiply (scalar secret) (coordinate key))

/-- The public key of a secret. -/
def publicKey (secret : Block 32) : Block 32 :=
  Block.ofNat 32 (multiply (scalar secret) 9)

end Courier.X25519
