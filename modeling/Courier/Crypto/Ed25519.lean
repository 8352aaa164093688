import Courier.Crypto.Field25519
import Courier.Crypto.Sha2
import Courier.Keys.Public

/-!
# Courier — signatures

Ed25519 of RFC 8032 on the twisted Edwards curve `y² - x² = 1 + d x² y²`. A signature is checked
without the cofactor: the encoded point of the signature is compared with the encoding of
`s B - h A`, byte by byte. A key may be any encoding that denotes a point; the second half of a
signature has to be below the order of the base point.

* `Ed25519.sign` — the signature of a message under a seed;
* `Ed25519.verify` — whether a signature belongs to a message and a key.
-/

namespace Courier.Ed25519

open Field25519

/-- The constant of the curve. -/
def d : Nat := mul (neg 121665) (inv 121666)

/-- The order of the base point. -/
def order : Nat := (1 <<< 252) + 27742317777372353535851937790883648493

/-- A point in extended coordinates: `x / z`, `y / z`, and `t / z` is their product. -/
structure Point where
  x : Nat
  y : Nat
  z : Nat
  t : Nat
deriving DecidableEq, Repr

namespace Point

def zero : Point := ⟨0, 1, 1, 0⟩

/-- The point with these coordinates. -/
def ofAffine (x y : Nat) : Point := ⟨x, y, 1, mul x y⟩

def add (p q : Point) : Point :=
  let a := mul (sub p.y p.x) (sub q.y q.x)
  let b := mul (Field25519.add p.y p.x) (Field25519.add q.y q.x)
  let c := mul (mul p.t (mul 2 d)) q.t
  let e := mul (mul p.z 2) q.z
  let f := sub b a
  let g := sub e c
  let h := Field25519.add e c
  let i := Field25519.add b a
  ⟨mul f g, mul h i, mul g h, mul f i⟩

def neg (p : Point) : Point := ⟨Field25519.neg p.x, p.y, p.z, Field25519.neg p.t⟩

/-- The multiple of a point by a scalar below `2 ^ n`, from its low bit on. -/
def multiply : Nat → Nat → Point → Point
  | 0, _, _ => zero
  | n + 1, k, p =>
    let rest := multiply n (k / 2) (p.add p)
    if k % 2 = 1 then p.add rest else rest

/-- The written form: the second coordinate, and the parity of the first in the highest bit. -/
def encode (p : Point) : Block 32 :=
  let zi := inv p.z
  Block.ofNat 32 (mul p.y zi + mul p.x zi % 2 * (1 <<< 255))

/-- A root of `u / v`, if there is one. -/
def rootOfQuotient (u v : Nat) : Option Nat :=
  let x := mul (mul u (pow v 3)) (pow (mul u (pow v 7)) ((prime - 5) / 8))
  let check := mul v (square x)
  if check = u then some x
  else if check = Field25519.neg u then some (mul x rootOfMinusOne)
  else none

/-- The point that 32 bytes denote, if there is one. The second coordinate may be written with
the prime added. -/
def decode? (bs : Block 32) : Option Point :=
  let n := bs.toNat
  let y := n % (1 <<< 255) % prime
  let u := sub (square y) 1
  let v := Field25519.add (mul d (square y)) 1
  (rootOfQuotient u v).map fun x =>
    ofAffine (if x % 2 = n >>> 255 then x else Field25519.neg x) y

/-- The base point: the one with second coordinate `4 / 5` and an even first coordinate. -/
def base : Point :=
  ofAffine
    15112221349535400772501151409588531511454012693041857206046113283949847762202
    46316835694926478169428394003475163141307993866256225615783033603165251855960

/-- The number of bits of a scalar. -/
def scalarBits : Nat := 256

/-- The multiple of a point by a scalar. -/
def times (k : Nat) (p : Point) : Point := multiply scalarBits k p

end Point

/-- The number that a hash denotes, modulo the order. -/
def hashScalar (bs : Bytes) : Nat := Bytes.ofLittleEndian (sha512 bs) % order

/-- What a seed stands for: the secret scalar, and the bytes that make nonces. -/
structure Secret where
  scalar : Nat
  nonceKey : Bytes

def Secret.ofSeed (seed : Block 32) : Secret :=
  let h := sha512 seed.bytes
  let n := Bytes.ofLittleEndian (h.take 32) % (1 <<< 254)
  ⟨(1 <<< 254) + (n - n % 8), h.drop 32⟩

/-- The key that verifies the signatures of a seed. -/
def verifyingKey (seed : Block 32) : VerifyingKey :=
  ⟨(Point.times (Secret.ofSeed seed).scalar Point.base).encode⟩

/-- The challenge of a signature: the hash of its point, the key and the message. -/
def challenge (r : Bytes) (key : VerifyingKey) (message : Bytes) : Nat :=
  hashScalar (r ++ key.bytes.bytes ++ message)

/-- The signature of a message. -/
def sign (seed : Block 32) (message : Bytes) : Signature :=
  let secret := Secret.ofSeed seed
  let nonce := hashScalar (secret.nonceKey ++ message)
  let r := (Point.times nonce Point.base).encode
  let s := (nonce + challenge r.bytes (verifyingKey seed) message * secret.scalar) % order
  ⟨⟨r.bytes ++ Bytes.littleEndian 32 s, by simp [r.length_bytes]⟩⟩

/-- The signature belongs to the message and the key. -/
def verify (key : VerifyingKey) (message : Bytes) (signature : Signature) : Bool :=
  let r := signature.bytes.bytes.take 32
  let s := Bytes.ofLittleEndian (signature.bytes.bytes.drop 32)
  if order ≤ s then false
  else
    match Point.decode? key.bytes with
    | none => false
    | some a =>
      let h := challenge r key message
      ((Point.times s Point.base).add (Point.times h a.neg)).encode.bytes = r

end Courier.Ed25519
