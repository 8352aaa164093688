import Courier.Bytes

/-!
# Courier — SHA-2

The hash functions SHA-256 and SHA-512 of FIPS 180-4. Both are one construction over words of 32 or
64 bits: the message is padded to whole blocks, and each block is taken into a state of eight words
by a number of rounds over a schedule of words.

* `sha256`, `sha512` — the hashes of a byte string.
-/

namespace Courier.Sha2

/-- The state between rounds. -/
structure State (W : Type) where
  a : W
  b : W
  c : W
  d : W
  e : W
  f : W
  g : W
  h : W

/-- The operations and constants of one of the hash functions, over words `W`. -/
structure Params (W : Type) where
  /-- The number of bytes of a word. -/
  wordSize : Nat
  ofNat : Nat → W
  toNat : W → Nat
  add : W → W → W
  choose : W → W → W → W
  majority : W → W → W → W
  bigSigma0 : W → W
  bigSigma1 : W → W
  smallSigma0 : W → W
  smallSigma1 : W → W
  constants : List W
  initial : State W

variable {W : Type}

namespace State

/-- The words of a state in order. -/
def toList (s : State W) : List W := [s.a, s.b, s.c, s.d, s.e, s.f, s.g, s.h]

def zipWith (f : W → W → W) (s t : State W) : State W :=
  ⟨f s.a t.a, f s.b t.b, f s.c t.c, f s.d t.d, f s.e t.e, f s.f t.f, f s.g t.g, f s.h t.h⟩

end State

namespace Params

variable (p : Params W)

/-- A block has sixteen words. -/
def blockSize : Nat := 16 * p.wordSize

/-- The words of a block, high byte first. -/
def words : Nat → Bytes → List W
  | 0, _ => []
  | n + 1, bs => p.ofNat (Bytes.ofBigEndian (bs.take p.wordSize)) :: words n (bs.drop p.wordSize)

/-- The words of the schedule behind the last sixteen, which stand in `window`, first word first. -/
def extend : Nat → List W → List W
  | 0, _ => []
  | n + 1, window =>
    match window with
    | w0 :: w1 :: w2 :: w3 :: w4 :: w5 :: w6 :: w7 :: w8 :: w9 :: w10 :: w11 :: w12 :: w13 :: w14
        :: w15 :: _ =>
      let w := p.add (p.add (p.smallSigma1 w14) w9) (p.add (p.smallSigma0 w1) w0)
      w :: extend n
        [w1, w2, w3, w4, w5, w6, w7, w8, w9, w10, w11, w12, w13, w14, w15, w]
    | _ => []

/-- The schedule of a block: its words, and as many more as there are constants. -/
def schedule (block : Bytes) : List W :=
  let ws := p.words 16 block
  ws ++ p.extend (p.constants.length - 16) ws

/-- One round with its constant and its word of the schedule. -/
def round (s : State W) (kw : W × W) : State W :=
  let t1 := p.add (p.add (p.add s.h (p.bigSigma1 s.e)) (p.add (p.choose s.e s.f s.g) kw.1)) kw.2
  let t2 := p.add (p.bigSigma0 s.a) (p.majority s.a s.b s.c)
  ⟨p.add t1 t2, s.a, s.b, s.c, p.add s.d t1, s.e, s.f, s.g⟩

/-- Takes a block into the state. -/
def compress (s : State W) (block : Bytes) : State W :=
  s.zipWith p.add ((p.constants.zip (p.schedule block)).foldl p.round s)

/-- What is appended to a message of `n` bytes: a one bit, zeros, and the number of bits in two
words. -/
def padding (n : Nat) : Bytes :=
  let used := n + 1 + 2 * p.wordSize
  let zeros := (p.blockSize - used % p.blockSize) % p.blockSize
  0x80 :: List.replicate zeros 0 ++ Bytes.bigEndian (2 * p.wordSize) (8 * n)

/-- Takes whole blocks into the state. -/
def absorb : Nat → State W → Bytes → State W
  | 0, s, _ => s
  | n + 1, s, bs => absorb n (p.compress s (bs.take p.blockSize)) (bs.drop p.blockSize)

/-- The hash of a message. -/
def hash (message : Bytes) : Bytes :=
  let padded := message ++ p.padding message.length
  (p.absorb (padded.length / p.blockSize) p.initial padded).toList.flatMap fun w =>
    Bytes.bigEndian p.wordSize (p.toNat w)

end Params

/-! ## Words of 32 bits -/

def rotateRight32 (x : UInt32) (n : UInt32) : UInt32 := (x >>> n) ||| (x <<< (32 - n))

def params256 : Params UInt32 where
  wordSize := 4
  ofNat := UInt32.ofNat
  toNat := UInt32.toNat
  add := (· + ·)
  choose x y z := (x &&& y) ^^^ (~~~x &&& z)
  majority x y z := (x &&& y) ^^^ (x &&& z) ^^^ (y &&& z)
  bigSigma0 x := rotateRight32 x 2 ^^^ rotateRight32 x 13 ^^^ rotateRight32 x 22
  bigSigma1 x := rotateRight32 x 6 ^^^ rotateRight32 x 11 ^^^ rotateRight32 x 25
  smallSigma0 x := rotateRight32 x 7 ^^^ rotateRight32 x 18 ^^^ (x >>> 3)
  smallSigma1 x := rotateRight32 x 17 ^^^ rotateRight32 x 19 ^^^ (x >>> 10)
  constants := [
    0x428a2f98, 0x71374491, 0xb5c0fbcf, 0xe9b5dba5, 0x3956c25b, 0x59f111f1, 0x923f82a4, 0xab1c5ed5,
    0xd807aa98, 0x12835b01, 0x243185be, 0x550c7dc3, 0x72be5d74, 0x80deb1fe, 0x9bdc06a7, 0xc19bf174,
    0xe49b69c1, 0xefbe4786, 0x0fc19dc6, 0x240ca1cc, 0x2de92c6f, 0x4a7484aa, 0x5cb0a9dc, 0x76f988da,
    0x983e5152, 0xa831c66d, 0xb00327c8, 0xbf597fc7, 0xc6e00bf3, 0xd5a79147, 0x06ca6351, 0x14292967,
    0x27b70a85, 0x2e1b2138, 0x4d2c6dfc, 0x53380d13, 0x650a7354, 0x766a0abb, 0x81c2c92e, 0x92722c85,
    0xa2bfe8a1, 0xa81a664b, 0xc24b8b70, 0xc76c51a3, 0xd192e819, 0xd6990624, 0xf40e3585, 0x106aa070,
    0x19a4c116, 0x1e376c08, 0x2748774c, 0x34b0bcb5, 0x391c0cb3, 0x4ed8aa4a, 0x5b9cca4f, 0x682e6ff3,
    0x748f82ee, 0x78a5636f, 0x84c87814, 0x8cc70208, 0x90befffa, 0xa4506ceb, 0xbef9a3f7, 0xc67178f2]
  initial := ⟨0x6a09e667, 0xbb67ae85, 0x3c6ef372, 0xa54ff53a, 0x510e527f, 0x9b05688c, 0x1f83d9ab,
    0x5be0cd19⟩

/-! ## Words of 64 bits -/

def rotateRight64 (x : UInt64) (n : UInt64) : UInt64 := (x >>> n) ||| (x <<< (64 - n))

def params512 : Params UInt64 where
  wordSize := 8
  ofNat := UInt64.ofNat
  toNat := UInt64.toNat
  add := (· + ·)
  choose x y z := (x &&& y) ^^^ (~~~x &&& z)
  majority x y z := (x &&& y) ^^^ (x &&& z) ^^^ (y &&& z)
  bigSigma0 x := rotateRight64 x 28 ^^^ rotateRight64 x 34 ^^^ rotateRight64 x 39
  bigSigma1 x := rotateRight64 x 14 ^^^ rotateRight64 x 18 ^^^ rotateRight64 x 41
  smallSigma0 x := rotateRight64 x 1 ^^^ rotateRight64 x 8 ^^^ (x >>> 7)
  smallSigma1 x := rotateRight64 x 19 ^^^ rotateRight64 x 61 ^^^ (x >>> 6)
  constants := [
    0x428a2f98d728ae22, 0x7137449123ef65cd, 0xb5c0fbcfec4d3b2f, 0xe9b5dba58189dbbc,
    0x3956c25bf348b538, 0x59f111f1b605d019, 0x923f82a4af194f9b, 0xab1c5ed5da6d8118,
    0xd807aa98a3030242, 0x12835b0145706fbe, 0x243185be4ee4b28c, 0x550c7dc3d5ffb4e2,
    0x72be5d74f27b896f, 0x80deb1fe3b1696b1, 0x9bdc06a725c71235, 0xc19bf174cf692694,
    0xe49b69c19ef14ad2, 0xefbe4786384f25e3, 0x0fc19dc68b8cd5b5, 0x240ca1cc77ac9c65,
    0x2de92c6f592b0275, 0x4a7484aa6ea6e483, 0x5cb0a9dcbd41fbd4, 0x76f988da831153b5,
    0x983e5152ee66dfab, 0xa831c66d2db43210, 0xb00327c898fb213f, 0xbf597fc7beef0ee4,
    0xc6e00bf33da88fc2, 0xd5a79147930aa725, 0x06ca6351e003826f, 0x142929670a0e6e70,
    0x27b70a8546d22ffc, 0x2e1b21385c26c926, 0x4d2c6dfc5ac42aed, 0x53380d139d95b3df,
    0x650a73548baf63de, 0x766a0abb3c77b2a8, 0x81c2c92e47edaee6, 0x92722c851482353b,
    0xa2bfe8a14cf10364, 0xa81a664bbc423001, 0xc24b8b70d0f89791, 0xc76c51a30654be30,
    0xd192e819d6ef5218, 0xd69906245565a910, 0xf40e35855771202a, 0x106aa07032bbd1b8,
    0x19a4c116b8d2d0c8, 0x1e376c085141ab53, 0x2748774cdf8eeb99, 0x34b0bcb5e19b48a8,
    0x391c0cb3c5c95a63, 0x4ed8aa4ae3418acb, 0x5b9cca4f7763e373, 0x682e6ff3d6b2b8a3,
    0x748f82ee5defb2fc, 0x78a5636f43172f60, 0x84c87814a1f0ab72, 0x8cc702081a6439ec,
    0x90befffa23631e28, 0xa4506cebde82bde9, 0xbef9a3f7b2c67915, 0xc67178f2e372532b,
    0xca273eceea26619c, 0xd186b8c721c0c207, 0xeada7dd6cde0eb1e, 0xf57d4f7fee6ed178,
    0x06f067aa72176fba, 0x0a637dc5a2c898a6, 0x113f9804bef90dae, 0x1b710b35131c471b,
    0x28db77f523047d84, 0x32caab7b40c72493, 0x3c9ebe0a15c9bebc, 0x431d67c49c100d4c,
    0x4cc5d4becb3e42b6, 0x597f299cfc657e2a, 0x5fcb6fab3ad6faec, 0x6c44198c4a475817]
  initial := ⟨0x6a09e667f3bcc908, 0xbb67ae8584caa73b, 0x3c6ef372fe94f82b, 0xa54ff53a5f1d36f1,
    0x510e527fade682d1, 0x9b05688c2b3e6c1f, 0x1f83d9abfb41bd6b, 0x5be0cd19137e2179⟩

end Courier.Sha2

namespace Courier

/-- The SHA-256 hash of a message, 32 bytes. -/
def sha256 (message : Bytes) : Bytes := Sha2.params256.hash message

/-- The SHA-512 hash of a message, 64 bytes. -/
def sha512 (message : Bytes) : Bytes := Sha2.params512.hash message

end Courier
