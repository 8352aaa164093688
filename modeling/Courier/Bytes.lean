/-!
# Courier — byte strings

Byte strings are lists, so that the codecs are stated by recursion on the data. `Block n` is a byte
string of known length: a key, a signature, a nonce.

* `littleEndian` / `ofLittleEndian` — whole numbers in a fixed number of bytes, low byte first;
* `bigEndian` / `ofBigEndian` — the same, high byte first;
* `littleEndian_ofLittleEndian` — bytes that were read are written again.
-/

namespace Courier

/-- A string of bytes. -/
abbrev Bytes := List UInt8

namespace Bytes

/-- The `k` low bytes of `n`, least significant first. -/
def littleEndian : Nat → Nat → Bytes
  | 0, _ => []
  | k + 1, n => UInt8.ofNat n :: littleEndian k (n / 256)

/-- The number whose bytes these are, least significant first. -/
def ofLittleEndian : Bytes → Nat
  | [] => 0
  | b :: bs => b.toNat + 256 * ofLittleEndian bs

/-- The `k` low bytes of `n`, most significant first. -/
def bigEndian (k n : Nat) : Bytes := (littleEndian k n).reverse

/-- The number whose bytes these are, most significant first. -/
def ofBigEndian (bs : Bytes) : Nat := ofLittleEndian bs.reverse

/-- The bytes of a text in UTF-8. -/
def ofText (s : String) : Bytes := s.toUTF8.data.toList

/-- The bytes of a text are those of its UTF-8 form. -/
theorem toByteArray_ofText (s : String) : (ofText s).toByteArray = s.toUTF8 := by
  apply ByteArray.ext
  rw [ofText, List.data_toByteArray, Array.toArray_toList]

/-- Two byte strings of one length, added bit by bit without carry. -/
def xor (xs ys : Bytes) : Bytes := List.zipWith (· ^^^ ·) xs ys

/-- A number written low byte first takes just the bytes that are given to it. -/
@[simp] theorem length_littleEndian (k n : Nat) : (littleEndian k n).length = k := by
  induction k generalizing n with
  | zero => rfl
  | succ k ih => simp [littleEndian, ih]

/-- So does a number written high byte first. -/
@[simp] theorem length_bigEndian (k n : Nat) : (bigEndian k n).length = k := by
  simp [bigEndian]

/-- A byte string is the little-endian form of the number it denotes. -/
theorem littleEndian_ofLittleEndian (bs : Bytes) :
    littleEndian bs.length (ofLittleEndian bs) = bs := by
  induction bs with
  | nil => rfl
  | cons b bs ih =>
    have hb : b.toNat < 256 := b.toNat_lt
    have hdiv : (b.toNat + 256 * ofLittleEndian bs) / 256 = ofLittleEndian bs := by omega
    rw [List.length_cons, littleEndian, ofLittleEndian, hdiv, ih]
    congr 1
    apply UInt8.toNat_inj.mp
    simp

/-- A byte string is the big-endian form of the number it denotes. -/
theorem bigEndian_ofBigEndian (bs : Bytes) : bigEndian bs.length (ofBigEndian bs) = bs := by
  have h := littleEndian_ofLittleEndian bs.reverse
  rw [List.length_reverse] at h
  simp [bigEndian, ofBigEndian, h]

end Bytes

/-- A byte string of exactly `n` bytes. -/
structure Block (n : Nat) where
  bytes : Bytes
  length_bytes : bytes.length = n
deriving DecidableEq

namespace Block

/-- The block of these bytes, if they are `n` many. -/
def ofBytes? (n : Nat) (bs : Bytes) : Option (Block n) :=
  if h : bs.length = n then some ⟨bs, h⟩ else none

/-- The first `n` bytes, filled up with zeros. -/
def fit (n : Nat) (bs : Bytes) : Block n :=
  ⟨(bs ++ List.replicate n 0).take n, by simp⟩

/-- The `n` low bytes of a number, least significant first. -/
def ofNat (n value : Nat) : Block n := ⟨Bytes.littleEndian n value, by simp⟩

/-- The number whose bytes the block holds, least significant first. -/
def toNat {n : Nat} (b : Block n) : Nat := Bytes.ofLittleEndian b.bytes

/-- The block of zeros. -/
def zero (n : Nat) : Block n := ⟨List.replicate n 0, by simp⟩

instance (n : Nat) : Inhabited (Block n) := ⟨zero n⟩

/-- A block is read back from its bytes. -/
@[simp] theorem ofBytes?_bytes {n : Nat} (b : Block n) : ofBytes? n b.bytes = some b := by
  simp [ofBytes?, b.length_bytes]

end Block

end Courier
