import Courier.Bytes

/-!
# Courier — hexadecimal text

Bytes written as two lower-case digits each, high half first. Key ids and the shown form of public
keys are written this way.
-/

namespace Courier.Hex

/-- The lower-case digit of a number below sixteen. -/
def digit (n : Nat) : Char := if n < 10 then Char.ofNat (48 + n) else Char.ofNat (87 + n)

/-- The value of a hexadecimal digit of either case. -/
def value? (c : Char) : Option Nat :=
  if '0' ≤ c ∧ c ≤ '9' then some (c.toNat - 48)
  else if 'a' ≤ c ∧ c ≤ 'f' then some (c.toNat - 87)
  else if 'A' ≤ c ∧ c ≤ 'F' then some (c.toNat - 55)
  else none

/-- The digits of a byte string. -/
def encodeChars (bs : Bytes) : List Char :=
  bs.flatMap fun b => [digit (b.toNat / 16), digit (b.toNat % 16)]

/-- Each byte is written with two digits. -/
@[simp] theorem length_encodeChars (bs : Bytes) : (encodeChars bs).length = 2 * bs.length := by
  induction bs with
  | nil => rfl
  | cons b bs ih =>
    rw [encodeChars, List.flatMap_cons, List.length_append, ← encodeChars, ih]
    show 2 + 2 * bs.length = 2 * (bs.length + 1)
    omega

/-- The text of a byte string. -/
def encode (bs : Bytes) : String := String.ofList (encodeChars bs)

/-- The bytes that a run of digits denotes, if it is a whole number of digit pairs. -/
def decodeChars? : List Char → Option Bytes
  | [] => some []
  | h :: l :: cs => do
    let h ← value? h
    let l ← value? l
    let bs ← decodeChars? cs
    return UInt8.ofNat (16 * h + l) :: bs
  | [_] => none

/-- The bytes that a text of digits denotes. -/
def decode? (s : String) : Option Bytes := decodeChars? s.toList

/-- The digits of `n` without leading zeros, as code points are written. -/
def ofNat (n : Nat) : List Char := Nat.toDigits 16 n

end Courier.Hex
