import Courier.Bytes

/-!
# Courier — Base64 text

The standard alphabet with padding, and one form for each byte string: reading refuses missing or
extra padding, symbols outside the alphabet, and unused low bits that are not zero. The reader
looks at all groups of four but the last from left to right, and then at the last group, which alone
may hold padding; a fault is named with its place.
-/

namespace Courier.Base64

/-- Why a text is no canonical form. -/
inductive Fault where
  | symbol (byte : UInt8) (offset : Nat)
  | length (n : Nat)
  | lastSymbol (byte : UInt8) (offset : Nat)
  | padding
deriving DecidableEq, Repr

def Fault.message : Fault → String
  | symbol byte offset => s!"Invalid symbol {byte}, offset {offset}."
  | length n => s!"Invalid input length: {n}"
  | lastSymbol byte offset => s!"Invalid last symbol {byte}, offset {offset}."
  | padding => "Invalid padding"

/-- The padding sign `=`. -/
def pad : UInt8 := 61

/-- The symbol of a number below 64: `A`–`Z`, `a`–`z`, `0`–`9`, `+`, `/`. -/
def symbol (n : Nat) : UInt8 :=
  if n < 26 then UInt8.ofNat (65 + n)
  else if n < 52 then UInt8.ofNat (71 + n)
  else if n < 62 then UInt8.ofNat (n - 4)
  else if n = 62 then 43
  else 47

/-- The number that a symbol stands for. -/
def value? (b : UInt8) : Option Nat :=
  if 65 ≤ b ∧ b ≤ 90 then some (b.toNat - 65)
  else if 97 ≤ b ∧ b ≤ 122 then some (b.toNat - 71)
  else if 48 ≤ b ∧ b ≤ 57 then some (b.toNat + 4)
  else if b = 43 then some 62
  else if b = 47 then some 63
  else none

/-! ## Writing -/

/-- The symbols of a byte string, three bytes to four symbols. -/
def encodeBytes : Bytes → Bytes
  | a :: b :: c :: rest =>
    symbol (a.toNat / 4) :: symbol (a.toNat % 4 * 16 + b.toNat / 16)
      :: symbol (b.toNat % 16 * 4 + c.toNat / 64) :: symbol (c.toNat % 64) :: encodeBytes rest
  | [a, b] =>
    [symbol (a.toNat / 4), symbol (a.toNat % 4 * 16 + b.toNat / 16), symbol (b.toNat % 16 * 4), pad]
  | [a] => [symbol (a.toNat / 4), symbol (a.toNat % 4 * 16), pad, pad]
  | [] => []

/-- The text of a byte string. -/
def encode (bs : Bytes) : String :=
  String.ofList ((encodeBytes bs).map fun b => Char.ofNat b.toNat)

/-! ## Reading -/

/-- The bytes of a full group of four symbols. -/
def group (p q r s : Nat) : Bytes :=
  [UInt8.ofNat (p * 4 + q / 16), UInt8.ofNat (q % 16 * 16 + r / 4), UInt8.ofNat (r % 4 * 64 + s)]

/-- The value of the symbol at `offset`. -/
def valueAt (offset : Nat) (b : UInt8) : Except Fault Nat :=
  match value? b with
  | some n => .ok n
  | none => .error (.symbol b offset)

/-- The symbols of the last group in front of its padding, and the number of padding signs. Padding
stands at the third or fourth place only, and nothing stands behind it. -/
def lastSymbols (start : Nat) : Nat → Bytes → Except Fault (List Nat × Nat)
  | _, [] => .ok ([], 0)
  | i, b :: rest =>
    if b = pad then
      if i < 2 then .error (.symbol b (start + i))
      else if rest.all (· == pad) then .ok ([], rest.length + 1)
      else .error (.symbol pad (start + i))
    else do
      let n ← valueAt (start + i) b
      let (ns, pads) ← lastSymbols start (i + 1) rest
      return (n :: ns, pads)

/-- The bytes of the last group, which begins at `start`, from its symbols and the number of its
padding signs. -/
def lastBytes (start : Nat) (ns : List Nat) (pads : Nat) : Except Fault Bytes :=
  if ns.length < 2 then .error (.length (start + ns.length))
  else if (ns.length + pads) % 4 ≠ 0 then .error .padding
  else
    match ns with
    | [p, q, r, s] => .ok (group p q r s)
    | [p, q, r] =>
      if r % 4 = 0 then .ok ((group p q r 0).take 2)
      else .error (.lastSymbol (symbol r) (start + 2))
    | [p, q] =>
      if q % 16 = 0 then .ok ((group p q 0 0).take 1)
      else .error (.lastSymbol (symbol q) (start + 1))
    | _ => .ok []

/-- The bytes of the last group, which begins at `start` and is not empty. -/
def decodeLast (start : Nat) (bs : Bytes) : Except Fault Bytes :=
  match lastSymbols start 0 bs with
  | .error fault => .error fault
  | .ok (ns, pads) => lastBytes start ns pads

/-- The bytes of the groups from `start` on. -/
def decodeFrom (start : Nat) : Bytes → Except Fault Bytes
  | [] => .ok []
  | a :: b :: c :: d :: rest =>
    if rest.isEmpty then decodeLast start [a, b, c, d]
    else do
      let p ← valueAt start a
      let q ← valueAt (start + 1) b
      let r ← valueAt (start + 2) c
      let s ← valueAt (start + 3) d
      let bs ← decodeFrom (start + 4) rest
      return group p q r s ++ bs
  | last => decodeLast start last

/-- The bytes that a text stands for. A text with one symbol too many is refused for that symbol
first, when it is neither padding nor in the alphabet. -/
def decodeBytes (bs : Bytes) : Except Fault Bytes :=
  match bs.getLast? with
  | some b =>
    if bs.length % 4 = 1 ∧ b ≠ pad ∧ (value? b).isNone then .error (.symbol b (bs.length - 1))
    else decodeFrom 0 bs
  | none => .ok []

/-- The bytes that a text stands for. -/
def decode (s : String) : Except Fault Bytes := decodeBytes (Bytes.ofText s)

end Courier.Base64
