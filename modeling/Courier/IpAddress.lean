import Courier.Address
import Courier.Text.Hex

/-!
# Courier — numeric hosts

The host of a peer that is known by its numeric address. Of the groups of a long address the first
longest run of two or more zeros is left out, and an address that embeds a short one shows it in
decimal.
-/

namespace Courier

/-- A numeric address of a host. -/
inductive IpAddress where
  | v4 (bytes : Block 4)
  | v6 (bytes : Block 16)
deriving DecidableEq

namespace IpAddress

/-- The address in these bytes, four or sixteen of them. -/
def ofBytes? (bs : Bytes) : Option IpAddress :=
  (Block.ofBytes? 4 bs).map v4 <|> (Block.ofBytes? 16 bs).map v6

/-- Four bytes in decimal, with points between them. -/
def dotted (bs : Bytes) : String := ".".intercalate (bs.map fun b => toString b.toNat)

/-- The groups of sixteen bits of a long address. -/
def groups : Bytes → List Nat
  | h :: l :: rest => (256 * h.toNat + l.toNat) :: groups rest
  | _ => []

/-- Groups in hexadecimal, with colons between them. -/
def joined (gs : List Nat) : String := ":".intercalate (gs.map fun g => String.ofList (Hex.ofNat g))

/-- The length of the run of zeros at the front. -/
def zerosAtFront (gs : List Nat) : Nat := (gs.takeWhile (· == 0)).length

/-- Start and length of the first longest run of zeros, from place `i` on, where `best` was found
before. -/
def longestRun (best : Nat × Nat) : Nat → List Nat → Nat × Nat
  | _, [] => best
  | i, g :: gs =>
    let here := zerosAtFront (g :: gs)
    longestRun (if best.2 < here then (i, here) else best) (i + 1) gs

/-- A long address by its groups. -/
def groupText (gs : List Nat) : String :=
  let (start, length) := longestRun (0, 0) 0 gs
  if 1 < length then joined (gs.take start) ++ "::" ++ joined (gs.drop (start + length))
  else joined gs

/-- The written form of a numeric address. -/
def text : IpAddress → String
  | v4 bs => dotted bs.bytes
  | v6 bs =>
    if bs.bytes.take 12 = [0, 0, 0, 0, 0, 0, 0, 0, 0, 0, 255, 255] then
      "::ffff:" ++ dotted (bs.bytes.drop 12)
    else groupText (groups bs.bytes)

/-- The address of a peer at a numeric host. -/
def address (ip : IpAddress) (port : UInt16) : Address := ⟨ip.text, port⟩

end IpAddress

end Courier
