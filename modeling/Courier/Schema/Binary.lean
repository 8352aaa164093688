import Courier.Schema.Basic
import Courier.Text.Base64
import Courier.Text.Utf8

/-!
# Courier — binary form

Whole numbers stand in a fixed number of bytes, low byte first; texts and byte strings stand behind
their length in eight bytes; the alternatives of a choice are numbered in four bytes; an optional
value stands behind a byte that tells whether it is there. Records are their fields in order. What
stands behind a value is left unread.

* `Schema.encode` / `Schema.decode` — writing a value, and reading one from the front of the data;
* `Schema.encodedSize` — the number of bytes written.
-/

namespace Courier.Binary

/-- Why data is no value. -/
inductive Fault where
  /-- The data ends inside a number, a byte or a tag. -/
  | endOfData
  /-- A text is announced to be longer than the data. -/
  | endInText
  | notText (fault : Utf8.Fault)
  | notFlag (byte : UInt8)
  | notTag (byte : UInt8)
  /-- An alternative number `index` of `count`. -/
  | noSuchCase (index count : Nat)
  | notBase64 (fault : Base64.Fault)
  | blockLength (expected length : Nat)
deriving DecidableEq, Repr

def Fault.message : Fault → String
  | endOfData => "io error: unexpected end of file"
  | endInText => "io error: "
  | notText fault => s!"string is not valid utf8: {fault.message}"
  | notFlag byte => s!"invalid u8 while decoding bool, expected 0 or 1, found {byte}"
  | notTag byte => s!"tag for enum is not valid, found {byte}"
  | noSuchCase index count =>
    s!"invalid value: integer `{index}`, expected variant index 0 <= i < {count}"
  | notBase64 fault => fault.message
  | blockLength expected length => s!"expected {expected} bytes, got {length}"

/-- A reader takes a value off the front of the data. -/
abbrev Decoder (α : Type) := Bytes → Except Fault (α × Bytes)

/-! ## Parts -/

/-- A byte string behind its length. -/
def encodeOctets (bs : Bytes) : Bytes := Bytes.littleEndian 8 bs.length ++ bs

def encodeText (s : String) : Bytes := encodeOctets (Bytes.ofText s)

/-- The first `n` bytes. -/
def takeBytes (n : Nat) (bs : Bytes) : Except Fault (Bytes × Bytes) :=
  let front := bs.take n
  if front.length = n then .ok (front, bs.drop n) else .error .endOfData

/-- A number of `n` bytes. -/
def decodeNat (n : Nat) : Decoder Nat := fun bs => do
  let (front, rest) ← takeBytes n bs
  return (Bytes.ofLittleEndian front, rest)

def decodeByte : Decoder UInt8
  | [] => .error .endOfData
  | b :: rest => .ok (b, rest)

def decodeOctets : Decoder Bytes := fun bs => do
  let (n, rest) ← decodeNat 8 bs
  takeBytes n rest

def decodeText : Decoder String := fun bs => do
  let (n, rest) ← decodeNat 8 bs
  match takeBytes n rest with
  | .error _ => .error .endInText
  | .ok (front, rest) =>
    match Utf8.decode front with
    | .ok s => .ok (s, rest)
    | .error fault => .error (.notText fault)

def decodeBlock (n : Nat) : Decoder (Block n) := fun bs =>
  let front := bs.take n
  if h : front.length = n then .ok (⟨front, h⟩, bs.drop n) else .error .endOfData

def decodeBase64 (n : Nat) : Decoder (Block n) := fun bs => do
  let (s, rest) ← decodeText bs
  match Base64.decode s with
  | .error fault => .error (.notBase64 fault)
  | .ok bytes =>
    if h : bytes.length = n then .ok (⟨bytes, h⟩, rest)
    else .error (.blockLength n bytes.length)

end Courier.Binary

namespace Courier

open Binary

/-! ## Writing -/

mutual

/-- The binary form of a value. -/
def Schema.encode : {α : Type} → Schema α → α → Bytes
  | _, .word8, n => [n]
  | _, .word16, n => Bytes.littleEndian 2 n.toNat
  | _, .word64 _, n => Bytes.littleEndian 8 n.toNat
  | _, .flag, b => [if b then 1 else 0]
  | _, .text, s => encodeText s
  | _, .octets, bs => encodeOctets bs
  | _, .block _, b => b.bytes
  | _, .base64 _, b => encodeText (Base64.encode b.bytes)
  | _, .optional _, none => [0]
  | _, .optional s, some a => 1 :: s.encode a
  | _, .record _ _ fields view, a => fields.encode (view.forth a)
  | _, .choice cases view, a => cases.encode 0 (view.forth a)
  | _, .label _ view, a => Bytes.littleEndian 4 (view.forth a).val

def Fields.encode : {β : Type} → Fields β → β → Bytes
  | _, .nil, _ => []
  | _, .cons _ s _ rest, (a, b) => s.encode a ++ rest.encode b

/-- An alternative, where the first of these has the number `index`. -/
def Cases.encode : {β : Type} → Cases β → Nat → β → Bytes
  | _, .nil, _, e => nomatch e
  | _, .cons _ s _, index, .inl a => Bytes.littleEndian 4 index ++ s.encode a
  | _, .cons _ _ rest, index, .inr b => rest.encode (index + 1) b

end

/-- The number of bytes of the binary form. -/
def Schema.encodedSize {α : Type} (s : Schema α) (a : α) : Nat := (s.encode a).length

/-! ## Reading -/

mutual

/-- Reads a value from the front of the data. -/
def Schema.decode : {α : Type} → Schema α → Decoder α
  | _, .word8 => decodeByte
  | _, .word16 => fun bs => do
    let (n, rest) ← decodeNat 2 bs
    return (UInt16.ofNat n, rest)
  | _, .word64 _ => fun bs => do
    let (n, rest) ← decodeNat 8 bs
    return (UInt64.ofNat n, rest)
  | _, .flag => fun bs => do
    let (b, rest) ← decodeByte bs
    if b = 0 then return (false, rest)
    else if b = 1 then return (true, rest)
    else throw (.notFlag b)
  | _, .text => decodeText
  | _, .octets => decodeOctets
  | _, .block n => decodeBlock n
  | _, .base64 n => decodeBase64 n
  | _, .optional s => fun bs => do
    let (b, rest) ← decodeByte bs
    if b = 0 then return (none, rest)
    else if b = 1 then
      let (a, rest) ← s.decode rest
      return (some a, rest)
    else throw (.notTag b)
  | _, .record _ _ fields view => fun bs => do
    let (b, rest) ← fields.decode bs
    return (view.back b, rest)
  | _, .choice cases view => fun bs => do
    let (index, rest) ← decodeNat 4 bs
    let (b, rest) ← cases.decode index index cases.names.length rest
    return (view.back b, rest)
  | _, .label names view => fun bs => do
    let (index, rest) ← decodeNat 4 bs
    if h : index < names.length then return (view.back ⟨index, h⟩, rest)
    else throw (.noSuchCase index names.length)

def Fields.decode : {β : Type} → Fields β → Decoder β
  | _, .nil => fun bs => .ok ((), bs)
  | _, .cons _ s _ rest => fun bs => do
    let (a, bs) ← s.decode bs
    let (b, bs) ← rest.decode bs
    return ((a, b), bs)

/-- The value of the alternative `n` of these; the data announced number `index` of `count`. -/
def Cases.decode : {β : Type} → Cases β → (n index count : Nat) → Decoder β
  | _, .nil, _, index, count => fun _ => .error (.noSuchCase index count)
  | _, .cons _ s _, 0, _, _ => fun bs => do
    let (a, rest) ← s.decode bs
    return (.inl a, rest)
  | _, .cons _ _ rest, n + 1, index, count => fun bs => do
    let (b, bs) ← rest.decode n index count bs
    return (.inr b, bs)

end

end Courier
