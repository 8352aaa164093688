import Courier.Bytes

/-!
# Courier — UTF-8 text

Reading a text from bytes. A malformed byte string is refused with the place of its first fault and
the number of bytes that can no longer become a character, or with the place of a character that
the data cuts off.

* `decode_ofText` — the bytes of a text read back as the text;
* `ofText_of_decode` — accepted bytes are the bytes of the text they read as;
* `ofText_injective` — different texts have different bytes;
* `ofText_ofList_ascii` — the bytes of a text of ASCII characters.
-/

namespace Courier.Utf8

/-- The first fault of a byte string that is no text. -/
inductive Fault where
  /-- `length` bytes from `index` on cannot begin a character. -/
  | invalid (length index : Nat)
  /-- The data ends inside the character that begins at `index`. -/
  | incomplete (index : Nat)
deriving DecidableEq, Repr

namespace Fault

def message : Fault → String
  | invalid length index => s!"invalid utf-8 sequence of {length} bytes from index {index}"
  | incomplete index => s!"incomplete utf-8 byte sequence from index {index}"

end Fault

/-- A byte that continues a character. -/
def isTail (b : UInt8) : Bool := 0x80 ≤ b ∧ b ≤ 0xBF

/-- The byte after the first one of a three-byte character: no overlong form, no surrogate. -/
def isSecondOfThree (a b : UInt8) : Bool :=
  if a = 0xE0 then 0xA0 ≤ b ∧ b ≤ 0xBF
  else if a = 0xED then 0x80 ≤ b ∧ b ≤ 0x9F
  else isTail b

/-- The byte after the first one of a four-byte character: no overlong form, none past the last
code point. -/
def isSecondOfFour (a b : UInt8) : Bool :=
  if a = 0xF0 then 0x90 ≤ b ∧ b ≤ 0xBF
  else if a = 0xF4 then 0x80 ≤ b ∧ b ≤ 0x8F
  else isTail b

/-- What follows the first character of a byte string, or the fault in that character, which begins
at `index`; the first component is the length of the character. -/
def step (index : Nat) (a : UInt8) : Bytes → Except Fault (Nat × Bytes)
  | rest =>
    if a < 0x80 then .ok (1, rest)
    else if 0xC2 ≤ a ∧ a ≤ 0xDF then
      match rest with
      | [] => .error (.incomplete index)
      | b :: rest => if isTail b then .ok (2, rest) else .error (.invalid 1 index)
    else if 0xE0 ≤ a ∧ a ≤ 0xEF then
      match rest with
      | [] => .error (.incomplete index)
      | [b] => .error (if isSecondOfThree a b then .incomplete index else .invalid 1 index)
      | b :: c :: rest =>
        if !isSecondOfThree a b then .error (.invalid 1 index)
        else if !isTail c then .error (.invalid 2 index)
        else .ok (3, rest)
    else if 0xF0 ≤ a ∧ a ≤ 0xF4 then
      match rest with
      | [] => .error (.incomplete index)
      | [b] => .error (if isSecondOfFour a b then .incomplete index else .invalid 1 index)
      | [b, c] =>
        .error (if !isSecondOfFour a b then .invalid 1 index
          else if isTail c then .incomplete index else .invalid 2 index)
      | b :: c :: d :: rest =>
        if !isSecondOfFour a b then .error (.invalid 1 index)
        else if !isTail c then .error (.invalid 2 index)
        else if !isTail d then .error (.invalid 3 index)
        else .ok (4, rest)
    else .error (.invalid 1 index)

/-- The first fault at or after `index`; `fuel` bounds the number of characters. -/
def firstFault : Nat → Nat → Bytes → Fault
  | 0, index, _ => .incomplete index
  | _ + 1, index, [] => .incomplete index
  | fuel + 1, index, a :: rest =>
    match step index a rest with
    | .error fault => fault
    | .ok (length, rest) => firstFault fuel (index + length) rest

/-- The text of a byte string, or the first fault in it. -/
def decode (bs : Bytes) : Except Fault String :=
  match String.fromUTF8? bs.toByteArray with
  | some s => .ok s
  | none => .error (firstFault (bs.length + 1) 0 bs)

/-- The bytes of a text read back as the text. -/
theorem decode_ofText (s : String) : decode (Bytes.ofText s) = .ok s := by
  rw [decode, Bytes.toByteArray_ofText, String.fromUTF8?, String.toUTF8_eq_toByteArray,
    dif_pos s.isValidUTF8]
  rfl

/-- Accepted bytes are the bytes of the text they read as. -/
theorem ofText_of_decode {bs : Bytes} {s : String} (h : decode bs = .ok s) :
    Bytes.ofText s = bs := by
  rw [decode, String.fromUTF8?] at h
  split at h
  next t ht =>
    split at ht
    next hv =>
      cases ht
      cases h
      show (List.toByteArray bs).data.toList = bs
      rw [List.data_toByteArray]
    next => cases ht
  next => cases h

theorem utf8EncodeChar_ascii {b : UInt8} (h : b.toNat < 128) :
    String.utf8EncodeChar (Char.ofNat b.toNat) = [b] := by
  have hall : ∀ m : Fin 128, String.utf8EncodeChar (Char.ofNat m.val) = [UInt8.ofNat m.val] := by
    decide
  have hb := hall ⟨b.toNat, h⟩
  rw [UInt8.ofNat_toNat] at hb
  exact hb

/-- A text of ASCII characters has a byte for each of them. -/
theorem ofText_ofList_ascii {bs : Bytes} (h : ∀ b ∈ bs, b.toNat < 128) :
    Bytes.ofText (String.ofList (bs.map fun b => Char.ofNat b.toNat)) = bs := by
  rw [Bytes.ofText, String.toUTF8_eq_toByteArray, String.toByteArray_ofList, List.utf8Encode,
    List.data_toByteArray]
  show List.flatMap _ _ = _
  induction bs with
  | nil => rfl
  | cons b bs ih =>
    rw [List.map_cons, List.flatMap_cons, utf8EncodeChar_ascii (h b (by simp)), ih]
    · rfl
    · exact fun x hx => h x (List.mem_cons_of_mem _ hx)

/-- No character takes more than four bytes. -/
theorem length_ofText_ofList_le (cs : List Char) :
    (Bytes.ofText (String.ofList cs)).length ≤ 4 * cs.length := by
  rw [Bytes.ofText, String.toUTF8_eq_toByteArray, String.toByteArray_ofList, List.utf8Encode,
    List.data_toByteArray]
  show (List.flatMap String.utf8EncodeChar cs).length ≤ _
  induction cs with
  | nil => exact Nat.le_refl 0
  | cons c cs ih =>
    have hc : (String.utf8EncodeChar c).length ≤ 4 := by
      rw [String.length_utf8EncodeChar]
      exact c.utf8Size_le_four
    rw [List.flatMap_cons, List.length_append, List.length_cons]
    omega

/-- Different texts have different bytes. -/
theorem ofText_injective {s t : String} (h : Bytes.ofText s = Bytes.ofText t) : s = t := by
  have hs := decode_ofText s
  rw [h, decode_ofText] at hs
  cases hs
  rfl

end Courier.Utf8
