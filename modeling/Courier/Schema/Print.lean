import Courier.Schema.Basic
import Courier.Json.Quoted
import Courier.Text.Base64

/-!
# Courier — JSON form, written

The JSON form is compact, records have their fields in order, and an absent value is `null`. Byte
strings are lists of numbers.
-/

namespace Courier.Json

/-- A number in decimal digits. -/
def digits (n : Nat) : List Char := Nat.toDigits 10 n

/-- Members with commas between them. -/
def commaSeparated (members : List (List Char)) : List Char := [','].intercalate members

/-- A list. -/
def bracketed (members : List (List Char)) : List Char := '[' :: commaSeparated members ++ [']']

/-- An object. -/
def braced (members : List (List Char)) : List Char :=
  '\x7b' :: commaSeparated members ++ ['\x7d']

/-- A key with its value. -/
def member (name : String) (value : List Char) : List Char := quote name ++ ':' :: value

/-- A list of the bytes as numbers. -/
def byteList (bs : Bytes) : List Char := bracketed (bs.map fun b => digits b.toNat)

end Courier.Json

namespace Courier

open Json

mutual

/-- The characters of the JSON form of a value. -/
def Schema.print : {α : Type} → Schema α → α → List Char
  | _, .word8, n => digits n.toNat
  | _, .word16, n => digits n.toNat
  | _, .word64 _, n => digits n.toNat
  | _, .flag, b => if b then ['t', 'r', 'u', 'e'] else ['f', 'a', 'l', 's', 'e']
  | _, .text, s => quote s
  | _, .octets, bs => byteList bs
  | _, .block _, b => byteList b.bytes
  | _, .base64 _, b => quote (Base64.encode b.bytes)
  | _, .optional _, none => ['n', 'u', 'l', 'l']
  | _, .optional s, some a => s.print a
  | _, .record _ _ fields view, a => braced (fields.print (view.forth a))
  | _, .choice cases view, a => cases.print (view.forth a)
  | _, .label names view, a => quote (names.get (view.forth a))

/-- The members of a record. -/
def Fields.print : {β : Type} → Fields β → β → List (List Char)
  | _, .nil, _ => []
  | _, .cons name s _ rest, (a, b) => member name (s.print a) :: rest.print b

/-- An object whose only key names the alternative. -/
def Cases.print : {β : Type} → Cases β → β → List Char
  | _, .nil, e => nomatch e
  | _, .cons name s _, .inl a => braced [member name (s.print a)]
  | _, .cons _ _ rest, .inr b => rest.print b

end

/-- The JSON form of a value. -/
def Schema.toJson {α : Type} (s : Schema α) (a : α) : String := String.ofList (s.print a)

end Courier
