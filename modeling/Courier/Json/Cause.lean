import Courier.Text.Quoted
import Courier.Text.Base64

/-!
# Courier — why a JSON text is refused

A text is refused for its form, or because a value in it is not the one expected there. `Cause` is
the reason and `Cause.message` its wording; `Place` is where in the text the reader stood, counted
in lines and in bytes of the line.
-/

namespace Courier.Json

/-- What stood where something else was expected. -/
inductive Found where
  | null
  | boolean (b : Bool)
  | integer (i : Int)
  /-- A number with a fraction, an exponent, or too many digits; shown by its shortest decimal. -/
  | decimal (digits : String)
  | text (s : String)
  | sequence
  | map
  /-- The bare name of an alternative. -/
  | name
deriving DecidableEq, Repr

def Found.message : Found → String
  | null => "null"
  | boolean b => s!"boolean `{b}`"
  | integer i => s!"integer `{i}`"
  | decimal digits => s!"floating point `{digits}`"
  | text s => s!"string {Text.quoted s}"
  | sequence => "sequence"
  | map => "map"
  | name => "unit variant"

/-- The reason for which a JSON text is refused. -/
inductive Cause where
  -- the text ends too early
  | endInList | endInObject | endInText | endInValue
  -- the form of the text
  | expectedColon | expectedListEnd | expectedObjectEnd | expectedWord | expectedValue
  | invalidEscape | invalidNumber | numberOutOfRange | controlCharacter | keyNotText
  | loneSurrogate | unfinishedPair | trailingComma | trailingCharacters
  -- the values in it
  | wrongType (found : Found) (expected : String)
  | wrongValue (found : Found) (expected : String)
  | wrongLength (length : Nat) (expected : String)
  | unknownName (name : String) (known : List String)
  | missingField (name : String)
  | repeatedField (name : String)
  | notBase64 (fault : Base64.Fault)
  | blockLength (expected length : Nat)
deriving DecidableEq, Repr

/-- Names in backticks, joined as a choice among them. -/
def choiceText : List String → String
  | [] => "there are no variants"
  | [a] => s!"expected `{a}`"
  | [a, b] => s!"expected `{a}` or `{b}`"
  | names => "expected one of " ++ ", ".intercalate (names.map fun n => s!"`{n}`")

def Cause.message : Cause → String
  | endInList => "EOF while parsing a list"
  | endInObject => "EOF while parsing an object"
  | endInText => "EOF while parsing a string"
  | endInValue => "EOF while parsing a value"
  | expectedColon => "expected `:`"
  | expectedListEnd => "expected `,` or `]`"
  | expectedObjectEnd => "expected `,` or `\x7d`"
  | expectedWord => "expected ident"
  | expectedValue => "expected value"
  | invalidEscape => "invalid escape"
  | invalidNumber => "invalid number"
  | numberOutOfRange => "number out of range"
  | controlCharacter => "control character (\\u0000-\\u001F) found while parsing a string"
  | keyNotText => "key must be a string"
  | loneSurrogate => "lone leading surrogate in hex escape"
  | unfinishedPair => "unexpected end of hex escape"
  | trailingComma => "trailing comma"
  | trailingCharacters => "trailing characters"
  | wrongType found expected => s!"invalid type: {found.message}, expected {expected}"
  | wrongValue found expected => s!"invalid value: {found.message}, expected {expected}"
  | wrongLength length expected => s!"invalid length {length}, expected {expected}"
  | unknownName name known => s!"unknown variant `{name}`, {choiceText known}"
  | missingField name => s!"missing field `{name}`"
  | repeatedField name => s!"duplicate field `{name}`"
  | notBase64 fault => fault.message
  | blockLength expected length => s!"expected {expected} bytes, got {length}"

/-- A place in a text: the line, counted from one, and the number of bytes before it in that
line. -/
structure Place where
  line : Nat
  column : Nat
deriving DecidableEq, Repr

/-- The place behind these bytes. -/
def Place.after (bs : Bytes) : Place :=
  bs.foldl (fun p b => if b = 10 then ⟨p.line + 1, 0⟩ else ⟨p.line, p.column + 1⟩) ⟨1, 0⟩

/-- A refusal: the reason, and where it was noticed. A refusal that belongs to the whole text has no
place. -/
structure Fault where
  cause : Cause
  place : Option Place
deriving DecidableEq, Repr

def Fault.message (f : Fault) : String :=
  match f.place with
  | some p => s!"{f.cause.message} at line {p.line} column {p.column}"
  | none => f.cause.message

end Courier.Json
