import Courier.Json.Reading
import Courier.Text.Hex

/-!
# Courier — texts in JSON

A text stands in double quotes; quotation marks, backslashes and controls are escaped, and code
points above 16 bits may be escaped as a pair. `quote` writes a text, `readText` reads one behind
its opening quotation mark, and `skipText` passes over one that nobody asked for, whose escapes need
not denote characters.
-/

namespace Courier.Json

/-! ## Writing -/

/-- A character inside double quotes. -/
def escapeChar (c : Char) : List Char :=
  if c = '"' then ['\\', '"']
  else if c = '\\' then ['\\', '\\']
  else if c.toNat = 8 then ['\\', 'b']
  else if c.toNat = 9 then ['\\', 't']
  else if c.toNat = 10 then ['\\', 'n']
  else if c.toNat = 12 then ['\\', 'f']
  else if c.toNat = 13 then ['\\', 'r']
  else if c.toNat < 32 then
    ['\\', 'u', '0', '0', Hex.digit (c.toNat / 16), Hex.digit (c.toNat % 16)]
  else [c]

/-- A text in double quotes. -/
def quote (s : String) : List Char := '"' :: s.toList.flatMap escapeChar ++ ['"']

/-! ## Reading -/

/-- The four digits of an escape by number. -/
inductive FourDigits (cs : List Char) where
  | value (n : Nat) (rest : List Char) (shorter : rest.length < cs.length)
  | failed (cause : Cause) (left : Nat)

/-- Four bytes are taken for the digits, or what is left of the text if it has fewer. -/
def noDigits (cs : List Char) : FourDigits cs :=
  if bytesOf cs < 4 then .failed .endInText 0 else .failed .invalidEscape (bytesOf cs - 4)

def fourDigits : (cs : List Char) → FourDigits cs
  | a :: b :: c :: d :: rest =>
    match Hex.value? a, Hex.value? b, Hex.value? c, Hex.value? d with
    | some a, some b, some c, some d =>
      .value (((a * 16 + b) * 16 + c) * 16 + d) rest (by simp; omega)
    | _, _, _, _ => noDigits _
  | cs => noDigits cs

/-- An escape, behind its backslash. -/
inductive Escape (cs : List Char) where
  | char (c : Char) (rest : List Char) (shorter : rest.length < cs.length)
  | failed (cause : Cause) (left : Nat)

/-- The number escapes one half of a pair. -/
def isHighHalf (n : Nat) : Bool := 0xD800 ≤ n ∧ n ≤ 0xDBFF

def isLowHalf (n : Nat) : Bool := 0xDC00 ≤ n ∧ n ≤ 0xDFFF

/-- The code point of a pair of halves. -/
def joinHalves (high low : Nat) : Nat := 0x10000 + (high - 0xD800) * 1024 + (low - 0xDC00)

/-- The second half of a pair, behind the first one. -/
def lowHalf (high : Nat) : (cs : List Char) → Escape cs
  | [] => .failed .endInText 0
  | '\\' :: [] => .failed .endInText 0
  | '\\' :: 'u' :: cs =>
    match fourDigits cs with
    | .failed cause left => .failed cause left
    | .value n rest h =>
      if isLowHalf n then .char (Char.ofNat (joinHalves high n)) rest (by simp; omega)
      else .failed .loneSurrogate (bytesOf rest)
  | '\\' :: cs => .failed .unfinishedPair (bytesOf cs - 1)
  | cs => .failed .unfinishedPair (bytesOf cs - 1)

/-- The letters that escape a single character. -/
def escapeLetter? (c : Char) : Option Char :=
  if c = '"' ∨ c = '\\' ∨ c = '/' then some c
  else if c = 'b' then some (Char.ofNat 8)
  else if c = 'f' then some (Char.ofNat 12)
  else if c = 'n' then some (Char.ofNat 10)
  else if c = 'r' then some (Char.ofNat 13)
  else if c = 't' then some (Char.ofNat 9)
  else none

def readEscape : (cs : List Char) → Escape cs
  | [] => .failed .endInText 0
  | c :: cs =>
    if c = 'u' then
      match fourDigits cs with
      | .failed cause left => .failed cause left
      | .value n rest h =>
        if isLowHalf n then .failed .loneSurrogate (bytesOf rest)
        else if isHighHalf n then
          match lowHalf n rest with
          | .char c rest h' => .char c rest (by simp; omega)
          | .failed cause left => .failed cause left
        else .char (Char.ofNat n) rest (by simp; omega)
    else
      match escapeLetter? c with
      | some e => .char e cs (by simp)
      | none => .failed .invalidEscape (bytesOf (c :: cs) - 1)

/-- The rest of a text, whose beginning was read in reverse. -/
def readChars (start : List Char) (cs : List Char) : Reading (List Char) :=
  match cs with
  | [] => failHere .endInText []
  | c :: rest =>
    if c = '"' then .done start.reverse rest
    else if c = '\\' then
      match readEscape rest with
      | .char e rest' _ => readChars (e :: start) rest'
      | .failed cause left => .failed cause left
    else if c.toNat < 32 then failNext .controlCharacter (c :: rest)
    else readChars (c :: start) rest
termination_by cs.length
decreasing_by all_goals (simp; try omega)

/-- A text, behind its opening quotation mark. -/
def readText (cs : List Char) : Reading String := (readChars [] cs).map String.ofList

/-! ## Texts that nobody asked for -/

def skipEscape : (cs : List Char) → Escape cs
  | [] => .failed .endInText 0
  | c :: cs =>
    if c = 'u' then
      match fourDigits cs with
      | .failed cause left => .failed cause left
      | .value _ rest h => .char c rest (by simp; omega)
    else
      match escapeLetter? c with
      | some e => .char e cs (by simp)
      | none => .failed .invalidEscape (bytesOf (c :: cs) - 1)

/-- Passes over a text, behind its opening quotation mark. -/
def skipText (cs : List Char) : Reading Unit :=
  match cs with
  | [] => failHere .endInText []
  | c :: rest =>
    if c = '"' then .done () rest
    else if c = '\\' then
      match skipEscape rest with
      | .char _ rest' _ => skipText rest'
      | .failed cause left => .failed cause left
    else if c.toNat < 32 then failHere .controlCharacter (c :: rest)
    else skipText rest
termination_by cs.length
decreasing_by all_goals (simp; try omega)

end Courier.Json
