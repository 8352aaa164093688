import Courier.Json.Number
import Courier.Json.Quoted

/-!
# Courier — passing over JSON values

The value of a field that nobody knows is passed over. It has to be well formed, but may be nested
to any depth: the brackets that are open are kept in a list.
-/

namespace Courier.Json

inductive Bracket where
  | list
  | object
deriving DecidableEq, Repr

/-- What the reader looks for next while it passes over a value. -/
inductive Expecting where
  /-- A value. -/
  | value
  /-- A member or the end of the bracket that was just opened. -/
  | member
  /-- A key of the innermost bracket, an object. -/
  | key
  /-- A comma or the end of the innermost bracket. -/
  | comma
deriving DecidableEq, Repr

/-- Passes over a value without members, at its first character. -/
def skipScalar : List Char → Reading Unit
  | 'n' :: rest => keyword ['u', 'l', 'l'] rest
  | 't' :: rest => keyword ['r', 'u', 'e'] rest
  | 'f' :: rest => keyword ['a', 'l', 's', 'e'] rest
  | '-' :: rest => Number.skipUnsigned rest
  | '"' :: rest => skipText rest
  | c :: rest =>
    if isDigit c then Number.skipUnsigned (c :: rest) else failNext .expectedValue (c :: rest)
  | [] => failNext .endInValue []

/-- Passes over a key and its colon, at the opening quotation mark. -/
def skipKey : List Char → Reading Unit
  | '"' :: rest => (skipText rest).andThen fun _ rest => colon rest
  | [] => failNext .endInObject []
  | rest => failNext .keyNotText rest

/-- What the reader looks for behind a value, inside these brackets. -/
def endOf : Bracket → Char
  | .list => ']'
  | .object => '\x7d'

def endMissing : Bracket → Cause
  | .list => .endInList
  | .object => .endInObject

def commaMissing : Bracket → Cause
  | .list => .expectedListEnd
  | .object => .expectedObjectEnd

/-- Passes over the rest of a value, inside the brackets `opened`, innermost first. Each step takes
a character or turns from a member to a value or key, so twice the length of the text is fuel
enough. -/
def skipOn : Nat → Expecting → List Bracket → List Char → Reading Unit
  | 0, _, _, cs => failNext .endInValue cs
  | fuel + 1, .value, opened, cs =>
    match skipBlanks cs with
    | '[' :: rest => skipOn fuel .member (.list :: opened) rest
    | '\x7b' :: rest => skipOn fuel .member (.object :: opened) rest
    | cs =>
      match skipScalar cs with
      | .done _ rest => skipOn fuel .comma opened rest
      | .refused cause rest => .refused cause rest
      | .failed cause left => .failed cause left
  | _ + 1, .member, [], cs => .done () cs
  | fuel + 1, .member, b :: opened, cs =>
    match skipBlanks cs with
    | [] => failNext (endMissing b) []
    | c :: rest =>
      if c = endOf b then skipOn fuel .comma opened rest
      else
        match b with
        | .list => skipOn fuel .value (b :: opened) (c :: rest)
        | .object => skipOn fuel .key (b :: opened) (c :: rest)
  | fuel + 1, .key, opened, cs =>
    match skipKey (skipBlanks cs) with
    | .done _ rest => skipOn fuel .value opened rest
    | .refused cause rest => .refused cause rest
    | .failed cause left => .failed cause left
  | _ + 1, .comma, [], cs => .done () cs
  | fuel + 1, .comma, b :: opened, cs =>
    match skipBlanks cs with
    | [] => failNext (endMissing b) []
    | c :: rest =>
      if c = endOf b then skipOn fuel .comma opened rest
      else if c = ',' then
        match b with
        | .list => skipOn fuel .value (b :: opened) rest
        | .object => skipOn fuel .key (b :: opened) rest
      else failNext (commaMissing b) (c :: rest)

/-- Passes over a value. -/
def skipValue (cs : List Char) : Reading Unit := skipOn (2 * cs.length + 2) .value [] cs

end Courier.Json
