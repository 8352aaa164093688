import Courier.Json.Cause

/-!
# Courier — reading JSON from the front of a text

A reader takes a value off the front of a list of characters. It ends in one of three ways: with the
value and what follows it; with a refusal that already has its place; or with a refusal whose place
is only known when the value around it has been left. A place is remembered as the number of bytes
that were still to come.

* `Reading` — the outcome of a reader, with its sequencing `andThen`;
* `settle` — gives a refusal the place where the reader stands;
* `skipBlanks`, `keyword`, `colon` — the small parts of the grammar;
* `closeList`, `closeObject` — what follows the last member;
* `nextElement`, `nextKey` — what stands between members.
-/

namespace Courier.Json

/-- The outcome of reading from the front of a text. -/
inductive Reading (α : Type) where
  /-- A value, and what follows it. -/
  | done (value : α) (rest : List Char)
  /-- A refusal that has no place yet; reading stands before `rest`. -/
  | refused (cause : Cause) (rest : List Char)
  /-- A refusal noticed when `left` bytes were still to come. -/
  | failed (cause : Cause) (left : Nat)
deriving DecidableEq, Repr

/-- The number of bytes of a text. -/
def bytesOf (cs : List Char) : Nat := cs.foldr (fun c n => c.utf8Size + n) 0

/-- Refused where the reader stands. -/
def failHere {α : Type} (cause : Cause) (rest : List Char) : Reading α :=
  .failed cause (bytesOf rest)

/-- Refused at the next byte, whether it was only looked at or taken. -/
def failNext {α : Type} (cause : Cause) (rest : List Char) : Reading α :=
  .failed cause (bytesOf rest - 1)

namespace Reading

variable {α β : Type}

/-- Goes on with the value behind what was read. -/
def andThen (r : Reading α) (f : α → List Char → Reading β) : Reading β :=
  match r with
  | done value rest => f value rest
  | refused cause rest => refused cause rest
  | failed cause left => failed cause left

def map (f : α → β) (r : Reading α) : Reading β := r.andThen fun value rest => done (f value) rest

/-- Gives a refusal the place where the reader stands. -/
def settle : Reading α → Reading α
  | refused cause rest => failHere cause rest
  | r => r

end Reading

/-! ## Small parts -/

def isBlank (c : Char) : Bool := c = ' ' || c = '\n' || c = '\t' || c = '\r'

def isDigit (c : Char) : Bool := '0' ≤ c ∧ c ≤ '9'

def skipBlanks (cs : List Char) : List Char := cs.dropWhile isBlank

/-- The rest of a word whose first letter was read. -/
def keyword : List Char → List Char → Reading Unit
  | [], cs => .done () cs
  | _ :: _, [] => failHere .endInValue []
  | w :: word, c :: cs => if c = w then keyword word cs else failNext .expectedWord (c :: cs)

/-- The colon between a key and its value. -/
def colon (cs : List Char) : Reading Unit :=
  match skipBlanks cs with
  | ':' :: rest => .done () rest
  | [] => failNext .endInObject []
  | rest => failNext .expectedColon rest

/-! ## Between members -/

/-- Stands before the closing bracket (`false`), or goes on with the first character that is no
blank. -/
def nextUnless (close : Char) (atEnd : Cause) (goOn : Char → List Char → Reading Bool)
    (cs : List Char) : Reading Bool :=
  match skipBlanks cs with
  | [] => failNext atEnd []
  | c :: rest => if c = close then .done false (c :: rest) else goOn c rest

/-- Stands before the next element of a list, or before the closing bracket (`false`). -/
def nextElement (first : Bool) : List Char → Reading Bool :=
  nextUnless ']' .endInList fun c rest =>
    if first then .done true (c :: rest)
    else if c = ',' then
      match skipBlanks rest with
      | ']' :: rest => failNext .trailingComma (']' :: rest)
      | [] => failNext .endInValue []
      | rest => .done true rest
    else failNext .expectedListEnd (c :: rest)

/-- Stands behind the opening quotation mark of the next key of an object, or before the closing
brace (`false`). -/
def nextKey (first : Bool) : List Char → Reading Bool :=
  nextUnless '\x7d' .endInObject fun c rest =>
    if first then
      if c = '"' then .done true rest else failNext .keyNotText (c :: rest)
    else if c = ',' then
      match skipBlanks rest with
      | '"' :: rest => .done true rest
      | '\x7d' :: rest => failNext .trailingComma ('\x7d' :: rest)
      | [] => failNext .endInValue []
      | rest => failNext .keyNotText rest
    else failNext .expectedObjectEnd (c :: rest)

/-- The closing bracket of a list whose elements have all been read. -/
def listEnd (cs : List Char) : Reading Unit :=
  match skipBlanks cs with
  | ']' :: rest => .done () rest
  | ',' :: rest =>
    match skipBlanks rest with
    | ']' :: rest => failNext .trailingComma (']' :: rest)
    | rest => failNext .trailingCharacters rest
  | [] => failNext .endInList []
  | rest => failNext .trailingCharacters rest

/-- Where a reader stands after looking for the closing bracket, found or not. -/
def pastListEnd (cs : List Char) : List Char :=
  match skipBlanks cs with
  | ']' :: rest => rest
  | ',' :: rest => skipBlanks rest
  | rest => rest

/-- The closing brace of an object whose members have all been read. -/
def objectEnd (cs : List Char) : Reading Unit :=
  match skipBlanks cs with
  | '\x7d' :: rest => .done () rest
  | ',' :: rest => failNext .trailingComma (',' :: rest)
  | [] => failNext .endInObject []
  | rest => failNext .trailingCharacters rest

/-- Where a reader stands after looking for the closing brace, found or not. -/
def pastObjectEnd (cs : List Char) : List Char :=
  match skipBlanks cs with
  | '\x7d' :: rest => rest
  | rest => rest

/-- A list or an object is left by the bracket that `ends` looks for. A refusal without place takes
its place where the reader stands then, found or not. -/
def closeWith {α : Type} (ends : List Char → Reading Unit) (past : List Char → List Char) :
    Reading α → Reading α
  | .done value rest => (ends rest).map fun _ => value
  | .refused cause rest => failHere cause (past rest)
  | .failed cause left => .failed cause left

/-- A list is left by its closing bracket. -/
def closeList {α : Type} : Reading α → Reading α := closeWith listEnd pastListEnd

/-- An object is left by its closing brace. -/
def closeObject {α : Type} : Reading α → Reading α := closeWith objectEnd pastObjectEnd

/-! ## Whole texts -/

/-- Nothing but blanks follows a whole text. -/
def finish {α : Type} (r : Reading α) : Reading α :=
  r.andThen fun value rest =>
    match skipBlanks rest with
    | [] => .done value []
    | rest => failNext .trailingCharacters rest

/-- The value of a whole text, or the refusal with its place. -/
def parse {α : Type} (read : List Char → Reading α) (text : String) : Except Fault α :=
  match finish (read text.toList) with
  | .done value _ => .ok value
  | .refused cause _ => .error ⟨cause, none⟩
  | .failed cause left =>
    let bs := Bytes.ofText text
    .error ⟨cause, some (Place.after (bs.take (bs.length - left)))⟩

end Courier.Json
