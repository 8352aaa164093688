import Courier.Schema.Basic
import Courier.Json.Skip

/-!
# Courier — JSON form, read

A record is read from an object or from the list of its fields; fields may come in any order,
unknown ones are passed over, a repeated one is refused, and a field that is not given takes the
value that stands for it, if there is one. An alternative is read from an object with its name as
only key, a name also from a text.
-/

namespace Courier.Json

/-! ## Values that were not expected -/

/-- Refuses what stands at the front, where `expected` was expected. Scalars are read to their end;
lists and objects are refused at their bracket. -/
def refuseValue {α : Type} (expected : String) (cs : List Char) : Reading α :=
  let refuse (found : Found) (rest : List Char) : Reading α :=
    failHere (.wrongType found expected) rest
  match cs with
  | [] => failNext .expectedValue []
  | 'n' :: rest => (keyword ['u', 'l', 'l'] rest).andThen fun _ => refuse .null
  | 't' :: rest => (keyword ['r', 'u', 'e'] rest).andThen fun _ => refuse (.boolean true)
  | 'f' :: rest => (keyword ['a', 'l', 's', 'e'] rest).andThen fun _ => refuse (.boolean false)
  | '"' :: rest => (readText rest).andThen fun s => refuse (.text s)
  | '[' :: rest => refuse .sequence ('[' :: rest)
  | '\x7b' :: rest => refuse .map ('\x7b' :: rest)
  | c :: rest =>
    if c = '-' ∨ isDigit c then (Number.read (c :: rest)).andThen fun n => refuse n.found
    else failNext .expectedValue (c :: rest)

/-- Reads what stands at the front behind blanks, where `accept` reads the expected kind of value
and yields nothing on any other. -/
def expecting {α : Type} (expected : String) (accept : List Char → Option (Reading α))
    (cs : List Char) : Reading α :=
  match skipBlanks cs with
  | [] => failNext .endInValue []
  | cs =>
    match accept cs with
    | some r => r.settle
    | none => refuseValue expected cs

/-! ## Scalars -/

/-- A whole number below `limit`, called `name`. -/
def naturalBelow (limit : Nat) (name : String) : Number → List Char → Reading Nat
  | .natural n, rest =>
    if n < limit then .done n rest else .refused (.wrongValue (.integer n) name) rest
  | .negative n, rest => .refused (.wrongValue (.integer (-(n : Int))) name) rest
  | .decimal x, rest => .refused (.wrongType (Number.decimal x).found name) rest

/-- Reads a whole number below `limit`, called `name`. -/
def readNatural (limit : Nat) (name : String) : List Char → Reading Nat :=
  expecting name fun cs =>
    match cs with
    | c :: _ =>
      if c = '-' ∨ isDigit c then some ((Number.read cs).andThen (naturalBelow limit name))
      else none
    | [] => none

def readByte (cs : List Char) : Reading UInt8 := (readNatural 256 "u8" cs).map UInt8.ofNat

def readFlag : List Char → Reading Bool :=
  expecting "a boolean" fun cs =>
    match cs with
    | 't' :: rest => some ((keyword ['r', 'u', 'e'] rest).map fun _ => true)
    | 'f' :: rest => some ((keyword ['a', 'l', 's', 'e'] rest).map fun _ => false)
    | _ => none

/-- Reads a text, called `name` where something else stands. -/
def readString (name : String) : List Char → Reading String :=
  expecting name fun cs =>
    match cs with
    | '"' :: rest => some (readText rest)
    | _ => none

def readNull : List Char → Reading Unit :=
  expecting "unit" fun cs =>
    match cs with
    | 'n' :: rest => some (keyword ['u', 'l', 'l'] rest)
    | _ => none

/-! ## Members -/

/-- Reads the elements up to the closing bracket, behind those that were read in reverse. Each
element takes a character, so the length of the text is fuel enough. -/
def readElements {α : Type} (item : List Char → Reading α) :
    Nat → Bool → List α → List Char → Reading (List α)
  | 0, _, _, cs => failNext .endInList cs
  | fuel + 1, first, start, cs =>
    match nextElement first cs with
    | .done true rest =>
      match item rest with
      | .done a rest => readElements item fuel false (a :: start) rest
      | .refused cause rest => .refused cause rest
      | .failed cause left => .failed cause left
    | .done false rest => .done start.reverse rest
    | .refused cause rest => .refused cause rest
    | .failed cause left => .failed cause left

/-- Reads `n` elements, behind those that were read in reverse; a list that ends too early is
refused by its length. -/
def readElementsN {α : Type} (item : List Char → Reading α) (expected : String) :
    Nat → List α → List Char → Reading (List α)
  | 0, start, cs => .done start.reverse cs
  | n + 1, start, cs =>
    match nextElement start.isEmpty cs with
    | .done true rest =>
      match item rest with
      | .done a rest => readElementsN item expected n (a :: start) rest
      | .refused cause rest => .refused cause rest
      | .failed cause left => .failed cause left
    | .done false rest => .refused (.wrongLength start.length expected) rest
    | .refused cause rest => .refused cause rest
    | .failed cause left => .failed cause left

/-- Reads the members of an object up to its closing brace; `step` takes the value of a key into
what was read so far. Each member takes a character, so the length of the text is fuel enough. -/
def readMembers {σ : Type} (step : σ → String → List Char → Reading σ) :
    Nat → Bool → σ → List Char → Reading σ
  | 0, _, _, cs => failNext .endInObject cs
  | fuel + 1, first, s, cs =>
    match nextKey first cs with
    | .done true rest =>
      match (readText rest).andThen (step s) with
      | .done s rest => readMembers step fuel false s rest
      | .refused cause rest => .refused cause rest
      | .failed cause left => .failed cause left
    | .done false rest => .done s rest
    | .refused cause rest => .refused cause rest
    | .failed cause left => .failed cause left

def readOctets : List Char → Reading Bytes :=
  expecting "a sequence" fun cs =>
    match cs with
    | '[' :: rest => some (closeList (readElements readByte (rest.length + 1) true [] rest))
    | _ => none

/-- A block of the bytes that were read, which are as many as were asked for. -/
def asBlock (n : Nat) (bs : Bytes) (rest : List Char) : Reading (Block n) :=
  if h : bs.length = n then .done ⟨bs, h⟩ rest
  else .refused (.blockLength n bs.length) rest

def readBlock (n : Nat) : List Char → Reading (Block n) :=
  let expected := s!"an array of length {n}"
  expecting expected fun cs =>
    match cs with
    | '[' :: rest =>
      some ((closeList (readElementsN readByte expected n [] rest)).andThen (asBlock n))
    | _ => none

/-- Reads a block from Base64 text. A fault in that text has no place of its own. -/
def readBase64 (n : Nat) (cs : List Char) : Reading (Block n) :=
  (readString "a string" cs).andThen fun s rest =>
    match Base64.decode s with
    | .ok bs => asBlock n bs rest
    | .error fault => .refused (.notBase64 fault) rest

/-! ## Alternatives -/

/-- Reads one of several alternatives: a bare name, or an object whose only key is a name. -/
def readChoice {α : Type} (bare : List Char → Reading α) (keyed : List Char → Reading α)
    (cs : List Char) : Reading α :=
  match skipBlanks cs with
  | [] => failNext .endInValue []
  | '"' :: rest => bare ('"' :: rest)
  | '\x7b' :: rest =>
    (keyed rest).andThen fun a rest =>
      match skipBlanks rest with
      | '\x7d' :: rest => .done a rest
      | [] => failHere .endInObject []
      | rest => failHere .expectedValue rest
  | rest => failNext .expectedValue rest

/-- Reads a name that `known` has, at the front of an object or on its own. -/
def readName (known : List String) (cs : List Char) : Reading (Fin known.length) :=
  match skipBlanks cs with
  | [] => failNext .endInObject []
  | '"' :: rest =>
    (readText rest).andThen fun s rest =>
      match known.findFinIdx? (· == s) with
      | some i => .done i rest
      | none => failHere (.unknownName s known) rest
  | '\x7d' :: rest => failNext .expectedValue ('\x7d' :: rest)
  | rest => failNext .keyNotText rest

def readLabel (names : List String) : List Char → Reading (Fin names.length) :=
  readChoice (readName names) fun cs =>
    (readName names cs).andThen fun i rest =>
      (colon rest).andThen fun _ rest => (readNull rest).map fun _ => i

end Courier.Json

namespace Courier

open Json

/-! ## Reading by a schema -/

/-- The fields of a record as far as they were given. -/
def Fields.Given : {β : Type} → Fields β → Type
  | _, .nil => Unit
  | _, @Fields.cons α _ _ _ _ rest => Option α × rest.Given

/-- No field was given. -/
def Fields.noneGiven : {β : Type} → (fields : Fields β) → fields.Given
  | _, .nil => ()
  | _, .cons _ _ _ rest => (none, rest.noneGiven)

/-- The record of the given fields; absent ones take the value that stands for them. The first one
without such a value is missed. -/
def Fields.complete : {β : Type} → (fields : Fields β) → fields.Given → Except String β
  | _, .nil, _ => .ok ()
  | _, @Fields.cons α _ name _ absent rest, given =>
    let given : Option α × rest.Given := given
    match given.1.or absent with
    | none => .error name
    | some a =>
      match rest.complete given.2 with
      | .ok b => .ok (a, b)
      | .error missed => .error missed

/-- How a refusal calls a record that is given as a list. -/
def recordAsList (name : String) (size : Nat) : String :=
  if size = 1 then s!"struct {name} with 1 element" else s!"struct {name} with {size} elements"

/-- The record of the given fields, or a refusal of the object that lacks one. -/
def Fields.finish {β : Type} (fields : Fields β) (given : fields.Given) (rest : List Char) :
    Reading β :=
  match fields.complete given with
  | .ok b => .done b rest
  | .error missed => .refused (.missingField missed) rest

mutual

/-- Reads the JSON form of a value from the front of a text. -/
def Schema.read : {α : Type} → Schema α → List Char → Reading α
  | _, .word8, cs => readByte cs
  | _, .word16, cs => (readNatural UInt16.size "u16" cs).map UInt16.ofNat
  | _, .word64 name, cs => (readNatural UInt64.size name cs).map UInt64.ofNat
  | _, .flag, cs => readFlag cs
  | _, .text, cs => readString "a string" cs
  | _, .octets, cs => readOctets cs
  | _, .block n, cs => readBlock n cs
  | _, .base64 n, cs => readBase64 n cs
  | _, .optional s, cs =>
    match skipBlanks cs with
    | 'n' :: rest => (keyword ['u', 'l', 'l'] rest).map fun _ => none
    | cs => (s.read cs).map some
  | _, .record name lenient fields view, cs =>
    (expecting s!"struct {name}" (fun cs =>
      match cs with
      | '[' :: rest =>
        some (closeList (fields.readList (recordAsList name fields.size) lenient 0 rest))
      | '\x7b' :: rest =>
        some (closeObject
          ((readMembers (fun given key cs => fields.readMember given key cs) (rest.length + 1)
            true fields.noneGiven rest).andThen fields.finish))
      | _ => none) cs).map view.back
  | _, .choice cases view, cs =>
    (readChoice
      (fun cs => (readName cases.names cs).andThen fun _ rest =>
        .refused (.wrongType .name "newtype variant") rest)
      (fun cs => (readName cases.names cs).andThen fun i rest =>
        (colon rest).andThen fun _ rest => cases.read i.val rest) cs).map view.back
  | _, .label names view, cs => (readLabel names cs).map view.back

/-- Reads the fields of a record from a list, the first of these being number `index`. -/
def Fields.readList : {β : Type} → Fields β → (expected : String) → (lenient : Bool) →
    (index : Nat) → List Char → Reading β
  | _, .nil, _, _, _, cs => .done () cs
  | _, .cons _ s absent rest, expected, lenient, index, cs =>
    ((nextElement (index == 0) cs).andThen fun more cs =>
      if more then s.read cs
      else
        match if lenient then absent else none with
        | some a => .done a cs
        | none => .refused (.wrongLength index expected) cs).andThen fun a cs =>
    (rest.readList expected lenient (index + 1) cs).map fun b => (a, b)

/-- Takes the value of a key, whose colon comes next, into the fields given so far. -/
def Fields.readMember : {β : Type} → (fields : Fields β) → fields.Given → (key : String) →
    List Char → Reading fields.Given
  | _, .nil, given, _, cs =>
    (colon cs).andThen fun _ cs => (skipValue cs).map fun _ => given
  | _, @Fields.cons α _ name s _ rest, given, key, cs =>
    let given : Option α × rest.Given := given
    if key = name then
      if given.1.isSome then .refused (.repeatedField name) cs
      else (colon cs).andThen fun _ cs => (s.read cs).map fun a => (some a, given.2)
    else (rest.readMember given.2 key cs).map fun more => (given.1, more)

/-- Reads the value of the alternative number `index`. -/
def Cases.read : {β : Type} → Cases β → (index : Nat) → List Char → Reading β
  | _, .nil, _, cs => failHere .expectedValue cs
  | _, .cons _ s _, 0, cs => (s.read cs).map .inl
  | _, .cons _ _ rest, index + 1, cs => (rest.read index cs).map .inr

end

/-- The value of a whole JSON text. -/
def Schema.ofJson {α : Type} (s : Schema α) (text : String) : Except Json.Fault α :=
  Json.parse s.read text

end Courier
