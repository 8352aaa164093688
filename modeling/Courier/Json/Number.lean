import Courier.Json.Reading
import Courier.Text.Decimal

/-!
# Courier — numbers in JSON

A number is a whole number if it is written without fraction and exponent and fits into 64 bits; any
other number is a floating-point number, which no field takes but which a refusal shows. Digits that
no longer fit into 64 bits count as zeros before the point and are dropped behind it.
-/

namespace Courier.Json

inductive Number where
  | natural (n : Nat)
  /-- The number `-n`, with `n` from one to `2 ^ 63`. -/
  | negative (n : Nat)
  | decimal (x : Float)

def Number.found : Number → Found
  | natural n => .integer n
  | negative n => .integer (-(n : Int))
  | decimal x => .decimal (Decimal.text x)

namespace Number

def digitValue (c : Char) : Nat := c.toNat - 48

/-- Takes digits into a number as long as it stays below `2 ^ 64`; the second part is what did not
fit. -/
def absorb (n : Nat) : List Char → Nat × List Char
  | [] => (n, [])
  | d :: ds =>
    if 10 * n + digitValue d < UInt64.size then absorb (10 * n + digitValue d) ds else (n, d :: ds)

/-- Ten to the `n` as a floating-point number. -/
def powerOfTen (n : Nat) : Float := OfScientific.ofScientific 1 false n

/-- The number `f * 10 ^ e`, by one multiplication or by divisions; `none` above the largest
floating-point number. -/
def scale (f : Float) (e : Int) : Option Float :=
  if e.natAbs ≤ 308 then
    if 0 ≤ e then
      let g := f * powerOfTen e.natAbs
      if g.isInf then none else some g
    else some (f / powerOfTen e.natAbs)
  else if f == 0 then some f
  else if 0 ≤ e then none
  else scale (f / powerOfTen 308) (e + 308)
termination_by e.natAbs
decreasing_by omega

/-- A floating-point number of given sign from its digits and exponent. -/
def ofParts (positive : Bool) (significand : Nat) (e : Int) (rest : List Char) : Reading Number :=
  match scale (UInt64.ofNat significand).toFloat e with
  | some x => .done (decimal (if positive then x else -x)) rest
  | none => failHere .numberOutOfRange rest

/-- The digits of an exponent; `overflowing` says that a number too large is no error but zero. -/
def exponentDigits (zero : Bool) (n : Nat) : List Char → Reading (Option Nat)
  | [] => .done (some n) []
  | c :: cs =>
    if isDigit c then
      if 10 * n + digitValue c < (1 <<< 31) then exponentDigits zero (10 * n + digitValue c) cs
      else if zero then .done none (cs.dropWhile isDigit)
      else failHere .numberOutOfRange cs
    else .done (some n) (c :: cs)

/-- The exponent of a number, behind its letter. -/
def exponentPart (positive : Bool) (significand : Nat) (e : Int) (cs : List Char) :
    Reading Number :=
  let (up, cs) := match cs with
    | '+' :: rest => (true, rest)
    | '-' :: rest => (false, rest)
    | _ => (true, cs)
  match cs with
  | [] => failHere .endInValue []
  | c :: rest =>
    if isDigit c then
      (exponentDigits (significand = 0 || !up) 0 (c :: rest)).andThen fun n rest =>
        match n with
        | some n => ofParts positive significand (if up then e + n else e - n) rest
        | none => .done (decimal (if positive then 0.0 else -0.0)) rest
    else failNext .invalidNumber (c :: rest)

/-- The fraction of a number, behind the point. -/
def fractionPart (positive : Bool) (significand : Nat) (e : Int) (cs : List Char) :
    Reading Number :=
  let digits := cs.takeWhile isDigit
  let rest := cs.dropWhile isDigit
  if digits.isEmpty then
    match rest with
    | [] => failNext .endInValue []
    | rest => failNext .invalidNumber rest
  else
    let (significand, dropped) := absorb significand digits
    let e := e - (digits.length - dropped.length : Nat)
    match rest with
    | c :: rest =>
      if c = 'e' ∨ c = 'E' then exponentPart positive significand e rest
      else ofParts positive significand e (c :: rest)
    | [] => ofParts positive significand e []

/-- What may follow the digits before the point. -/
def afterDigits (positive : Bool) (significand dropped : Nat) (cs : List Char) : Reading Number :=
  let whole :=
    if dropped ≠ 0 then ofParts positive significand dropped cs
    else if positive then .done (natural significand) cs
    else if 0 < significand ∧ significand ≤ (1 <<< 63) then .done (negative significand) cs
    else .done (decimal (-(UInt64.ofNat significand).toFloat)) cs
  match cs with
  | c :: rest =>
    if c = '.' then fractionPart positive significand dropped rest
    else if c = 'e' ∨ c = 'E' then exponentPart positive significand dropped rest
    else whole
  | [] => whole

/-- A number behind its sign. -/
def readUnsigned (positive : Bool) : List Char → Reading Number
  | [] => failHere .endInValue []
  | c :: rest =>
    if c = '0' then
      match rest with
      | d :: _ =>
        if isDigit d then failNext .invalidNumber rest else afterDigits positive 0 0 rest
      | [] => afterDigits positive 0 0 rest
    else if isDigit c then
      let (significand, dropped) := absorb 0 ((c :: rest).takeWhile isDigit)
      afterDigits positive significand dropped.length ((c :: rest).dropWhile isDigit)
    else failNext .invalidNumber (c :: rest)

/-- A number, at its sign or first digit. -/
def read : List Char → Reading Number
  | '-' :: rest => readUnsigned false rest
  | cs => readUnsigned true cs

/-! ## Numbers that nobody asked for -/

/-- The digits of an exponent, behind its letter. -/
def skipExponent (cs : List Char) : Reading Unit :=
  let cs := match cs with
    | '+' :: rest => rest
    | '-' :: rest => rest
    | _ => cs
  match cs with
  | c :: rest =>
    if isDigit c then .done () (rest.dropWhile isDigit) else failNext .invalidNumber (c :: rest)
  | [] => failNext .invalidNumber []

/-- The fraction and exponent of a number, behind its digits. -/
def skipTail : List Char → Reading Unit
  | '.' :: rest =>
    if (rest.takeWhile isDigit).isEmpty then failNext .invalidNumber rest
    else
      match rest.dropWhile isDigit with
      | c :: more => if c = 'e' ∨ c = 'E' then skipExponent more else .done () (c :: more)
      | [] => .done () []
  | c :: rest => if c = 'e' ∨ c = 'E' then skipExponent rest else .done () (c :: rest)
  | [] => .done () []

/-- A number behind its sign. -/
def skipUnsigned : List Char → Reading Unit
  | [] => failHere .invalidNumber []
  | c :: rest =>
    if c = '0' then
      match rest with
      | d :: _ => if isDigit d then failNext .invalidNumber rest else skipTail rest
      | [] => .done () []
    else if isDigit c then skipTail (rest.dropWhile isDigit)
    else failNext .invalidNumber (c :: rest)

end Number

end Courier.Json
