/-!
# Courier — shortest decimal text of a floating-point number

The digits are the fewest that read back as the same number, and of those the nearest to it. A
finite number is `m * 2 ^ q`; the decimals that read back as it fill an interval around it, whose
ends belong to it when `m` is even. Grids of one, two, … seventeen digits are tried in turn, on each
the two points next to the number, in exact arithmetic.
-/

namespace Courier.Decimal

/-- A positive number as a fraction, with the fractions at the ends of the interval that rounds to
it; all three have the denominator `den`. -/
structure Interval where
  low : Nat
  mid : Nat
  high : Nat
  den : Nat
  closed : Bool

/-- The interval of the positive finite number with these bits. -/
def Interval.ofBits (bits : UInt64) : Interval :=
  let biased := (bits.toNat >>> 52) % 2048
  let fraction := bits.toNat % (1 <<< 52)
  let m := if biased = 0 then fraction else fraction + (1 <<< 52)
  -- four times the number is `m * 4 * 2 ^ q`, where `q = (max biased 1) - 1077`
  let e := max biased 1
  let up := 1 <<< (e - 1077)
  let below := if fraction = 0 ∧ 1 < biased then 1 else 2
  { low := (4 * m - below) * up, mid := 4 * m * up, high := (4 * m + 2) * up,
    den := 1 <<< (1077 - e), closed := m % 2 = 0 }

/-- Ten to the `k`, or one for a negative `k`. -/
def tenTo (k : Int) : Nat := Nat.pow 10 k.toNat

namespace Interval

/-- The multiple `d` of ten to the `k` lies in the interval. -/
def holds (i : Interval) (d : Nat) (k : Int) : Bool :=
  let point := d * tenTo k * i.den
  let low := i.low * tenTo (-k)
  let high := i.high * tenTo (-k)
  if i.closed then low ≤ point ∧ point ≤ high else low < point ∧ point < high

/-- The greatest multiple of ten to the `k` that is not above the number. -/
def floorAt (i : Interval) (k : Int) : Nat :=
  i.mid * tenTo (-k) / (tenTo k * i.den)

/-- The multiple of ten to the `k` in the interval, the nearer one if there are two; of two equally
near ones the even one. -/
def pointAt (i : Interval) (k : Int) : Option Nat :=
  let d := i.floorAt k
  match i.holds d k, i.holds (d + 1) k with
  | false, false => none
  | true, false => some d
  | false, true => some (d + 1)
  | true, true =>
    let unit := tenTo k * i.den
    let rest := 2 * (i.mid * tenTo (-k) - d * unit)
    if rest < unit ∨ (rest = unit ∧ d % 2 = 0) then some d else some (d + 1)

/-- The exponent of the first significant digit of a number below one: the first of the powers
`10 ^ -j`, `10 ^ -(j+1)`, … that is not above it. -/
def exponentBelowOne (i : Interval) : Nat → Nat → Int
  | 0, j => -(j : Int)
  | fuel + 1, j => if i.den ≤ i.mid * tenTo j then -(j : Int) else exponentBelowOne i fuel (j + 1)

/-- The exponent of the first significant digit. -/
def exponent (i : Interval) : Int :=
  if i.den ≤ i.mid then ((Nat.toDigits 10 (i.mid / i.den)).length - 1 : Nat)
  else i.exponentBelowOne 400 1

/-- Tries grids of `n`, `n + 1`, … digits. -/
def search (i : Interval) : Nat → Nat → Nat × Int
  | 0, _ => (i.floorAt (i.exponent - 16), i.exponent - 16)
  | fuel + 1, n =>
    let k := i.exponent - ((n : Int) - 1)
    match i.pointAt k with
    | some d => (d, k)
    | none => search i fuel (n + 1)

end Interval

/-- Digits without the zeros at their end, and the exponent of the last one kept. -/
def trim : Nat → Nat × Int → Nat × Int
  | 0, r => r
  | fuel + 1, (d, k) => if d ≠ 0 ∧ d % 10 = 0 then trim fuel (d / 10, k + 1) else (d, k)

/-- The digits `d` and the exponent `k` with `d * 10 ^ k` the shortest decimal of a positive finite
number. -/
def shortest (x : Float) : Nat × Int := trim 20 ((Interval.ofBits x.toBits).search 17 1)

/-- The decisions of a notation: from which to which exponent of the first digit a number is
written without an exponent. -/
structure Notation where
  lowest : Int
  highest : Int

/-- Digits `ds` with exponent `k` of the last one, in a notation. A number without an exponent has
digits on both sides of the point. -/
def Notation.render (n : Notation) (ds : List Char) (k : Int) : List Char :=
  let first := k + ds.length - 1
  if n.lowest ≤ first ∧ first ≤ n.highest then
    if 0 ≤ k then ds ++ List.replicate k.toNat '0' ++ ['.', '0']
    else if 0 ≤ first then ds.take (first.toNat + 1) ++ '.' :: ds.drop (first.toNat + 1)
    else '0' :: '.' :: List.replicate ((-first).toNat - 1) '0' ++ ds
  else
    let point := match ds with
      | d :: e :: rest => d :: '.' :: e :: rest
      | ds => ds
    point ++ 'e' :: (if first < 0 then '-' else '+') :: Nat.toDigits 10 first.natAbs

/-- The notation of numbers in messages. -/
def messages : Notation := ⟨-5, 15⟩

/-- A number as messages show it. -/
def text (x : Float) : String :=
  let sign := if x.toBits.toNat < (1 <<< 63) then "" else "-"
  if x.isNaN then "NaN"
  else if x.isInf then sign ++ "inf"
  else if x == 0 then sign ++ "0.0"
  else
    let (d, k) := shortest x.abs
    sign ++ String.ofList (messages.render (Nat.toDigits 10 d) k)

end Courier.Decimal
