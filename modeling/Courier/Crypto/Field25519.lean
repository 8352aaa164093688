/-!
# Courier — arithmetic modulo 2²⁵⁵ − 19

The field of both curves. Its elements are the natural numbers below the prime.
-/

namespace Courier.Field25519

def prime : Nat := (1 <<< 255) - 19

def add (a b : Nat) : Nat := (a + b) % prime

def sub (a b : Nat) : Nat := (a + (prime - b % prime)) % prime

def mul (a b : Nat) : Nat := a * b % prime

def neg (a : Nat) : Nat := (prime - a % prime) % prime

def square (a : Nat) : Nat := mul a a

/-- The power of `b` to `e` modulo `m`, by squaring. -/
def powMod (m b e : Nat) : Nat :=
  if e = 0 then 1 % m
  else
    let h := powMod m (b * b % m) (e / 2)
    if e % 2 = 1 then b * h % m else h
termination_by e

def pow (a e : Nat) : Nat := powMod prime a e

/-- The inverse; zero has the inverse zero. -/
def inv (a : Nat) : Nat := pow a (prime - 2)

/-- A root of minus one. -/
def rootOfMinusOne : Nat := pow 2 ((prime - 1) / 4)

end Courier.Field25519
