import Courier.Address

/-!
# Courier — banned peers

The addresses with which no connection is opened or accepted. A ban holds for exactly this host and
port.
-/

namespace Courier

structure BanList where
  addresses : List Address
deriving DecidableEq, Repr, Inhabited

namespace BanList

def empty : BanList := ⟨[]⟩

def isBanned (a : Address) (b : BanList) : Bool := b.addresses.contains a

def ban (a : Address) (b : BanList) : BanList :=
  if b.isBanned a then b else ⟨b.addresses ++ [a]⟩

/-- Lifts a ban, and tells whether there was one. -/
def unban (a : Address) (b : BanList) : Bool × BanList :=
  (b.isBanned a, ⟨b.addresses.filter (· ≠ a)⟩)

end BanList

end Courier
