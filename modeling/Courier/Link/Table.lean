import Courier.Address

/-!
# Courier — tables of connections

A table holds the connections of a node in the order of their registration, with an index from
addresses to connections. Whether a connection is open is not known to the table, but asked for.

* `ConnectionTable.insert` — the index keeps an open connection to the same address;
* `ConnectionTable.remove` — the index goes on to another open connection to the same address;
* `ConnectionTable.find` — the open connection to an address.
-/

namespace Courier

/-- The name of a connection in a world, by the order in which they began. -/
structure ConnectionRef where
  number : Nat
deriving DecidableEq, Repr, Inhabited

structure ConnectionTable where
  /-- The connections with the addresses of their peers. -/
  entries : List (ConnectionRef × Address)
  /-- At most one connection for an address. -/
  index : List (Address × ConnectionRef)
deriving DecidableEq, Repr, Inhabited

namespace ConnectionTable

def empty : ConnectionTable := ⟨[], []⟩

def contains (c : ConnectionRef) (t : ConnectionTable) : Bool := t.entries.any fun e => e.1 = c

/-- The connection that the index has for an address. -/
def indexed? (a : Address) (t : ConnectionTable) : Option ConnectionRef := t.index.lookup a

/-- The open connection to an address (`find`). -/
def find (isOpen : ConnectionRef → Bool) (a : Address) (t : ConnectionTable) :
    Option ConnectionRef :=
  (t.indexed? a).filter fun c => t.contains c && isOpen c

/-- The index with this connection for an address, in place of any other. -/
def pointTo (a : Address) (c : ConnectionRef) (t : ConnectionTable) : ConnectionTable :=
  { t with index := (a, c) :: t.index.filter fun e => e.1 ≠ a }

/-- The index without an address. -/
def forget (a : Address) (t : ConnectionTable) : ConnectionTable :=
  { t with index := t.index.filter fun e => e.1 ≠ a }

/-- Adds a connection to an address (`insert`). -/
def insert (isOpen : ConnectionRef → Bool) (c : ConnectionRef) (a : Address)
    (t : ConnectionTable) : ConnectionTable :=
  let taken := (t.find isOpen a).isSome
  let t := { t with entries := (t.entries.filter fun e => e.1 ≠ c) ++ [(c, a)] }
  if taken then t else t.pointTo a c

/-- An open connection to an address, the earliest one. -/
def openTo? (isOpen : ConnectionRef → Bool) (a : Address) (t : ConnectionTable) :
    Option ConnectionRef :=
  (t.entries.find? fun e => e.2 = a && isOpen e.1).map (·.1)

/-- Removes a connection to an address, and tells whether it was there (`remove`). -/
def remove (isOpen : ConnectionRef → Bool) (c : ConnectionRef) (a : Address)
    (t : ConnectionTable) : Bool × ConnectionTable :=
  let wasThere := t.contains c
  let t := { t with entries := t.entries.filter fun e => e.1 ≠ c }
  if t.indexed? a = some c then
    match t.openTo? isOpen a with
    | some d => (wasThere, t.pointTo a d)
    | none => (wasThere, t.forget a)
  else (wasThere, t)

/-- The connections in the order of their registration (`all`). -/
def toList (t : ConnectionTable) : List ConnectionRef := t.entries.map (·.1)

end ConnectionTable

end Courier
