/-!
# Courier — sets of listeners

A set of listeners keeps them in the order in which they were added, each under a handle of its own.
Handles are drawn from one counter for all sets. Whoever notifies a set works on a snapshot, so that
listeners may change the set while they are called.

* `Listeners.add`, `remove`, `clear` — the operations;
* `Listeners.notify` — calls the members of the snapshot in order.
-/

namespace Courier

/-- The handle under which a listener is found. The program counts handles in 64 bits, which no run
exhausts; here the number has no bound. -/
structure ListenerId where
  number : Nat
deriving DecidableEq, Repr, Inhabited

/-- Handles are ordered by age. -/
def ListenerId.newerThan (a b : ListenerId) : Bool := b.number < a.number

/-- A set of listeners, in the order of their registration. -/
structure Listeners (α : Type) where
  entries : List (ListenerId × α)
deriving Repr

namespace Listeners

variable {α : Type}

def empty : Listeners α := ⟨[]⟩

instance : Inhabited (Listeners α) := ⟨empty⟩

def add (id : ListenerId) (l : α) (s : Listeners α) : Listeners α := ⟨s.entries ++ [(id, l)]⟩

/-- The handle is in use in this set. -/
def contains (id : ListenerId) (s : Listeners α) : Bool := s.entries.any fun e => e.1 = id

/-- Removes the listener under a handle, and tells whether there was one (`remove`). -/
def remove (id : ListenerId) (s : Listeners α) : Bool × Listeners α :=
  (s.contains id, ⟨s.entries.filter fun e => e.1 ≠ id⟩)

def size (s : Listeners α) : Nat := s.entries.length

def isEmpty (s : Listeners α) : Bool := s.entries.isEmpty

/-- The listeners at this moment (`snapshot`). -/
def snapshot (s : Listeners α) : List α := s.entries.map (·.2)

/-- Calls listeners in order; `call` may change the state. -/
def callEach {σ : Type} (call : α → σ → σ) (members : List α) (state : σ) : σ :=
  members.foldl (fun state l => call l state) state

/-- Calls the listeners that are in the set now, in order; `call` may change the state in which the
set is kept (`for_each`). -/
def notify {σ : Type} (call : α → σ → σ) (s : Listeners α) (state : σ) : σ :=
  callEach call s.snapshot state

end Listeners

end Courier
