import Courier.Listeners.Basic

/-!
# Courier — several sets of listeners in use

Any number of sets of listeners draw their handles from one counter. The sets are changed from
outside and by the listeners themselves, which may add, remove and clear whenever they are called.
What happens is written down.

* `Sets.add`, `Sets.remove`, `Sets.clear` — the operations on one of the sets;
* `Usage.turn` — calls one listener, which makes its changes;
* `Usage.step` — one step from outside: a change, a notification, a snapshot, or the calls of the
  listeners of a snapshot that was taken earlier.
-/

namespace Courier.Listeners

/-- Several sets of listeners with the counter of their handles. -/
structure Sets (ι α : Type) where
  set : ι → Listeners α
  /-- The number of the next handle. -/
  next : Nat

/-- A change of one of the sets. -/
inductive Change (ι α : Type) where
  | add (i : ι) (l : α)
  | remove (i : ι) (id : ListenerId)
  | clear (i : ι)

/-- Something that happened to sets of listeners. -/
inductive Event (ι α : Type) where
  | added (i : ι) (id : ListenerId) (l : α)
  | removed (i : ι) (id : ListenerId) (wasThere : Bool)
  | cleared (i : ι)
  | called (l : α)

variable {ι α : Type}

namespace Sets

def start : Sets ι α := ⟨fun _ => empty, 1⟩

variable [DecidableEq ι]

/-- Puts a set in the place of another. -/
def put (i : ι) (l : Listeners α) (s : Sets ι α) : Sets ι α :=
  { s with set := fun j => if j = i then l else s.set j }

/-- Adds a listener to a set under a fresh handle. -/
def add (i : ι) (l : α) (s : Sets ι α) : ListenerId × Sets ι α :=
  (⟨s.next⟩, { s.put i ((s.set i).add ⟨s.next⟩ l) with next := s.next + 1 })

/-- Removes the listener under a handle from a set, and tells whether there was one. -/
def remove (i : ι) (id : ListenerId) (s : Sets ι α) : Bool × Sets ι α :=
  (((s.set i).remove id).1, s.put i ((s.set i).remove id).2)

/-- Removes all listeners from a set. -/
def clear (i : ι) (s : Sets ι α) : Sets ι α := s.put i empty

/-- Makes a change, and says what happened. -/
def change : Change ι α → Sets ι α → Event ι α × Sets ι α
  | .add i l, s => (.added i (s.add i l).1 l, (s.add i l).2)
  | .remove i id, s => (.removed i id (s.remove i id).1, (s.remove i id).2)
  | .clear i, s => (.cleared i, s.clear i)

/-- Makes changes one after the other. -/
def changeAll (cs : List (Change ι α)) (s : Sets ι α) : Sets ι α :=
  cs.foldl (fun s c => (s.change c).2) s

end Sets

/-- Sets of listeners in use. -/
structure Usage (ι α : Type) where
  sets : Sets ι α
  /-- The snapshots that were taken, in order. -/
  snapshots : List (List α)
  /-- What happened so far, in order. -/
  record : List (Event ι α)

/-- What is done with the sets from outside. -/
inductive Step (ι α : Type) where
  | change (c : Change ι α)
  | notify (i : ι)
  /-- Takes a snapshot of a set and keeps it. -/
  | snapshot (i : ι)
  /-- Calls the listeners of the snapshot that was taken after so many others. -/
  | call (k : Nat)

namespace Usage

/-- Nothing happened yet. -/
def start : Usage ι α := ⟨Sets.start, [], []⟩

def called (l : α) (u : Usage ι α) : Usage ι α := { u with record := u.record ++ [.called l] }

variable [DecidableEq ι]

def change (c : Change ι α) (u : Usage ι α) : Usage ι α :=
  { u with sets := (u.sets.change c).2, record := u.record ++ [(u.sets.change c).1] }

/-- A listener is called and makes changes. -/
def turn (l : α) (cs : List (Change ι α)) (u : Usage ι α) : Usage ι α :=
  cs.foldl (fun u c => u.change c) (u.called l)

/-- Calls a listener; `react` says which changes it makes, given all that happened so far. -/
def call (react : α → Usage ι α → List (Change ι α)) (l : α) (u : Usage ι α) : Usage ι α :=
  u.turn l (react l (u.called l))

/-- Makes one step. -/
def step (react : α → Usage ι α → List (Change ι α)) (u : Usage ι α) : Step ι α → Usage ι α
  | .change c => u.change c
  | .notify i => (u.sets.set i).notify (call react) u
  | .snapshot i => { u with snapshots := u.snapshots ++ [(u.sets.set i).snapshot] }
  | .call k => callEach (call react) (u.snapshots[k]?.getD []) u

/-- Makes steps one after the other. -/
def run (react : α → Usage ι α → List (Change ι α)) (steps : List (Step ι α)) (u : Usage ι α) :
    Usage ι α :=
  steps.foldl (step react) u

end Usage

end Courier.Listeners
