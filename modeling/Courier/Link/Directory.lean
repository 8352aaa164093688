import Courier.Link.Connection
import Courier.Link.Table

/-!
# Courier — a table with its connections

A table knows connections by name only, which here stands for the id of its own that each one has.
Whether one is open, and whom it leads to, stands in the connection. A directory is a table together
with the connections, which are put in, taken out and closed one at a time. Closing does not take a
connection out: for a while it is closed and still in the table.

The table does not promise any order of its entries. They may come to lie in another order between
two steps, so whichever of several open connections the index goes on to, it is the earliest one in
some order.

* `Directory.insert`, `Directory.remove`, `Directory.markClosed` — the steps;
* `Directory.run` — one step after the other;
* `Directory.Reached` — what may have become of a directory after these steps.
-/

namespace Courier

/-- A table and the connections that it is about. -/
structure Directory where
  table : ConnectionTable
  connection : ConnectionRef → Connection

namespace Directory

/-- Nothing is in the table. -/
def start (connection : ConnectionRef → Connection) : Directory := ⟨.empty, connection⟩

def isOpen (d : Directory) (c : ConnectionRef) : Bool := !(d.connection c).isClosed

/-- The address that a connection leads to. -/
def peer (d : Directory) (c : ConnectionRef) : Address := (d.connection c).peerAddress

/-- The open connection to an address. -/
def find (a : Address) (d : Directory) : Option ConnectionRef := d.table.find d.isOpen a

/-- Puts a connection into the table. -/
def insert (c : ConnectionRef) (d : Directory) : Directory :=
  { d with table := d.table.insert d.isOpen c (d.peer c) }

/-- Takes a connection out of the table, and tells whether it was there. -/
def remove (c : ConnectionRef) (d : Directory) : Bool × Directory :=
  let (wasThere, table) := d.table.remove d.isOpen c (d.peer c)
  (wasThere, { d with table })

/-- Closes a connection. It stays in the table. -/
def markClosed (c : ConnectionRef) (reason : CloseReason) (d : Directory) : Directory :=
  { d with
    connection := fun e =>
      if e = c then ((d.connection e).markClosed reason).2 else d.connection e }

/-- What may be done with a directory. -/
inductive Step where
  | insert (c : ConnectionRef)
  | remove (c : ConnectionRef)
  | markClosed (c : ConnectionRef) (reason : CloseReason)
deriving DecidableEq, Repr

/-- Makes one step. -/
def step (d : Directory) : Step → Directory
  | .insert c => d.insert c
  | .remove c => (d.remove c).2
  | .markClosed c reason => d.markClosed c reason

/-- Makes one step after the other. -/
def run (steps : List Step) (d : Directory) : Directory := steps.foldl step d

/-- After these steps a directory may be like this. -/
inductive Reached : List Step → Directory → Prop where
  | start (connection : ConnectionRef → Connection) : Reached [] (start connection)
  | step {steps : List Step} {d : Directory} (s : Step) :
      Reached steps d → Reached (steps ++ [s]) (d.step s)
  /-- The entries come to lie in another order. -/
  | reorder {steps : List Step} {d : Directory} {entries : List (ConnectionRef × Address)} :
      Reached steps d → entries.Perm d.table.entries →
      Reached steps { d with table := { d.table with entries } }

end Directory

end Courier
