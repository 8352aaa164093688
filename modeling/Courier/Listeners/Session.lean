import Courier.Listeners.Sets

/-!
# Courier — listeners that change their own set

A session works on one set of named listeners. A listener may carry an act of its own, which it
performs whenever it is called, so that the set changes while it is being notified.

* `Session.perform` — performs an act and answers it;
* `Session.call` — calls one listener, which performs its act.
-/

namespace Courier.Listeners

/-- What can be done with a set of listeners. -/
inductive Act where
  /-- Adds a listener that performs an act whenever it is called. -/
  | add (name : String) (during : Option Act)
  /-- Removes the listener that was first added under this name. -/
  | remove (name : String)
  | clear
  | count
  | notify
  /-- Takes a snapshot, performs an act, and then calls the listeners of the snapshot. -/
  | snapshot (andThen : Option Act)

/-- The answer to an act. -/
inductive Answer where
  /-- A listener was added; its handle is newer than all others. -/
  | added (newest : Bool)
  /-- The listener was in the set; nothing, if none was ever added under that name. -/
  | removed (wasThere : Option Bool)
  | cleared
  | counted (n : Nat)
  | called (names : List String)
deriving Repr

/-- A named listener with the act it performs. -/
structure Member where
  name : String
  during : Option Act

/-- A set of named listeners with its history. -/
structure Session where
  sets : Sets Unit Member
  /-- The handles that were given out, with the names they were given for, in order. -/
  given : List (String × ListenerId)
  /-- The names of the listeners that were called and not answered yet, latest first. -/
  calls : List String

namespace Session

def start : Session := ⟨Sets.start, [], []⟩

/-- The one set of a session. -/
def set (s : Session) : Listeners Member := s.sets.set ()

/-- Adds a listener under a fresh handle. -/
def add (name : String) (during : Option Act) (s : Session) : Answer × Session :=
  let (id, sets) := s.sets.add () ⟨name, during⟩
  (.added (s.given.all fun g => id.newerThan g.2),
    { s with sets, given := s.given ++ [(name, id)] })

/-- Removes the listener that was first added under a name. -/
def remove (name : String) (s : Session) : Answer × Session :=
  match s.given.lookup name with
  | none => (.removed none, s)
  | some id =>
    let (wasThere, sets) := s.sets.remove () id
    (.removed (some wasThere), { s with sets })

/-- Calls a listener, which performs its act. -/
def call (perform : Act → Session → Session) (m : Member) (s : Session) : Session :=
  let s := { s with calls := m.name :: s.calls }
  match m.during with
  | some act => perform act s
  | none => s

/-- Answers the calls so far, which no later answer repeats. -/
def answerCalls (s : Session) : Answer × Session :=
  (.called s.calls.reverse, { s with calls := [] })

/-- Performs an act. Listeners that notify again may do so to a depth of `fuel`; such an answer takes
the calls away from the one around it. -/
def perform : Nat → Act → Session → Answer × Session
  | _, .add name during, s => s.add name during
  | _, .remove name, s => s.remove name
  | _, .clear, s => (.cleared, { s with sets := s.sets.clear () })
  | _, .count, s => (.counted s.set.size, s)
  | 0, .notify, s => (.called [], s)
  | 0, .snapshot _, s => (.called [], s)
  | fuel + 1, .notify, s =>
    (s.set.notify (call fun act s => (perform fuel act s).2) s).answerCalls
  | fuel + 1, .snapshot andThen, s =>
    let members := s.set.snapshot
    let s := match andThen with
      | some act => (perform fuel act s).2
      | none => s
    (callEach (call fun act s => (perform fuel act s).2) members s).answerCalls

/-- Performs acts one after the other. -/
def run (fuel : Nat) (acts : List Act) : List Answer :=
  (acts.foldl
    (fun (answers, s) act =>
      let (answer, s) := perform fuel act s
      (answers ++ [answer], s)) (([] : List Answer), start)).1

end Session

end Courier.Listeners
