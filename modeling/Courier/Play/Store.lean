import Courier.Mail.Inbox

/-!
# Courier — a store in memory

A store that keeps entries in the order in which they came, and gives one up only to the owner of
the key pair that it is sealed for.
-/

namespace Courier.Play

structure Store where
  entries : List MailboxEntry
  /-- The number of entries that were removed. -/
  removed : Nat
  /-- Why entries were not removed. -/
  refusals : List StoreError
  /-- Nobody can be reached with a change. -/
  fails : Bool
  /-- New entries are not announced. -/
  quiet : Bool
  /-- The services that listen to the store. -/
  listeners : Listeners String

namespace Store

def fresh (fails quiet : Bool) : Store := ⟨[], 0, [], fails, quiet, .empty⟩

/-- The outcome of sending a change to the peers. -/
def broadcast (s : Store) : Except StoreError Broadcast :=
  if s.fails then .error (.broadcastFailed "no peers") else .ok ⟨1⟩

def keep (entry : MailboxEntry) (s : Store) : Store := { s with entries := s.entries ++ [entry] }

/-- Whom a new entry is announced to. -/
def audience (s : Store) : List String := if s.quiet then [] else s.listeners.snapshot

/-- Why an entry is not given up to the owner of a key pair. -/
def refusal? (entry : MailboxEntry) (owner : KeyPair) (s : Store) : Option StoreError :=
  if entry.receiverKeyId ≠ owner.keyId then some .unauthorized
  else if s.entries.contains entry then none
  else some .notFound

/-- Gives up an entry to the owner of a key pair. -/
def remove (entry : MailboxEntry) (owner : KeyPair) (s : Store) : Store :=
  match s.refusal? entry owner with
  | some e => { s with refusals := s.refusals ++ [e] }
  | none => { s with entries := s.entries.erase entry, removed := s.removed + 1 }

end Store

end Courier.Play
