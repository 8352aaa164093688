import Courier.Mail.Service

/-!
# Courier — messages on their way through a service

A service leaves the opening of messages to one pool of workers and the calls of listeners to
another. Between the arrival of a message and the calls that it leads to, other messages arrive and
are worked on in any order, listeners come and go, and the service may be shut down. The inbox of a
service is the service with the work that waits; its steps are all that can happen to it.

The listeners that are called are those of the moment at which the calls begin; the confidential
ones are looked up when the others have been called. What listeners do to the service while they
are called counts as happening afterwards. A shutdown consists of several changes, between which
other steps may fall.

* `Inbox.step`, `Inbox.run` — one step, and one after the other;
* `Inbox.receive` — one message, worked on without delay.
-/

namespace Courier

/-- What may bring a message to a service. -/
inductive Incoming where
  /-- A node of the registry received a payload. -/
  | nodePayload (payload : Payload)
  /-- The store has a new entry. -/
  | entryAdded (entry : MailboxEntry)
  /-- A message comes in by hand. -/
  | byHand (message : SealedMessage)

/-- A change of the listeners of a service, or of what it listens to. -/
inductive ServiceChange (M : Type) where
  | add (circle : Circle) (id : ListenerId) (listener : M)
  | remove (circle : Circle) (id : ListenerId)
  | clear (circle : Circle)
  | leaveNodes
  | leaveStore

inductive InboxStep (M : Type) where
  | incoming (i : Incoming)
  | change (c : ServiceChange M)
  /-- A worker opens the message at a place among those that wait. -/
  | openAt (place : Nat)
  /-- The listeners get what was found in a message. -/
  | handAt (place : Nat)
  /-- The confidential listeners get it too. -/
  | handFromAt (place : Nat)

/-- A service with the work that waits, and with what it did and answered so far. -/
structure Inbox (M : Type) where
  service : MailService M
  /-- The messages that wait to be opened. -/
  toOpen : List Opening
  /-- What waits to be handed to the listeners. -/
  toHand : List Handover
  /-- What the listeners got and the confidential ones wait for. -/
  toHandFrom : List Handover
  calls : List (MailCall M)
  answers : List (SealedMessage × Except MailError Bool)

namespace MailService

variable {M : Type}

/-- The message that comes in, if the service hears of it and if it is sealed. -/
def arrival? (s : MailService M) : Incoming → Option Arrival
  | .nodePayload (.confidential message) =>
    if s.nodeHandle.isSome then some ⟨message, none⟩ else none
  | .nodePayload _ => none
  | .entryAdded entry => if s.storeHandle.isSome then some ⟨entry.message, some entry⟩ else none
  | .byHand message => some ⟨message, none⟩

def change (s : MailService M) : ServiceChange M → MailService M
  | .add .plain id m => s.addListener id m
  | .add .confidential id m => s.addConfidentialListener id m
  | .remove .plain id => (s.removeListener id).2
  | .remove .confidential id => (s.removeConfidentialListener id).2
  | .clear circle => s.clear circle
  | .leaveNodes => s.leaveNodes
  | .leaveStore => s.leaveStore

end MailService

namespace Inbox

variable {M : Type}

/-- The inbox of a service to which nothing has come yet. -/
def of (service : MailService M) : Inbox M := ⟨service, [], [], [], [], []⟩

def arrive (a : Arrival) (b : Inbox M) : Inbox M :=
  match b.service.accept a with
  | .inl answer => { b with answers := b.answers ++ [(a.message, answer)] }
  | .inr o => { b with toOpen := b.toOpen ++ [o] }

/-- A message was opened, or could not be. -/
def opened (o : Opening) (b : Inbox M) : Inbox M :=
  match o.outcome with
  | .error e => { b with answers := b.answers ++ [(o.arrival.message, .error e)] }
  | .ok h =>
    { b with
      toHand := b.toHand ++ [h]
      calls := b.calls ++ b.service.removal o
      answers := b.answers ++ [(o.arrival.message, .ok true)] }

/-- One step; work at a place where none waits changes nothing. -/
def step (b : Inbox M) : InboxStep M → Inbox M
  | .incoming i =>
    match b.service.arrival? i with
    | none => b
    | some a => b.arrive a
  | .change c => { b with service := b.service.change c }
  | .openAt i =>
    match b.toOpen[i]? with
    | none => b
    | some o => { b with toOpen := b.toOpen.eraseIdx i }.opened o
  | .handAt i =>
    match b.toHand[i]? with
    | none => b
    | some h =>
      { b with
        toHand := b.toHand.eraseIdx i
        toHandFrom := b.toHandFrom ++ [h]
        calls := b.calls ++ b.service.handPlain h }
  | .handFromAt i =>
    match b.toHandFrom[i]? with
    | none => b
    | some h =>
      { b with
        toHandFrom := b.toHandFrom.eraseIdx i
        calls := b.calls ++ b.service.handConfidential h }

def run (b : Inbox M) (steps : List (InboxStep M)) : Inbox M := steps.foldl step b

/-- A message comes in, and the work on it is done at once. -/
def receive (service : MailService M) (i : Incoming) : Inbox M :=
  (of service).run [.incoming i, .openAt 0, .handAt 0, .handFromAt 0]

/-- No work waits. -/
def IsQuiet (b : Inbox M) : Prop := b.toOpen = [] ∧ b.toHand = [] ∧ b.toHandFrom = []

end Inbox

end Courier
