import Courier.Mail.Delivery
import Courier.Mail.Sealing
import Courier.World.Registries

/-!
# Courier — a service for sealed messages

The service seals payloads and sends them from the nodes of a registry. A payload that cannot be
sent goes to a store, if it may be kept. Sealed messages that come in, over the network or from the
store, are opened with the key pair that they are sealed for and handed on.

What the service does to others is written down as a list of `MailCall`s, in order.

* `MailService.sendBy` — seals, sends, and stores what could not be sent, in whatever way sending
  is done; `MailService.send` — the same with the nodes of the registry;
* `MailService.accept`, `Opening.outcome`, `MailService.removal`, `MailService.handPlain`,
  `MailService.handConfidential` — the stages of what comes in.
-/

namespace Courier

/-- What the service does to its store, to whoever follows deliveries, and to its listeners, which
are called `M`. -/
inductive MailCall (M : Type) where
  /-- An entry is given to the store. -/
  | add (entry : MailboxEntry) (sender : KeyPair) (receiver : PublicIdentity)
  /-- An entry is taken out of the store. -/
  | remove (entry : MailboxEntry) (owner : KeyPair)
  /-- A delivery is reported. -/
  | report (messageId : String) (status : DeliveryStatus)
  /-- A listener gets a payload. -/
  | deliver (listener : M) (payload : Payload)
  /-- A listener gets a payload and the key of its sender. -/
  | deliverFrom (listener : M) (payload : Payload) (sender : VerifyingKey)

/-- A sealed message that came in, with its entry if it came from the store. -/
structure Arrival where
  message : SealedMessage
  entry : Option MailboxEntry
deriving DecidableEq, Inhabited

/-- A message that is to be opened with one of the own key pairs. -/
structure Opening where
  arrival : Arrival
  owner : KeyPair

/-- What was found in a message and is to be handed to the listeners. -/
structure Handover where
  payload : Payload
  sender : VerifyingKey
deriving DecidableEq, Inhabited

/-- Opens a message. -/
def Opening.outcome (o : Opening) : Except MailError Handover :=
  match o.arrival.message.payloadFor o.owner with
  | .error e => .error e
  | .ok (payload, sender) => .ok ⟨payload, sender⟩

/-- The two sets of listeners of a service: those that get payloads, and those that get the keys of
the senders as well. -/
inductive Circle where
  | plain
  | confidential
deriving DecidableEq, Repr, Inhabited

structure MailService (M : Type) where
  registry : RegistryRef
  /-- The own key pairs by their ids. -/
  keyPair? : String → Option KeyPair
  /-- What the store answers to a new entry, if there is a store. -/
  store : Option (MailboxEntry → Except StoreError Broadcast)
  /-- Someone follows deliveries. -/
  hasTracker : Bool
  /-- The threads that open messages are running. -/
  workersRun : Bool
  listeners : Listeners M
  confidentialListeners : Listeners M
  /-- The handle under which the service listens to the nodes. -/
  nodeHandle : Option ListenerId
  /-- The handle under which the service listens to the store. -/
  storeHandle : Option ListenerId

namespace MailService

variable {M L S : Type}

/-! ## Sending -/

/-- A failed delivery of what may not be kept. -/
def notKept (e : NetworkError) : String :=
  s!"Sending message failed and message is not a mailbox message: {e.message}"

/-- What becomes of a message that was not sent: a store keeps it, if it may be kept and there is
one (`on_send_failed`). -/
def fallBack (s : MailService M) (payload : Payload) (message : SealedMessage) (e : NetworkError)
    (sender : KeyPair) (receiver : PublicIdentity) (nowMs : UInt64) :
    DeliveryResult × List (MailCall M) :=
  match payload.mailboxMeta?, s.store with
  | none, _ => (.failed (notKept e), [])
  | some _, none => (.failed "Mailbox store not available", [])
  | some hints, some answer =>
    let entry : MailboxEntry := ⟨message, hints, nowMs⟩
    (.addedToMailbox (answer entry), [.add entry sender receiver])

/-- The report on a delivery that someone wants to know of (`report_status`). -/
def report (s : MailService M) (payload : Payload) (status : DeliveryStatus) :
    List (MailCall M) :=
  match s.hasTracker, payload.ackRequestId? with
  | true, some messageId => [.report messageId status]
  | _, _ => []

/-- Sends a sealed message by `sendOut`, unless the node that it is sent from does not run. -/
def sendSealed {σ : Type} (checkRunning : σ → Except NetworkError Unit)
    (sendOut : Payload → σ → Except NetworkError ConnectionRef × σ) (message : SealedMessage)
    (w : σ) : Except NetworkError ConnectionRef × σ :=
  match checkRunning w with
  | .error e => (.error e, w)
  | .ok _ => sendOut (.confidential message) w

/-- What comes of a message after the attempt to send it. -/
def conclude (s : MailService M) (payload : Payload) (message : SealedMessage)
    (sent : Except NetworkError ConnectionRef) (sender : KeyPair) (receiver : PublicIdentity)
    (nowMs : UInt64) : DeliveryResult × List (MailCall M) :=
  let (result, stored) := match sent with
    | .ok _ => (.arrived, [])
    | .error e => s.fallBack payload message e sender receiver nowMs
  (result, stored ++ s.report payload result.status)

/-- Seals a payload and sends it by `sendOut` (`send_to`). Nothing else happens where it cannot be
sealed. -/
def sendBy {σ : Type} (checkRunning : σ → Except NetworkError Unit)
    (sendOut : Payload → σ → Except NetworkError ConnectionRef × σ) (s : MailService M)
    (payload : Payload) (receiver : PublicIdentity) (sender : KeyPair) (random : Randomness)
    (nowMs : UInt64) (w : σ) : Except MailError DeliveryResult × List (MailCall M) × σ :=
  match SealedMessage.ofPayload payload receiver sender random with
  | .error e => (.error e, [], w)
  | .ok message =>
    let (sent, w) := sendSealed checkRunning sendOut message w
    let (result, calls) := s.conclude payload message sent sender receiver nowMs
    (.ok result, calls, w)

/-- Seals a payload and sends it from the node of an id, which has to run already. -/
def send (env : Surroundings L S) (call : L → Event → World L S → World L S) (s : MailService M)
    (payload : Payload) (target : Target) (receiver : PublicIdentity) (sender : KeyPair)
    (nodeId : String) (random : Randomness) (nowMs : UInt64) (w : World L S) :
    Except MailError DeliveryResult × List (MailCall M) × World L S :=
  sendBy (·.assertRunning s.registry nodeId)
    (fun payload w => w.sendIn env call s.registry nodeId payload target) s payload receiver
    sender random nowMs w

/-! ## Receiving -/

/-- A message that is sealed for one of the own key pairs is to be opened; any other has its answer
at once (`process`). -/
def accept (s : MailService M) (a : Arrival) : Except MailError Bool ⊕ Opening :=
  match s.keyPair? a.message.receiverKeyId with
  | none => .inl (.ok false)
  | some owner =>
    if s.workersRun then .inr ⟨a, owner⟩
    else .inl (.error (.workerFailed "task was cancelled"))

/-- The entry of a message that was opened is removed from the store that it came from. -/
def removal (s : MailService M) (o : Opening) : List (MailCall M) :=
  match o.arrival.entry, s.store with
  | some entry, some _ => [.remove entry o.owner]
  | _, _ => []

/-- The listeners get the payload of a message. -/
def handPlain (s : MailService M) (h : Handover) : List (MailCall M) :=
  s.listeners.snapshot.map (.deliver · h.payload)

/-- The confidential listeners get the payload of a message and the key of its sender. -/
def handConfidential (s : MailService M) (h : Handover) : List (MailCall M) :=
  s.confidentialListeners.snapshot.map (.deliverFrom · h.payload h.sender)

/-! ## Listeners -/

def addListener (id : ListenerId) (m : M) (s : MailService M) : MailService M :=
  { s with listeners := s.listeners.add id m }

def removeListener (id : ListenerId) (s : MailService M) : Bool × MailService M :=
  let (wasThere, listeners) := s.listeners.remove id
  (wasThere, { s with listeners })

def addConfidentialListener (id : ListenerId) (m : M) (s : MailService M) : MailService M :=
  { s with confidentialListeners := s.confidentialListeners.add id m }

def removeConfidentialListener (id : ListenerId) (s : MailService M) : Bool × MailService M :=
  let (wasThere, confidentialListeners) := s.confidentialListeners.remove id
  (wasThere, { s with confidentialListeners })

/-! ## Beginning and end -/

/-- A new service, without listeners, that listens to the nodes of a registry and to its store. -/
def fresh (registry : RegistryRef) (keyPair? : String → Option KeyPair)
    (store : Option (MailboxEntry → Except StoreError Broadcast)) (hasTracker workersRun : Bool)
    (nodeHandle storeHandle : ListenerId) : MailService M :=
  { registry, keyPair?, store, hasTracker, workersRun
    listeners := .empty
    confidentialListeners := .empty
    nodeHandle := some nodeHandle
    storeHandle := store.map fun _ => storeHandle }

/-- The service no longer listens to the nodes. -/
def leaveNodes (s : MailService M) : MailService M := { s with nodeHandle := none }

/-- The service no longer listens to its store. -/
def leaveStore (s : MailService M) : MailService M := { s with storeHandle := none }

/-- One set of listeners is emptied. -/
def clear (circle : Circle) (s : MailService M) : MailService M :=
  match circle with
  | .plain => { s with listeners := .empty }
  | .confidential => { s with confidentialListeners := .empty }

/-- The service listens to nothing more and has no more listeners. -/
def shutDown (s : MailService M) : MailService M :=
  ((s.leaveNodes.leaveStore).clear .plain).clear .confidential

end MailService

end Courier
