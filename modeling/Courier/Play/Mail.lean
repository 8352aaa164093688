import Courier.Play.Steps

/-!
# Courier — services and stores in a play

What a play does with stores in memory and with the services for sealed messages that use them.

* `Stage.openStore`, `Stage.openOffice` — stores and services;
* `Stage.sendMail`, `Stage.process` — sending, and messages that come in by hand;
* `Stage.publish`, `Stage.announceKept` — entries of a store.
-/

namespace Courier.Play.Stage

def openStore (name : String) (fails quiet : Bool) (s : Stage) : Stage :=
  { s with stores := put name (.fresh fails quiet) s.stores }

/-- Sets up a service on a registry, which listens to its nodes and to the store. -/
def openOffice (name : String) (r : RegistryRef) (keyPair? : String → Option KeyPair)
    (store : Option String) (hasTracker workersRun : Bool) (s : Stage) : Stage :=
  let (nodeHandle, w) := s.world.listenToNodes r (.mail name)
  let (storeHandle, w) := w.freshListener
  let answer := (store.bind (s.stores.lookup ·)).map fun st (_ : MailboxEntry) => st.broadcast
  let service : MailService String :=
    .fresh r keyPair? answer hasTracker workersRun nodeHandle storeHandle
  let s := { s.setWorld w with offices := put name ⟨service, store, false, [], [], []⟩ s.offices }
  match store with
  | none => s
  | some st => s.setStore st fun st => { st with listeners := st.listeners.add storeHandle name }

/-- The random values of the next message. -/
def randomness (s : Stage) : Randomness × Stage :=
  let k := s.sealedCount + 1
  (⟨Block.ofNat 32 (0x9e3779b97f4a7c15 * k), Block.ofNat 24 (0x1234567 * k)⟩,
    { s with sealedCount := k })

/-- The time at which entries of a play are made. -/
def now : UInt64 := 1780000000000

/-- Seals a payload and sends it from the node of an id, which has to run already. -/
def sendMail (name : String) (o : Office) (payload : Payload) (target : Target)
    (receiver : PublicIdentity) (sender : KeyPair) (nodeId : String) (s : Stage) :
    Except MailError DeliveryResult × Stage :=
  let (random, s) := s.randomness
  let r := o.service.registry
  let outcome := MailService.sendBy (fun s => s.world.assertRunning r nodeId)
    (fun payload s => s.send r nodeId payload target) o.service payload receiver sender random now s
  match outcome with
  | (.error e, _, s) => (.error e, s)
  | (.ok result, calls, s) => (.ok result, (s.carryOutAll name calls).flow)

/-- A message comes in by hand. -/
def process (name : String) (o : Office) (message : SealedMessage) (s : Stage) :
    Except MailError Bool × Stage :=
  let inbox := Inbox.receive o.service (.byHand message)
  ((inbox.answers.map (·.2)).headD (.ok false), (s.carryOutAll name inbox.calls).flow)

/-- An entry arrives at a store. -/
def publish (name : String) (store : Store) (entry : MailboxEntry) (s : Stage) : Stage :=
  ((s.setStore name (Store.keep entry)).announce entry store.audience).flow

/-- The listeners of a store are told of an entry so many times. -/
def announceKept (store : Store) (entry : MailboxEntry) (times : Nat) (s : Stage) : Stage :=
  ((List.range times).foldl (fun s _ => s.announce entry store.listeners.snapshot) s).flow

/-- Adds a listener to a service. -/
def addListener (office listener : String) (confidential : Bool) (s : Stage) : Stage :=
  let (handle, w) := s.world.freshListener
  (s.setWorld w).setOffice office fun o =>
    { o with
      service :=
        if confidential then o.service.addConfidentialListener handle listener
        else o.service.addListener handle listener
      handles := put listener (confidential, handle) o.handles }

/-- Removes the listener that was last added under a name, from the set that it is in or from the
other one; whether it was there. -/
def removeListener (office listener : String) (fromOther : Bool) (s : Stage) :
    Option Bool × Stage :=
  match (s.offices.lookup office).bind fun o => (o.handles.lookup listener).map (o, ·) with
  | none => (none, s)
  | some (o, confidential, handle) =>
    let (wasThere, service) :=
      if confidential != fromOther then o.service.removeConfidentialListener handle
      else o.service.removeListener handle
    (some wasThere, s.setOffice office fun o => { o with service })

/-- What the listeners of a service got since they were last asked. -/
def takeDeliveries (office : String) (s : Stage) : List Delivery × Stage :=
  (((s.offices.lookup office).map (·.deliveries)).getD [],
    s.setOffice office fun o => { o with deliveries := [] })

/-- What a service reported since it was last asked. -/
def takeReports (office : String) (s : Stage) : List (String × DeliveryStatus) × Stage :=
  (((s.offices.lookup office).map (·.reports)).getD [],
    s.setOffice office fun o => { o with reports := [] })

/-- Shuts a service down. -/
def shutDownOffice (name : String) (o : Office) (s : Stage) : Stage :=
  let s := match o.service.nodeHandle with
    | some handle => s.setWorld (s.world.unlistenToNodes o.service.registry handle).2
    | none => s
  let s := match o.store, o.service.storeHandle with
    | some store, some handle =>
      s.setStore store fun st => { st with listeners := (st.listeners.remove handle).2 }
    | _, _ => s
  s.setOffice name fun o => { o with service := o.service.shutDown }

/-- Drops a service without shutting it down. -/
def dropOffice (name : String) (s : Stage) : Stage :=
  s.setOffice name fun o => { o with dropped := true }

end Courier.Play.Stage
