import Courier.Mail.Sealed
import Courier.Text.Quoted

/-!
# Courier — delivery

How a message left its sender: it arrived, a store keeps it, or it failed. Storing starts a
broadcast, whose outcome is asked for once.
-/

namespace Courier

inductive DeliveryStatus where
  | arrived
  | addedToMailbox
  | failed
deriving DecidableEq, Repr, Inhabited

def DeliveryStatus.text : DeliveryStatus → String
  | arrived => "ARRIVED"
  | addedToMailbox => "ADDED_TO_MAILBOX"
  | failed => "FAILED"

def DeliveryStatus.names : List String := ["Arrived", "AddedToMailbox", "Failed"]

def DeliveryStatus.view : Bijection DeliveryStatus (Fin 3) where
  forth
    | .arrived => 0
    | .addedToMailbox => 1
    | .failed => 2
  back
    | 0 => .arrived
    | 1 => .addedToMailbox
    | 2 => .failed
  back_forth := by intro s; cases s <;> rfl
  forth_back := by decide

/-- The name of a status in its written forms. -/
def DeliveryStatus.name (s : DeliveryStatus) : String :=
  DeliveryStatus.names.get (DeliveryStatus.view.forth s)

def DeliveryStatus.schema : Schema DeliveryStatus :=
  .label DeliveryStatus.names DeliveryStatus.view

/-- Why a store did not do what it was asked for. -/
inductive StoreError where
  | broadcastFailed (reason : String)
  | unauthorized
  | notFound
deriving DecidableEq, Repr, Inhabited

/-- The name of the kind of failure. -/
def StoreError.name : StoreError → String
  | broadcastFailed _ => "BroadcastFailed"
  | unauthorized => "Unauthorized"
  | notFound => "NotFound"

def StoreError.message : StoreError → String
  | broadcastFailed reason => s!"Broadcast failed: {reason}"
  | unauthorized => "Not authorized to modify entry"
  | notFound => "Entry not found"

/-- A change of a store that was sent to its peers. -/
structure Broadcast where
  peers : UInt64
deriving DecidableEq, Repr, Inhabited

/-- What is known of the delivery of a message. -/
structure DeliveryResult where
  status : DeliveryStatus
  error : Option String
  /-- The outcome of the broadcast that storing started, until it is taken. -/
  broadcast : Option (Except StoreError Broadcast)

namespace DeliveryResult

def arrived : DeliveryResult := ⟨.arrived, none, none⟩

def addedToMailbox (broadcast : Except StoreError Broadcast) : DeliveryResult :=
  ⟨.addedToMailbox, none, some broadcast⟩

def failed (error : String) : DeliveryResult := ⟨.failed, some error, none⟩

/-- Takes the outcome of the broadcast; a second time there is none (`take_mailbox_broadcast`). -/
def takeBroadcast (r : DeliveryResult) : Option (Except StoreError Broadcast) × DeliveryResult :=
  (r.broadcast, { r with broadcast := none })

/-- A view for diagnostics. -/
def debugText (r : DeliveryResult) : String :=
  let error := match r.error with
    | some text => "Some(" ++ Text.quoted text ++ ")"
    | none => "None"
  let broadcast := if r.broadcast.isSome then "true" else "false"
  "DeliveryResult \x7b status: " ++ r.status.name ++ ", error_message: " ++ error
    ++ ", has_mailbox_broadcast: " ++ broadcast ++ " \x7d"

end DeliveryResult

/-! ## Schemas -/

def Broadcast.schema : Schema Broadcast :=
  .record "BroadcastResult" false (.required "num_peers" (.word64 "usize") .nil)
    { forth := fun b => (b.peers, ())
      back := fun b => ⟨b.1⟩
      back_forth := fun _ => rfl
      forth_back := fun _ => rfl }

end Courier
