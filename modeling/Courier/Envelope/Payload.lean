import Courier.Address
import Courier.Mail.Sealed

/-!
# Courier — payloads

What travels in an envelope: the handshake that opens a connection, the probes that measure it,
sealed messages, and the messages of applications, whose content is not looked at.
-/

namespace Courier

/-- The version of the protocol that this library speaks. -/
def protocolVersion : UInt8 := 1

/-- The first frame of either side of a connection. -/
structure Handshake where
  nodeId : String
  /-- Where the node accepts connections, if it does. -/
  address : Option Address
  version : UInt8
deriving DecidableEq, Repr, Inhabited

structure Ping where
  nonce : UInt64
deriving DecidableEq, Repr, Inhabited

structure Pong where
  requestNonce : UInt64
deriving DecidableEq, Repr, Inhabited

/-- A message of an application. -/
structure AppMessage where
  messageId : String
  topic : String
  body : Bytes
  /-- The hints under which a store may keep the message; without them it is sent directly or not
  at all. -/
  mailbox : Option MailboxMeta
  /-- The sender wants to know how the message was delivered. -/
  requestsAck : Bool
deriving DecidableEq, Repr, Inhabited

inductive Payload where
  | handshake (h : Handshake)
  | ping (p : Ping)
  | pong (p : Pong)
  | confidential (m : SealedMessage)
  | application (m : AppMessage)
deriving DecidableEq, Inhabited

/-- A message that is sent directly and whose delivery nobody follows. -/
def AppMessage.direct (messageId topic : String) (body : Bytes) : AppMessage :=
  ⟨messageId, topic, body, none, false⟩

namespace Payload

/-- The name of the kind of payload. -/
def kind : Payload → String
  | handshake _ => "Handshake"
  | ping _ => "Ping"
  | pong _ => "Pong"
  | confidential _ => "Confidential"
  | application _ => "Application"

/-- The hints under which a store may keep the payload (`mailbox_meta_data`). -/
def mailboxMeta? : Payload → Option MailboxMeta
  | application m => m.mailbox
  | _ => none

def isMailboxMessage (p : Payload) : Bool := p.mailboxMeta?.isSome

/-- The id of a message whose delivery the sender wants to know (`ack_request_id`). -/
def ackRequestId? : Payload → Option String
  | application m => if m.requestsAck then some m.messageId else none
  | _ => none

end Payload

/-! ## Schemas -/

def Handshake.schema : Schema Handshake :=
  .record "ConnectionHandshake" false
    (.required "node_id" .text
      (.optional "address" Address.schema (.required "protocol_version" .word8 .nil)))
    { forth := fun h => (h.nodeId, h.address, h.version, ())
      back := fun b => ⟨b.1, b.2.1, b.2.2.1⟩
      back_forth := fun _ => rfl
      forth_back := fun _ => rfl }

def Ping.schema : Schema Ping :=
  .record "Ping" false (.required "nonce" (.word64 "u64") .nil)
    { forth := fun p => (p.nonce, ())
      back := fun b => ⟨b.1⟩
      back_forth := fun _ => rfl
      forth_back := fun _ => rfl }

def Pong.schema : Schema Pong :=
  .record "Pong" false (.required "request_nonce" (.word64 "u64") .nil)
    { forth := fun p => (p.requestNonce, ())
      back := fun b => ⟨b.1⟩
      back_forth := fun _ => rfl
      forth_back := fun _ => rfl }

def AppMessage.schema : Schema AppMessage :=
  .record "ApplicationMessage" false
    (.required "message_id" .text
      (.required "topic" .text
        (.required "body" .octets
          (.optional "mailbox" MailboxMeta.schema (.required "requests_ack" .flag .nil)))))
    { forth := fun m => (m.messageId, m.topic, m.body, m.mailbox, m.requestsAck, ())
      back := fun b => ⟨b.1, b.2.1, b.2.2.1, b.2.2.2.1, b.2.2.2.2.1⟩
      back_forth := fun _ => rfl
      forth_back := fun _ => rfl }

def Payload.schema : Schema Payload :=
  .choice
    (.cons "Handshake" Handshake.schema
      (.cons "Ping" Ping.schema
        (.cons "Pong" Pong.schema
          (.cons "Confidential" SealedMessage.schema
            (.cons "Application" AppMessage.schema .nil)))))
    { forth := fun
        | .handshake h => .inl h
        | .ping p => .inr (.inl p)
        | .pong p => .inr (.inr (.inl p))
        | .confidential m => .inr (.inr (.inr (.inl m)))
        | .application m => .inr (.inr (.inr (.inr (.inl m))))
      back := fun
        | .inl h => .handshake h
        | .inr (.inl p) => .ping p
        | .inr (.inr (.inl p)) => .pong p
        | .inr (.inr (.inr (.inl m))) => .confidential m
        | .inr (.inr (.inr (.inr (.inl m)))) => .application m
      back_forth := by intro p; cases p <;> rfl
      forth_back := by
        intro b
        match b with
        | .inl _ => rfl
        | .inr (.inl _) => rfl
        | .inr (.inr (.inl _)) => rfl
        | .inr (.inr (.inr (.inl _))) => rfl
        | .inr (.inr (.inr (.inr (.inl _)))) => rfl }

end Courier
