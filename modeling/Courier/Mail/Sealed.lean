import Courier.Keys.Public

/-!
# Courier — sealed messages

A sealed message can be opened by the owner of one key pair only, and tells who sealed it. A
mailbox entry is a sealed message that waits for its receiver, with the hints by which a store keeps
it.
-/

namespace Courier

/-- Encrypted data, with the signature of the sender over the ephemeral key and the ciphertext. -/
structure SealedData where
  senderKey : VerifyingKey
  ephemeralKey : Block 32
  ciphertext : Bytes
  signature : Signature
deriving DecidableEq, Inhabited

/-- Sealed data with the id of the key pair that opens it. -/
structure SealedMessage where
  data : SealedData
  receiverKeyId : String
deriving DecidableEq, Inhabited

/-- How long and how eagerly a store keeps an entry, and of what kind its content is. -/
structure MailboxMeta where
  ttlMs : UInt64
  priority : UInt8
  className : String
deriving DecidableEq, Repr, Inhabited

/-- A sealed message in a store, with the time of its creation. -/
structure MailboxEntry where
  message : SealedMessage
  metaData : MailboxMeta
  createdMs : UInt64
deriving DecidableEq, Inhabited

/-- Data of a store that carries no sealed message. -/
structure AuthenticatedData where
  className : String
  payload : Bytes
deriving DecidableEq, Repr, Inhabited

namespace MailboxMeta

/-- Ten days. -/
def defaultTtlMs : UInt64 := 864000000

/-- The hints for content of this kind, with the usual lifetime and the lowest priority. -/
def ofClass (className : String) : MailboxMeta := ⟨defaultTtlMs, 0, className⟩

/-- The age of an entry, zero for one from the future, exceeds its lifetime (`is_expired_at`). -/
def isExpiredAt (m : MailboxMeta) (createdMs nowMs : UInt64) : Bool :=
  m.ttlMs.toNat < nowMs.toNat - createdMs.toNat

end MailboxMeta

def MailboxEntry.receiverKeyId (e : MailboxEntry) : String := e.message.receiverKeyId

def MailboxEntry.isExpiredAt (e : MailboxEntry) (nowMs : UInt64) : Bool :=
  e.metaData.isExpiredAt e.createdMs nowMs

/-! ## Schemas -/

def SealedData.schema : Schema SealedData :=
  .record "ConfidentialData" false
    (.required "sender_public_key" VerifyingKey.schema
      (.required "ephemeral_public_key" (.block 32)
        (.required "cipher_text" .octets
          (.required "signature" Signature.schema .nil))))
    { forth := fun d => (d.senderKey, d.ephemeralKey, d.ciphertext, d.signature, ())
      back := fun b => ⟨b.1, b.2.1, b.2.2.1, b.2.2.2.1⟩
      back_forth := fun _ => rfl
      forth_back := fun _ => rfl }

def SealedMessage.schema : Schema SealedMessage :=
  .record "ConfidentialMessage" false
    (.required "confidential_data" SealedData.schema (.required "receiver_key_id" .text .nil))
    { forth := fun m => (m.data, m.receiverKeyId, ())
      back := fun b => ⟨b.1, b.2.1⟩
      back_forth := fun _ => rfl
      forth_back := fun _ => rfl }

def MailboxMeta.schema : Schema MailboxMeta :=
  .record "MetaData" false
    (.required "ttl_ms" (.word64 "u64")
      (.required "priority" .word8 (.required "class_name" .text .nil)))
    { forth := fun m => (m.ttlMs, m.priority, m.className, ())
      back := fun b => ⟨b.1, b.2.1, b.2.2.1⟩
      back_forth := fun _ => rfl
      forth_back := fun _ => rfl }

def MailboxEntry.schema : Schema MailboxEntry :=
  .record "MailboxData" false
    (.required "confidential_message" SealedMessage.schema
      (.required "meta_data" MailboxMeta.schema
        (.required "created_ms" (.word64 "u64") .nil)))
    { forth := fun e => (e.message, e.metaData, e.createdMs, ())
      back := fun b => ⟨b.1, b.2.1, b.2.2.1⟩
      back_forth := fun _ => rfl
      forth_back := fun _ => rfl }

def AuthenticatedData.schema : Schema AuthenticatedData :=
  .record "AuthenticatedData" false
    (.required "class_name" .text (.required "payload" .octets .nil))
    { forth := fun d => (d.className, d.payload, ())
      back := fun b => ⟨b.1, b.2.1⟩
      back_forth := fun _ => rfl
      forth_back := fun _ => rfl }

end Courier
