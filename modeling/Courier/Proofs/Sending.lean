import Courier.Mail.Service

/-!
# Courier — what comes of a sealed message

A payload that cannot be sealed is refused before anything happens. A sealed one has arrived, is in
the store, or is lost, and the store and whoever follows deliveries are told just that. What the
nodes do when they send is not looked into: the message arrived if the sending node runs and the
registry says that it was sent.

* `MailService.Concluded` — what is seen of a sealed message after the attempt to send it;
* `MailService.conclude_concluded` — however the attempt came out;
* `MailService.send_outcome` — from the nodes of a registry, in any state of the world.
-/

namespace Courier.MailService

variable {M L S : Type}

/-- The id under which the delivery of a payload is reported, if someone wants to know of it. -/
def followedId? (s : MailService M) (payload : Payload) : Option String :=
  if s.hasTracker then payload.ackRequestId? else none

/-- A message that could not be sent can be kept. -/
def CanKeep (s : MailService M) (payload : Payload) : Prop :=
  payload.mailboxMeta?.isSome ∧ s.store.isSome

/-- What the caller, the store and whoever follows deliveries see of a sealed message that was sent
or not. -/
structure Concluded (s : MailService M) (payload : Payload) (message : SealedMessage)
    (sender : KeyPair) (receiver : PublicIdentity) (nowMs : UInt64) (wasSent : Prop)
    (result : DeliveryResult) (calls : List (MailCall M)) : Prop where
  arrived : result.status = .arrived ↔ wasSent
  addedToMailbox : result.status = .addedToMailbox ↔ ¬ wasSent ∧ s.CanKeep payload
  failed : result.status = .failed ↔ ¬ wasSent ∧ ¬ s.CanKeep payload
  error : result.error.isSome ↔ result.status = .failed
  /-- The store gets this very message with the hints of its payload, once, and is asked nothing
  else; then the status is reported, once. -/
  calls_of_added : result.status = .addedToMailbox →
    ∃ hints answer, payload.mailboxMeta? = some hints ∧ s.store = some answer ∧
      result = .addedToMailbox (answer ⟨message, hints, nowMs⟩) ∧
      calls = .add ⟨message, hints, nowMs⟩ sender receiver ::
        (s.followedId? payload).toList.map (.report · result.status)
  calls_of_not_added : result.status ≠ .addedToMailbox →
    calls = (s.followedId? payload).toList.map (.report · result.status)

/-- `report_status` tells the tracker, if there is one and the sender wants to know. -/
theorem report_eq (s : MailService M) (payload : Payload) (status : DeliveryStatus) :
    s.report payload status = (s.followedId? payload).toList.map (.report · status) := by
  unfold report followedId?
  cases s.hasTracker with
  | false => rfl
  | true => cases payload.ackRequestId? <;> rfl

/-! ## After the attempt -/

/-- A message that was sent needs no store. -/
theorem conclude_of_sent (s : MailService M) (payload : Payload) (message : SealedMessage)
    (c : ConnectionRef) (sender : KeyPair) (receiver : PublicIdentity) (nowMs : UInt64) :
    s.conclude payload message (.ok c) sender receiver nowMs =
      (.arrived, (s.followedId? payload).toList.map (.report · .arrived)) := by
  rw [← report_eq]
  rfl

/-- A message that was not sent and cannot be kept is lost, for one reason or the other. -/
theorem conclude_of_lost {s : MailService M} {payload : Payload} (h : ¬ s.CanKeep payload)
    (message : SealedMessage) (e : NetworkError) (sender : KeyPair) (receiver : PublicIdentity)
    (nowMs : UInt64) :
    ∃ text, s.conclude payload message (.error e) sender receiver nowMs =
      (.failed text, (s.followedId? payload).toList.map (.report · .failed)) := by
  unfold conclude fallBack
  cases hhints : payload.mailboxMeta? with
  | none => exact ⟨notKept e, by rw [← report_eq]; rfl⟩
  | some hints =>
    cases hstore : s.store with
    | none => exact ⟨"Mailbox store not available", by rw [← report_eq]; rfl⟩
    | some answer => exact absurd ⟨by rw [hhints]; rfl, by rw [hstore]; rfl⟩ h

/-- A message that was not sent but can be kept is given to the store. -/
theorem conclude_of_kept {s : MailService M} {payload : Payload} {hints : MailboxMeta}
    {answer : MailboxEntry → Except StoreError Broadcast}
    (hhints : payload.mailboxMeta? = some hints) (hstore : s.store = some answer)
    (message : SealedMessage) (e : NetworkError) (sender : KeyPair) (receiver : PublicIdentity)
    (nowMs : UInt64) :
    s.conclude payload message (.error e) sender receiver nowMs =
      (.addedToMailbox (answer ⟨message, hints, nowMs⟩),
        .add ⟨message, hints, nowMs⟩ sender receiver ::
          (s.followedId? payload).toList.map (.report · .addedToMailbox)) := by
  rw [← report_eq]
  unfold conclude fallBack
  rw [hhints, hstore]
  rfl

/-- What becomes of a message depends on whether it was sent, and on what there is to keep it. -/
theorem conclude_concluded (s : MailService M) (payload : Payload) (message : SealedMessage)
    (sent : Except NetworkError ConnectionRef) (sender : KeyPair) (receiver : PublicIdentity)
    (nowMs : UInt64) :
    s.Concluded payload message sender receiver nowMs (∃ c, sent = .ok c)
      (s.conclude payload message sent sender receiver nowMs).1
      (s.conclude payload message sent sender receiver nowMs).2 := by
  cases sent with
  | ok c =>
    rw [conclude_of_sent]
    have hsent : ∃ c', (Except.ok c : Except NetworkError ConnectionRef) = .ok c' := ⟨c, rfl⟩
    exact {
      arrived := iff_of_true rfl hsent
      addedToMailbox := iff_of_false (fun h => nomatch h) (fun h => h.1 hsent)
      failed := iff_of_false (fun h => nomatch h) (fun h => h.1 hsent)
      error := iff_of_false (fun h => nomatch h) (fun h => nomatch h)
      calls_of_added := fun h => nomatch h
      calls_of_not_added := fun _ => rfl }
  | error e =>
    have hsent : ¬ ∃ c, (Except.error e : Except NetworkError ConnectionRef) = .ok c := by
      rintro ⟨c, hc⟩
      cases hc
    by_cases hkeep : s.CanKeep payload
    · obtain ⟨hints, hhints⟩ := Option.isSome_iff_exists.mp hkeep.1
      obtain ⟨answer, hstore⟩ := Option.isSome_iff_exists.mp hkeep.2
      rw [conclude_of_kept hhints hstore]
      exact {
        arrived := iff_of_false (fun h => nomatch h) hsent
        addedToMailbox := iff_of_true rfl ⟨hsent, hkeep⟩
        failed := iff_of_false (fun h => nomatch h) (fun h => h.2 hkeep)
        error := iff_of_false (fun h => nomatch h) (fun h => nomatch h)
        calls_of_added := fun _ => ⟨hints, answer, hhints, hstore, rfl, rfl⟩
        calls_of_not_added := fun h => absurd rfl h }
    · obtain ⟨text, hlost⟩ := conclude_of_lost hkeep message e sender receiver nowMs
      rw [hlost]
      exact {
        arrived := iff_of_false (fun h => nomatch h) hsent
        addedToMailbox := iff_of_false (fun h => nomatch h) (fun h => hkeep h.2)
        failed := iff_of_true rfl ⟨hsent, hkeep⟩
        error := iff_of_true rfl rfl
        calls_of_added := fun h => nomatch h
        calls_of_not_added := fun _ => rfl }

/-! ## From the nodes of a registry -/

variable (env : Surroundings L S) (call : L → Event → World L S → World L S)

/-- The node of an id runs, and a payload can be sent from it. -/
def IsSent (r : RegistryRef) (nodeId : String) (payload : Payload) (target : Target)
    (w : World L S) : Prop :=
  w.isNodeRunning r nodeId ∧ ∃ c, (w.sendIn env call r nodeId payload target).1 = .ok c

/-- A sealed message names the key pair of its receiver. -/
theorem receiverKeyId_of_ofPayload {payload : Payload} {receiver : PublicIdentity}
    {sender : KeyPair} {random : Randomness} {message : SealedMessage}
    (h : SealedMessage.ofPayload payload receiver sender random = .ok message) :
    message.receiverKeyId = receiver.keyId := by
  unfold SealedMessage.ofPayload at h
  split at h
  · cases h
    rfl
  · cases h

/-- From a node that does not run nothing is sent. -/
theorem sendSealed_eq (r : RegistryRef) (nodeId : String) (target : Target)
    (message : SealedMessage) (w : World L S) :
    sendSealed (·.assertRunning r nodeId)
        (fun payload w => w.sendIn env call r nodeId payload target) message w =
      if w.isNodeRunning r nodeId then w.sendIn env call r nodeId (.confidential message) target
      else (.error (.notInitialized nodeId), w) := by
  unfold sendSealed
  by_cases hrun : w.isNodeRunning r nodeId
  · have hcheck : w.assertRunning r nodeId = .ok () := if_pos hrun
    dsimp only
    rw [hcheck, if_pos hrun]
  · have hcheck : w.assertRunning r nodeId = .error (.notInitialized nodeId) := if_neg hrun
    dsimp only
    rw [hcheck, if_neg hrun]

/-- **Every payload has one outcome**: it is refused and nothing happened, or the sealed message has
arrived, is in the store or is lost, as its node, its hints and the store decide. -/
theorem send_outcome (s : MailService M) (payload : Payload) (target : Target)
    (receiver : PublicIdentity) (sender : KeyPair) (nodeId : String) (random : Randomness)
    (nowMs : UInt64) (w : World L S) :
    match SealedMessage.ofPayload payload receiver sender random with
    | .error e =>
      s.send env call payload target receiver sender nodeId random nowMs w = (.error e, [], w)
    | .ok message =>
      message.receiverKeyId = receiver.keyId ∧
        ∃ result calls,
          s.send env call payload target receiver sender nodeId random nowMs w =
            (.ok result, calls,
              if w.isNodeRunning s.registry nodeId then
                (w.sendIn env call s.registry nodeId (.confidential message) target).2
              else w) ∧
          s.Concluded payload message sender receiver nowMs
            (IsSent env call s.registry nodeId (.confidential message) target w) result calls := by
  cases hseal : SealedMessage.ofPayload payload receiver sender random with
  | error e =>
    dsimp only
    rw [send, sendBy, hseal]
  | ok message =>
    refine ⟨receiverKeyId_of_ofPayload hseal, ?_⟩
    -- the attempt and what is concluded from it
    let sent := if w.isNodeRunning s.registry nodeId then
        w.sendIn env call s.registry nodeId (.confidential message) target
      else (.error (.notInitialized nodeId), w)
    have hsent : (∃ c, sent.1 = .ok c) ↔
        IsSent env call s.registry nodeId (.confidential message) target w := by
      unfold IsSent
      by_cases hrun : w.isNodeRunning s.registry nodeId
      · simp only [sent, if_pos hrun, hrun, true_and]
      · simp only [sent, if_neg hrun, hrun, false_and, reduceCtorEq, exists_false]
    have hworld : sent.2 = if w.isNodeRunning s.registry nodeId then
        (w.sendIn env call s.registry nodeId (.confidential message) target).2 else w := by
      simp only [sent]
      split <;> rfl
    have hconcluded := s.conclude_concluded payload message sent.1 sender receiver nowMs
    rw [propext hsent] at hconcluded
    refine ⟨_, _, ?_, hconcluded⟩
    rw [← hworld, send, sendBy, hseal]
    dsimp only
    rw [sendSealed_eq]

end Courier.MailService
