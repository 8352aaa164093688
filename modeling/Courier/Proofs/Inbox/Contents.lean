import Courier.Mail.Service
import Mathlib.Data.List.Perm.Basic
import Mathlib.Tactic.ByContra

/-!
# Courier — what is found in sealed messages

What a service with given key pairs finds in a message, told without its stages: the key pair that
the message is sealed for, the payload, and the key of the sender, whose signature was verified.
The stages, which look for the key pair first and open the message later, come to the same.

* `SealedMessage.contents?`, `SealedMessage.answer`, `Arrival.removal?` — what there is to find, to
  answer and to remove;
* `SealedMessage.isSigned_of_contents?`, `SealedMessage.answer_iff` — forged and unreadable messages
  hold nothing, and are not answered positively;
* `Arrival.handovers_perm`, `Arrival.removals_perm` — what the stages find and remove.
-/

namespace Courier

variable {keyPair? : String → Option KeyPair}

namespace SealedMessage

/-- The own key pair that a message is sealed for, and what it finds in the message. -/
def contents? (keyPair? : String → Option KeyPair) (m : SealedMessage) :
    Option (KeyPair × Handover) := do
  let owner ← keyPair? m.receiverKeyId
  let plaintext ← (m.data.plaintextFor owner).toOption
  let (payload, _) ← (Payload.schema.decode plaintext).toOption
  return (owner, ⟨payload, m.data.senderKey⟩)

/-- What whoever brings a message is told. -/
def answer (keyPair? : String → Option KeyPair) (m : SealedMessage) : Except MailError Bool :=
  match keyPair? m.receiverKeyId with
  | none => .ok false
  | some owner =>
    match m.payloadFor owner with
    | .error e => .error e
    | .ok _ => .ok true

/-- What is found in a message was signed by the sender whose key is handed on. -/
theorem isSigned_of_contents? {m : SealedMessage} {owner : KeyPair} {h : Handover}
    (hfound : m.contents? keyPair? = some (owner, h)) :
    m.data.isSigned = true ∧ h.sender = m.data.senderKey := by
  obtain ⟨owner, -, hfound⟩ := Option.bind_eq_some_iff.mp hfound
  obtain ⟨plaintext, hplain, hfound⟩ := Option.bind_eq_some_iff.mp hfound
  obtain ⟨found, -, hfound⟩ := Option.bind_eq_some_iff.mp hfound
  cases hfound
  refine ⟨?_, rfl⟩
  -- the signature is looked at first, so that nothing is found in a forged message
  by_contra hforged
  rw [Bool.not_eq_true] at hforged
  have hrefused : m.data.plaintextFor owner = .error .invalidSignature := by
    unfold SealedData.plaintextFor
    rw [hforged]
    rfl
  rw [hrefused] at hplain
  cases hplain

end SealedMessage

/-- The entry that is removed for a message, with the key pair that opens it. -/
def Arrival.removal? (keyPair? : String → Option KeyPair) (a : Arrival) :
    Option (MailboxEntry × KeyPair) := do
  let entry ← a.entry
  let (owner, _) ← a.message.contents? keyPair?
  return (entry, owner)

/-! ## In stages -/

/-- The message of an arrival with the key pair that it is sealed for. -/
def Arrival.opening? (keyPair? : String → Option KeyPair) (a : Arrival) : Option Opening :=
  (keyPair? a.message.receiverKeyId).map (⟨a, ·⟩)

namespace Opening

/-- What is found in a message. -/
def handover? (o : Opening) : Option Handover := o.outcome.toOption

/-- What whoever brought a message is told when it was opened or could not be. -/
def answer (o : Opening) : Except MailError Bool := o.outcome.map fun _ => true

/-- The entry that is removed when a message was opened. -/
def removal? (hasStore : Bool) (o : Opening) : Option (MailboxEntry × KeyPair) :=
  if hasStore ∧ o.handover?.isSome then o.arrival.entry.map (·, o.owner) else none

end Opening

/-- Opening a message is decrypting its data and reading a payload. -/
theorem SealedMessage.payloadFor_eq (m : SealedMessage) (owner : KeyPair) :
    (m.payloadFor owner).toOption =
      (m.data.plaintextFor owner).toOption.bind fun plaintext =>
        (Payload.schema.decode plaintext).toOption.map fun found =>
          (found.1, m.data.senderKey) := by
  unfold payloadFor
  cases m.data.plaintextFor owner with
  | error e => rfl
  | ok plaintext =>
    dsimp only [Except.toOption, Option.bind_some]
    cases Payload.schema.decode plaintext <;> rfl

/-- What is handed over is what `open` yields. -/
theorem Opening.handover?_eq (o : Opening) :
    o.handover? = (o.arrival.message.payloadFor o.owner).toOption.map fun found =>
      ⟨found.1, found.2⟩ := by
  unfold handover? outcome
  cases o.arrival.message.payloadFor o.owner <;> rfl

namespace Arrival

/-- What is found in a message is found when it is opened. -/
theorem contents?_eq (keyPair? : String → Option KeyPair) (a : Arrival) :
    a.message.contents? keyPair? =
      (a.opening? keyPair?).bind fun o => o.handover?.map (o.owner, ·) := by
  unfold SealedMessage.contents? opening?
  cases keyPair? a.message.receiverKeyId with
  | none => rfl
  | some owner =>
    rw [Option.map_some, Option.bind_some, Opening.handover?_eq, SealedMessage.payloadFor_eq]
    dsimp only [Option.bind_some, bind]
    cases (a.message.data.plaintextFor owner).toOption with
    | none => rfl
    | some plaintext =>
      dsimp only [Option.bind_some]
      cases (Payload.schema.decode plaintext).toOption <;> rfl

/-- An opening is answered as its message deserves. -/
theorem answer_of_opening {a : Arrival} {o : Opening} (h : a.opening? keyPair? = some o) :
    (o.arrival.message, o.answer) = (a.message, a.message.answer keyPair?) := by
  obtain ⟨owner, howner, rfl⟩ := Option.map_eq_some_iff.mp h
  unfold SealedMessage.answer Opening.answer Opening.outcome
  rw [howner]
  dsimp only
  cases a.message.payloadFor owner <;> rfl

/-- A message that is sealed for none of the own key pairs is answered negatively. -/
theorem answer_of_no_opening {a : Arrival} (h : a.opening? keyPair? = none) :
    a.message.answer keyPair? = .ok false := by
  unfold SealedMessage.answer
  rw [Option.map_eq_none_iff.mp h]

/-- What was found and what will be found is what there is in the messages that arrived. -/
theorem handovers_perm {opened waiting : List Opening} {arrived : List Arrival}
    (h : (opened ++ waiting).Perm (arrived.filterMap (·.opening? keyPair?))) :
    (opened.filterMap Opening.handover? ++ waiting.filterMap Opening.handover?).Perm
      (arrived.filterMap fun a => (a.message.contents? keyPair?).map Prod.snd) := by
  -- to find something is to find the key pair and then to open the message with it
  have hfound : (arrived.filterMap fun a => (a.message.contents? keyPair?).map Prod.snd) =
      (arrived.filterMap (·.opening? keyPair?)).filterMap Opening.handover? := by
    rw [List.filterMap_filterMap]
    refine List.filterMap_congr fun a _ => ?_
    rw [contents?_eq]
    cases a.opening? keyPair? with
    | none => rfl
    | some o => cases ho : o.handover? <;> simp [ho]
  rw [hfound, ← List.filterMap_append]
  exact h.filterMap _

/-- The entries that were removed and that will be removed are those of the messages that were
opened or will be. -/
theorem removals_perm {hasStore : Bool} {opened waiting : List Opening} {arrived : List Arrival}
    (hstore : ∀ a ∈ arrived, a.entry.isSome → hasStore = true)
    (h : (opened ++ waiting).Perm (arrived.filterMap (·.opening? keyPair?))) :
    (opened.filterMap (Opening.removal? hasStore) ++
        waiting.filterMap (Opening.removal? hasStore)).Perm
      (arrived.filterMap (removal? keyPair?)) := by
  have hremoved : arrived.filterMap (removal? keyPair?) =
      (arrived.filterMap (·.opening? keyPair?)).filterMap (Opening.removal? hasStore) := by
    rw [List.filterMap_filterMap]
    refine List.filterMap_congr fun a ha => ?_
    unfold removal?
    rw [contents?_eq]
    unfold opening?
    cases keyPair? a.message.receiverKeyId with
    | none => cases a.entry <;> rfl
    | some owner =>
      cases hentry : a.entry with
      | none => simp [hentry, Opening.removal?]
      | some entry =>
        -- an entry comes from a store, and so there is one to remove it from
        obtain rfl : hasStore = true := hstore a ha (by rw [hentry]; rfl)
        cases ho : (⟨a, owner⟩ : Opening).handover? <;> simp [hentry, ho, Opening.removal?]
  rw [hremoved, ← List.filterMap_append]
  exact h.filterMap _

end Arrival

/-- A message is answered positively just if something is found in it, and negatively just if it is
for none of the own key pairs. -/
theorem SealedMessage.answer_iff (keyPair? : String → Option KeyPair) (m : SealedMessage) :
    (m.answer keyPair? = .ok true ↔ (m.contents? keyPair?).isSome) ∧
      (m.answer keyPair? = .ok false ↔ keyPair? m.receiverKeyId = none) := by
  rw [Arrival.contents?_eq keyPair? ⟨m, none⟩]
  unfold answer Arrival.opening? Opening.handover? Opening.outcome
  cases keyPair? m.receiverKeyId with
  | none => simp
  | some owner => cases hopen : m.payloadFor owner <;> simp [hopen, Except.toOption]

end Courier
