import Courier.Envelope.Basic
import Courier.Proofs.Binary
import Courier.Proofs.Json.Agreement
import Courier.Schema.Print

/-!
# Courier — one text for each signature

A signature stands as Base64 text in whatever is written, on its own or inside something else. To say
which texts are accepted there, schemas are loosened: any text may stand where a schema asks for a
block in Base64. A form is then read by a schema just when it is read by the loosened one and these
texts are those that are written for the blocks.

* `Schema.Loose`, `Schema.loose`, `Schema.loosen` — the loosened values, their schema, and a value as
  it is written;
* `Schema.Canonical` — the loosened values all of whose texts are in order;
* `Schema.agrees_loose`, `Schema.decode_loose` — both forms read by both schemas;
* `one_text_for_each_signature` — the texts that are accepted, on their own and inside.
-/

namespace Courier

open Json

-- ---------------------------------------------------------------------------
-- Loosened schemas
-- ---------------------------------------------------------------------------

mutual

/-- The values that a schema describes if any text may stand for a block in Base64. -/
def Schema.Loose : {α : Type} → Schema α → Type
  | _, .word8 => UInt8
  | _, .word16 => UInt16
  | _, .word64 _ => UInt64
  | _, .flag => Bool
  | _, .text => String
  | _, .octets => Bytes
  | _, .block n => Block n
  | _, .base64 _ => String
  | _, .optional s => Option s.Loose
  | _, .record _ _ fields _ => fields.Loose
  | _, .choice cases _ => cases.Loose
  | α, .label _ _ => α

def Fields.Loose : {β : Type} → Fields β → Type
  | _, .nil => Unit
  | _, .cons _ s _ rest => s.Loose × rest.Loose

def Cases.Loose : {β : Type} → Cases β → Type
  | _, .nil => Empty
  | _, .cons _ s rest => s.Loose ⊕ rest.Loose

end

mutual

/-- A value with the texts that are written for its blocks. -/
def Schema.loosen : {α : Type} → (s : Schema α) → α → s.Loose
  | _, .word8, n => n
  | _, .word16, n => n
  | _, .word64 _, n => n
  | _, .flag, b => b
  | _, .text, s => s
  | _, .octets, bs => bs
  | _, .block _, b => b
  | _, .base64 _, b => Base64.encode b.bytes
  | _, .optional s, a => a.map s.loosen
  | _, .record _ _ fields view, a => fields.loosen (view.forth a)
  | _, .choice cases view, a => cases.loosen (view.forth a)
  | _, .label _ _, a => a

def Fields.loosen : {β : Type} → (fields : Fields β) → β → fields.Loose
  | _, .nil, _ => ()
  | _, .cons _ s _ rest, b => (s.loosen b.1, rest.loosen b.2)

def Cases.loosen : {β : Type} → (cases : Cases β) → β → cases.Loose
  | _, .nil, e => e
  | _, .cons _ s rest, b => b.map s.loosen rest.loosen

end

mutual

/-- The same schema, with any text for a block in Base64. -/
def Schema.loose : {α : Type} → (s : Schema α) → Schema s.Loose
  | _, .word8 => .word8
  | _, .word16 => .word16
  | _, .word64 name => .word64 name
  | _, .flag => .flag
  | _, .text => .text
  | _, .octets => .octets
  | _, .block n => .block n
  | _, .base64 _ => .text
  | _, .optional s => .optional s.loose
  | _, .record name lenient fields _ => .record name lenient fields.loose (.refl _)
  | _, .choice cases _ => .choice cases.loose (.refl _)
  | _, .label names view => .label names view

def Fields.loose : {β : Type} → (fields : Fields β) → Fields fields.Loose
  | _, .nil => .nil
  | _, .cons name s absent rest => .cons name s.loose (absent.map s.loosen) rest.loose

def Cases.loose : {β : Type} → (cases : Cases β) → Cases cases.Loose
  | _, .nil => .nil
  | _, .cons name s rest => .cons name s.loose rest.loose

end

/-- Fields given so far, with the texts that are written for their blocks. -/
def Fields.loosenGiven : {β : Type} → (fields : Fields β) → fields.Given → fields.loose.Given
  | _, .nil => fun given => given
  | _, .cons _ s _ rest => Fields.givenAlong s.loosen rest.loosenGiven

-- ---------------------------------------------------------------------------
-- Texts that are in order
-- ---------------------------------------------------------------------------

mutual

/-- The texts that stand for blocks in Base64 are in canonical form, and of the right length. -/
def Schema.Canonical : {α : Type} → (s : Schema α) → s.Loose → Prop
  | _, .word8, _ => True
  | _, .word16, _ => True
  | _, .word64 _, _ => True
  | _, .flag, _ => True
  | _, .text, _ => True
  | _, .octets, _ => True
  | _, .block _, _ => True
  | _, .base64 n, text => Base64.IsCanonical n text
  | _, .optional s, a => Option.elim a True s.Canonical
  | _, .record _ _ fields _, b => fields.Canonical b
  | _, .choice cases _, b => cases.Canonical b
  | _, .label _ _, _ => True

def Fields.Canonical : {β : Type} → (fields : Fields β) → fields.Loose → Prop
  | _, .nil, _ => True
  | _, .cons _ s _ rest, b => s.Canonical b.1 ∧ rest.Canonical b.2

def Cases.Canonical : {β : Type} → (cases : Cases β) → cases.Loose → Prop
  | _, .nil, _ => True
  | _, .cons _ s rest, b => Sum.elim s.Canonical rest.Canonical b

end

/-- The texts of `n` bytes are those in canonical form. -/
theorem Block.exists_encode_iff {n : Nat} {text : String} :
    (∃ b : Block n, Base64.encode b.bytes = text) ↔ Base64.IsCanonical n text := by
  rw [Base64.isCanonical_iff]
  constructor
  · rintro ⟨b, rfl⟩
    exact ⟨b.bytes, b.length_bytes, rfl⟩
  · rintro ⟨bs, hbs, rfl⟩
    exact ⟨⟨bs, hbs⟩, rfl⟩

mutual

/-- The loosened values all of whose texts are in order are the values as they are written. -/
theorem Schema.exists_loosen_iff : {α : Type} → (s : Schema α) → (v : s.Loose) →
    ((∃ a, s.loosen a = v) ↔ s.Canonical v)
  | _, .word8, n => iff_of_true ⟨n, rfl⟩ trivial
  | _, .word16, n => iff_of_true ⟨n, rfl⟩ trivial
  | _, .word64 _, n => iff_of_true ⟨n, rfl⟩ trivial
  | _, .flag, b => iff_of_true ⟨b, rfl⟩ trivial
  | _, .text, s => iff_of_true ⟨s, rfl⟩ trivial
  | _, .octets, bs => iff_of_true ⟨bs, rfl⟩ trivial
  | _, .block _, b => iff_of_true ⟨b, rfl⟩ trivial
  | _, .base64 _, text => Block.exists_encode_iff
  | _, .optional s, v? => by
    cases v? with
    | none => exact iff_of_true ⟨none, rfl⟩ trivial
    | some v =>
      refine Iff.trans ?_ (s.exists_loosen_iff v)
      constructor
      · rintro ⟨a?, ha⟩
        obtain ⟨a, -, ha⟩ := Option.map_eq_some_iff.mp ha
        exact ⟨a, ha⟩
      · rintro ⟨a, rfl⟩
        exact ⟨some a, rfl⟩
  | _, .record _ _ fields view, v => by
    rw [Schema.Canonical, ← fields.exists_loosen_iff v]
    constructor
    · rintro ⟨a, rfl⟩
      exact ⟨view.forth a, rfl⟩
    · rintro ⟨b, rfl⟩
      exact ⟨view.back b, congrArg fields.loosen (view.forth_back b)⟩
  | _, .choice cases view, v => by
    rw [Schema.Canonical, ← cases.exists_loosen_iff v]
    constructor
    · rintro ⟨a, rfl⟩
      exact ⟨view.forth a, rfl⟩
    · rintro ⟨b, rfl⟩
      exact ⟨view.back b, congrArg cases.loosen (view.forth_back b)⟩
  | _, .label _ _, a => iff_of_true ⟨a, rfl⟩ trivial

/-- The loose form of a record is canonical if all its fields are. -/
theorem Fields.exists_loosen_iff : {β : Type} → (fields : Fields β) → (v : fields.Loose) →
    ((∃ b, fields.loosen b = v) ↔ fields.Canonical v)
  | _, .nil, v => iff_of_true ⟨v, rfl⟩ trivial
  | _, .cons _ s _ rest, v => by
    rw [Fields.Canonical, ← s.exists_loosen_iff v.1, ← rest.exists_loosen_iff v.2]
    constructor
    · rintro ⟨b, rfl⟩
      exact ⟨⟨b.1, rfl⟩, ⟨b.2, rfl⟩⟩
    · rintro ⟨⟨a, ha⟩, ⟨b, hb⟩⟩
      exact ⟨(a, b), Prod.ext ha hb⟩

theorem Cases.exists_loosen_iff : {β : Type} → (cases : Cases β) → (v : cases.Loose) →
    ((∃ b, cases.loosen b = v) ↔ cases.Canonical v)
  | _, .nil, v => nomatch v
  | _, .cons _ s rest, v => by
    cases v with
    | inl v =>
      refine Iff.trans ?_ (s.exists_loosen_iff v)
      constructor
      · rintro ⟨a | b, h⟩
        · exact ⟨a, Sum.inl.inj h⟩
        · cases h
      · rintro ⟨a, rfl⟩
        exact ⟨.inl a, rfl⟩
    | inr v =>
      refine Iff.trans ?_ (rest.exists_loosen_iff v)
      constructor
      · rintro ⟨a | b, h⟩
        · cases h
        · exact ⟨b, Sum.inr.inj h⟩
      · rintro ⟨b, rfl⟩
        exact ⟨.inr b, rfl⟩

end

-- ---------------------------------------------------------------------------
-- Both forms, read by both schemas
-- ---------------------------------------------------------------------------

mutual

/-- **A schema and the loosened one agree** on what is read from JSON. -/
theorem Schema.agrees_loose : {α : Type} → (s : Schema α) → s.AgreesBy s.loosen s.loose
  | _, .word8 => .same _
  | _, .word16 => .same _
  | _, .word64 _ => .same _
  | _, .flag => .same _
  | _, .text => .same _
  | _, .octets => .same _
  | _, .block _ => .same _
  | _, .base64 n => .base64 n
  | _, .optional s => s.agrees_loose.optional
  | _, .record name lenient fields view => .record fields.agrees_loose name lenient view
  | _, .choice cases view => .choice cases.agrees_loose view
  | _, .label _ _ => .same _

/-- Records are read as their loose forms. -/
theorem Fields.agrees_loose : {β : Type} → (fields : Fields β) →
    fields.AgreesBy fields.loosen fields.loose fields.loosenGiven
  | _, .nil => .nil
  | _, .cons name s absent rest => .cons s.agrees_loose rest.agrees_loose name absent

theorem Cases.agrees_loose : {β : Type} → (cases : Cases β) →
    cases.AgreesBy cases.loosen cases.loose
  | _, .nil => .nil
  | _, .cons name s rest => .cons s.agrees_loose rest.agrees_loose name

end

/-- A value has the forms that the loosened schema has for it as it is written. -/
structure Schema.SameForms {α : Type} (s : Schema α) : Prop where
  encode : ∀ a, s.loose.encode (s.loosen a) = s.encode a
  fits : ∀ a, s.loose.Fits (s.loosen a) ↔ s.Fits a
  print : ∀ a, s.loose.print (s.loosen a) = s.print a
  numbered : s.loose.numbered = s.numbered

structure Fields.SameForms {β : Type} (fields : Fields β) : Prop where
  encode : ∀ b, fields.loose.encode (fields.loosen b) = fields.encode b
  fits : ∀ b, fields.loose.Fits (fields.loosen b) ↔ fields.Fits b
  print : ∀ b, fields.loose.print (fields.loosen b) = fields.print b
  numbered : fields.loose.numbered = fields.numbered

structure Cases.SameForms {β : Type} (cases : Cases β) : Prop where
  encode : ∀ index b, cases.loose.encode index (cases.loosen b) = cases.encode index b
  fits : ∀ b, cases.loose.Fits (cases.loosen b) ↔ cases.Fits b
  print : ∀ b, cases.loose.print (cases.loosen b) = cases.print b
  numbered : cases.loose.numbered = cases.numbered
  names : cases.loose.names = cases.names

mutual

/-- A value and its loose form are written in the same way. -/
theorem Schema.sameForms : {α : Type} → (s : Schema α) → s.SameForms
  | _, .word8 => ⟨fun _ => rfl, fun _ => Iff.rfl, fun _ => rfl, rfl⟩
  | _, .word16 => ⟨fun _ => rfl, fun _ => Iff.rfl, fun _ => rfl, rfl⟩
  | _, .word64 _ => ⟨fun _ => rfl, fun _ => Iff.rfl, fun _ => rfl, rfl⟩
  | _, .flag => ⟨fun _ => rfl, fun _ => Iff.rfl, fun _ => rfl, rfl⟩
  | _, .text => ⟨fun _ => rfl, fun _ => Iff.rfl, fun _ => rfl, rfl⟩
  | _, .octets => ⟨fun _ => rfl, fun _ => Iff.rfl, fun _ => rfl, rfl⟩
  | _, .block _ => ⟨fun _ => rfl, fun _ => Iff.rfl, fun _ => rfl, rfl⟩
  | _, .base64 _ => by
    refine ⟨fun _ => rfl, fun b => ?_, fun _ => rfl, rfl⟩
    show (Bytes.ofText (Base64.encode b.bytes)).length < _ ↔ _
    rw [Base64.ofText_encode]
    rfl
  | _, .optional s =>
    have h := s.sameForms
    { encode := fun a? => by
        cases a? with
        | none => rfl
        | some a => exact congrArg (1 :: ·) (h.encode a)
      fits := fun a? => by
        cases a? with
        | none => exact Iff.rfl
        | some a => exact h.fits a
      print := fun a? => by
        cases a? with
        | none => rfl
        | some a => exact h.print a
      numbered := h.numbered }
  | _, .record _ _ fields view =>
    have h := fields.sameForms
    { encode := fun a => h.encode (view.forth a)
      fits := fun a => h.fits (view.forth a)
      print := fun a => congrArg braced (h.print (view.forth a))
      numbered := h.numbered }
  | _, .choice cases view =>
    have h := cases.sameForms
    { encode := fun a => h.encode 0 (view.forth a)
      fits := fun a => h.fits (view.forth a)
      print := fun a => h.print (view.forth a)
      numbered := by rw [Schema.numbered, ← h.numbered, ← h.names]; rfl }
  | _, .label _ _ => ⟨fun _ => rfl, fun _ => Iff.rfl, fun _ => rfl, rfl⟩

theorem Fields.sameForms : {β : Type} → (fields : Fields β) → fields.SameForms
  | _, .nil => ⟨fun _ => rfl, fun _ => Iff.rfl, fun _ => rfl, rfl⟩
  | _, .cons name s _ rest =>
    have h := s.sameForms
    have h' := rest.sameForms
    { encode := fun b => congrArg₂ (· ++ ·) (h.encode b.1) (h'.encode b.2)
      fits := fun b => and_congr (h.fits b.1) (h'.fits b.2)
      print := fun b => congrArg₂ (fun v ms => member name v :: ms) (h.print b.1) (h'.print b.2)
      numbered := congrArg₂ (· && ·) h.numbered h'.numbered }

theorem Cases.sameForms : {β : Type} → (cases : Cases β) → cases.SameForms
  | _, .nil => ⟨fun _ e => (nomatch e), fun e => (nomatch e), fun e => (nomatch e), rfl, rfl⟩
  | _, .cons name s rest =>
    have h := s.sameForms
    have h' := rest.sameForms
    { encode := fun index b => by
        cases b with
        | inl a => exact congrArg (_ ++ ·) (h.encode a)
        | inr b => exact h'.encode (index + 1) b
      fits := fun b => by
        cases b with
        | inl a => exact h.fits a
        | inr b => exact h'.fits b
      print := fun b => by
        cases b with
        | inl a => exact congrArg (fun v => braced [member name v]) (h.print a)
        | inr b => exact h'.print b
      numbered := congrArg₂ (· && ·) h.numbered h'.numbered
      names := congrArg (name :: ·) h'.names }

end

/-- A schema and the loosened one agree on what is read from binary data. -/
theorem Schema.decode_loose {α : Type} {s : Schema α} (hs : s.numbered = true) {bs rest : Bytes}
    {a : α} : s.decode bs = .ok (a, rest) ↔ s.loose.decode bs = .ok (s.loosen a, rest) := by
  have hforms := s.sameForms
  rw [decode_eq_ok_iff hs, decode_eq_ok_iff (hforms.numbered.trans hs), hforms.fits,
    hforms.encode]

/-- In either form, a value is read just where its texts are those that are written for it. -/
structure Schema.OneText {α : Type} (s : Schema α) : Prop where
  json : ∀ text a, s.ofJson text = .ok a ↔ s.loose.ofJson text = .ok (s.loosen a)
  /-- With other texts there, a JSON text is refused. -/
  json_accepts : ∀ text v, s.loose.ofJson text = .ok v →
    ((∃ a, s.ofJson text = .ok a) ↔ s.Canonical v)
  json_written : ∀ a, s.toJson a = s.loose.toJson (s.loosen a)
  binary : ∀ bs a rest, s.decode bs = .ok (a, rest) ↔ s.loose.decode bs = .ok (s.loosen a, rest)
  /-- With other texts there, binary data is refused. -/
  binary_accepts : ∀ bs v rest, s.loose.decode bs = .ok (v, rest) →
    ((∃ a more, s.decode bs = .ok (a, more)) ↔ s.Canonical v)
  binary_written : ∀ a, s.encode a = s.loose.encode (s.loosen a)

/-- Every type has one text for each signature in it. -/
theorem Schema.OneText.of_numbered {α : Type} {s : Schema α} (hs : s.numbered = true) :
    s.OneText := by
  have hjson (text : String) (a : α) :
      s.ofJson text = .ok a ↔ s.loose.ofJson text = .ok (s.loosen a) := by
    rw [ofJson, ofJson, parse_eq_ok, parse_eq_ok]
    simp only [s.agrees_loose.read text.toList a]
  refine ⟨hjson, fun text v hv => ?_, fun a => ?_, fun bs a rest => decode_loose hs,
    fun bs v rest hv => ?_, fun a => (s.sameForms.encode a).symm⟩
  · rw [← s.exists_loosen_iff v]
    constructor
    · rintro ⟨a, ha⟩
      exact ⟨a, Except.ok.inj (((hjson text a).mp ha).symm.trans hv)⟩
    · rintro ⟨a, rfl⟩
      exact ⟨a, (hjson text a).mpr hv⟩
  · rw [toJson, toJson, s.sameForms.print]
  · rw [← s.exists_loosen_iff v]
    constructor
    · rintro ⟨a, more, ha⟩
      have hsame := ((decode_loose hs).mp ha).symm.trans hv
      exact ⟨a, congrArg Prod.fst (Except.ok.inj hsame)⟩
    · rintro ⟨a, rfl⟩
      exact ⟨a, rest, (decode_loose hs).mpr hv⟩

/-- **There is one text for each signature**, and for each byte string of any length. Where a text
stands, in JSON or in binary data, it reads as `n` bytes just when it is the one that is written for
them, and these are the texts of the right length with the right padding, of symbols only, and with
no bit set that belongs to no byte. Inside a sealed message, an envelope or a mailbox entry it is the
same: whatever else is written there and however, the whole is read just when the text of the
signature is in order, and then as the value for which that text is written. -/
theorem one_text_for_each_signature :
    (∀ (n : Nat) (text : String),
      (∃ b : Block n, Base64.encode b.bytes = text) ↔ Base64.IsCanonical n text) ∧
    (∀ (n : Nat) (text : String) (cs more : List Char),
      readString "a string" cs = .done text more → ∀ (b : Block n) (rest : List Char),
        (readBase64 n cs = .done b rest ↔ Base64.encode b.bytes = text ∧ more = rest)) ∧
    (∀ (n : Nat) (text : String) (bs more : Bytes),
      Binary.decodeText bs = .ok (text, more) → ∀ (b : Block n) (rest : Bytes),
        (Binary.decodeBase64 n bs = .ok (b, rest) ↔ Base64.encode b.bytes = text ∧ more = rest)) ∧
    Signature.schema.OneText ∧ SealedData.schema.OneText ∧ SealedMessage.schema.OneText ∧
    Envelope.schema.OneText ∧ MailboxEntry.schema.OneText ∧
    (∀ v, Signature.schema.Canonical v ↔ Base64.IsCanonical 64 v.1) ∧
    (∀ v, SealedData.schema.Canonical v ↔ Signature.schema.Canonical v.2.2.2.1) ∧
    (∀ v, SealedMessage.schema.Canonical v ↔ SealedData.schema.Canonical v.1) ∧
    (∀ version v, Envelope.schema.Canonical (version, .inr (.inr (.inr (.inl v))), ()) ↔
      SealedMessage.schema.Canonical v) ∧
    (∀ v, MailboxEntry.schema.Canonical v ↔ SealedMessage.schema.Canonical v.1) := by
  refine ⟨fun n text => Block.exists_encode_iff, fun n text cs more htext b rest => ?_,
    fun n text bs more htext b rest => ?_, .of_numbered rfl, .of_numbered rfl, .of_numbered rfl,
    .of_numbered rfl, .of_numbered rfl, ?_, ?_, ?_, ?_, ?_⟩
  · have hread : readBase64 n cs = .done b rest ↔
        readString "a string" cs = .done (Base64.encode b.bytes) rest :=
      (Schema.AgreesBy.base64 n).read cs b rest
    rw [hread, htext, Reading.done.injEq]
    exact and_congr_left' eq_comm
  · have hread : Binary.decodeBase64 n bs = .ok (b, rest) ↔
        Binary.decodeText bs = .ok (Base64.encode b.bytes, rest) :=
      Schema.decode_loose (s := .base64 n) rfl
    rw [hread, htext, Except.ok.injEq, Prod.mk.injEq]
    exact and_congr_left' eq_comm
  · exact fun v => and_iff_left trivial
  · intro v
    show (True ∧ True) ∧ True ∧ True ∧ Signature.schema.Canonical v.2.2.2.1 ∧ True ↔ _
    simp only [true_and, and_true]
  · exact fun v => and_iff_left ⟨trivial, trivial⟩
  · intro version v
    show True ∧ SealedMessage.schema.Canonical v ∧ True ↔ _
    simp only [true_and, and_true]
  · exact fun v => and_iff_left ⟨⟨trivial, trivial, trivial, trivial⟩, trivial, trivial⟩

/-- One byte and its only text, among some that differ in the last symbol or in the padding; and a
signature in an object with blanks and another member, with two texts. -/
theorem one_text_for_each_signature_sample :
    let zero : Block 1 := ⟨[0], rfl⟩
    let signature (last : Char) : String :=
      String.ofList (List.replicate 85 'A' ++ [last, '=', '='])
    let object (last : Char) : String :=
      "\x7b \"n\": [], \"bytes\": \"" ++ signature last ++ "\" \x7d"
    readBase64 1 "\"AA==\",".toList = .done zero [','] ∧
      (∀ text ∈ ["AB==", "AA=", "AA", "AA===", "A===", "A-==", "AAA=", "AAAA"],
        ¬ ∃ b : Block 1, Base64.encode b.bytes = text) ∧
      Signature.schema.loose.ofJson (object 'w') = .ok (signature 'w', ()) ∧
      (∃ a, Signature.schema.ofJson (object 'w') = .ok a) ∧
      Signature.schema.loose.ofJson (object 'x') = .ok (signature 'x', ()) ∧
      ¬ ∃ a, Signature.schema.ofJson (object 'x') = .ok a := by
  intro zero signature object
  obtain ⟨hforms, hjson, -, hsignature, -, -, -, -, hcanonical, -⟩ := one_text_for_each_signature
  have hone : Base64.encode zero.bytes = "AA==" := by decide +kernel
  let plain : Schema (String × Unit) :=
    .record "Signature" false (.required "bytes" .text .nil) (.refl _)
  have hread (last : Char) (h : plain.read (object last).toList = .done (signature last, ()) []) :
      Signature.schema.loose.ofJson (object last) = .ok (signature last, ()) :=
    parse_eq_ok.mpr ⟨[], h, rfl⟩
  have hobject := hread 'w' (by decide +kernel)
  have hother := hread 'x' (by decide +kernel)
  refine ⟨?_, ?_, hobject, ?_, hother, ?_⟩
  · exact (hjson 1 "AA==" _ [','] (by decide +kernel) zero [',']).mpr ⟨hone, rfl⟩
  · intro text htext
    rw [hforms]
    revert text
    decide +kernel
  · exact (hsignature.json_accepts _ _ hobject).mpr ((hcanonical _).mpr (by decide +kernel))
  · exact fun h => absurd ((hcanonical _).mp ((hsignature.json_accepts _ _ hother).mp h))
      (by decide +kernel)

end Courier
