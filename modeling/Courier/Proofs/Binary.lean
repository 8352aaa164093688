import Courier.Bytes.Lemmas
import Courier.Proofs.Base64
import Courier.Schema.Binary

/-!
# Courier — the binary form reads back, and only the binary form reads

Reading a value off the front of some data inverts writing it: a value that was written is read back
whatever follows it, and data that reads as a value begins with what would be written for it. Both
are one induction on the schema, so they hold of every transmitted type at once.

Two conditions come from the widths of the written numbers:

* `Schema.Fits` — every text and byte string in a value is so short that its length can be written;
* `Schema.numbered` — every choice has so few alternatives that their numbers can be.

Main results:

* `Schema.decode_encode` — a value that fits is read back from its form;
* `Schema.eq_encode_of_decode` — data that reads as a value begins with its form, and it fits;
* `Schema.decode_eq_ok_iff` — both in one;
* `Schema.fits_of_encodedSize_lt` — a value fits when its whole form is short enough.
-/

namespace Courier

namespace Binary

/-! ## Numbers and byte strings -/

/-- Bytes at the front are taken off, and what follows is left. -/
theorem takeBytes_append {n : Nat} {front : Bytes} (h : front.length = n) (rest : Bytes) :
    takeBytes n (front ++ rest) = .ok (front, rest) := by
  subst h
  simp [takeBytes]

/-- What is taken off stood at the front. -/
theorem takeBytes_eq_ok {n : Nat} {bs front rest : Bytes} (h : takeBytes n bs = .ok (front, rest)) :
    front.length = n ∧ bs = front ++ rest := by
  rw [takeBytes] at h
  split at h
  next hlen =>
    cases h
    exact ⟨hlen, (List.take_append_drop n bs).symm⟩
  next => cases h

/-- A number is read back from its bytes. -/
theorem decodeNat_append {k n : Nat} (h : n < 256 ^ k) (rest : Bytes) :
    decodeNat k (Bytes.littleEndian k n ++ rest) = .ok (n, rest) := by
  have hn := Bytes.ofLittleEndian_littleEndian k n
  rw [Nat.mod_eq_of_lt h] at hn
  simp only [decodeNat, takeBytes_append (Bytes.length_littleEndian k n), ok_bind, hn]
  rfl

/-- What is read as a number are its bytes, and no others. -/
theorem decodeNat_eq_ok {k n : Nat} {bs rest : Bytes} (h : decodeNat k bs = .ok (n, rest)) :
    n < 256 ^ k ∧ bs = Bytes.littleEndian k n ++ rest := by
  obtain ⟨⟨front, more⟩, htake, h⟩ := bind_inv h
  cases h
  obtain ⟨hlen, rfl⟩ := takeBytes_eq_ok htake
  subst hlen
  exact ⟨Bytes.ofLittleEndian_lt front, by rw [Bytes.littleEndian_ofLittleEndian]⟩

theorem pow_eight : 256 ^ 8 = UInt64.size := by decide

theorem pow_four : 256 ^ 4 = UInt32.size := by decide

/-- A byte string is read back, if its length can be written. -/
theorem decodeOctets_append {bs : Bytes} (h : bs.length < UInt64.size) (rest : Bytes) :
    decodeOctets (encodeOctets bs ++ rest) = .ok (bs, rest) := by
  rw [← pow_eight] at h
  rw [decodeOctets, encodeOctets, List.append_assoc, decodeNat_append h]
  exact takeBytes_append rfl rest

/-- What is read as a byte string is its form. -/
theorem decodeOctets_eq_ok {bs out rest : Bytes} (h : decodeOctets bs = .ok (out, rest)) :
    out.length < UInt64.size ∧ bs = encodeOctets out ++ rest := by
  obtain ⟨⟨n, more⟩, hnat, htake⟩ := bind_inv h
  obtain ⟨hlt, rfl⟩ := decodeNat_eq_ok hnat
  obtain ⟨hlen, rfl⟩ := takeBytes_eq_ok htake
  subst hlen
  rw [pow_eight] at hlt
  exact ⟨hlt, by rw [encodeOctets, List.append_assoc]⟩

/-- A text is read back, if its length can be written. -/
theorem decodeText_append {s : String} (h : (Bytes.ofText s).length < UInt64.size)
    (rest : Bytes) : decodeText (encodeText s ++ rest) = .ok (s, rest) := by
  rw [← pow_eight] at h
  rw [decodeText, encodeText, encodeOctets, List.append_assoc, decodeNat_append h, ok_bind]
  simp only [takeBytes_append rfl, Utf8.decode_ofText]

/-- What is read as a text is its form. -/
theorem decodeText_eq_ok {bs rest : Bytes} {s : String} (h : decodeText bs = .ok (s, rest)) :
    (Bytes.ofText s).length < UInt64.size ∧ bs = encodeText s ++ rest := by
  obtain ⟨⟨n, more⟩, hnat, hmatch⟩ := bind_inv h
  obtain ⟨hlt, rfl⟩ := decodeNat_eq_ok hnat
  dsimp only at hmatch
  split at hmatch
  -- a length beyond the end of the data is refused, and so is what is not UTF-8
  next => cases hmatch
  next front tail htake =>
    split at hmatch
    next t hutf =>
      cases hmatch
      obtain ⟨hlen, rfl⟩ := takeBytes_eq_ok htake
      have hbytes := Utf8.ofText_of_decode hutf
      subst hlen
      rw [pow_eight] at hlt
      rw [encodeText, encodeOctets, hbytes]
      exact ⟨hlt, by rw [List.append_assoc]⟩
    next => cases hmatch

/-- A block is read back from its bytes, which have no length in front. -/
theorem decodeBlock_append {n : Nat} (b : Block n) (rest : Bytes) :
    decodeBlock n (b.bytes ++ rest) = .ok (b, rest) := by
  have hlen := b.length_bytes
  have htake : (b.bytes ++ rest).take n = b.bytes := by
    rw [List.take_append_of_le_length (by omega), List.take_of_length_le (by omega)]
  have hdrop : (b.bytes ++ rest).drop n = rest := List.drop_left' hlen
  simp only [decodeBlock, htake, hdrop, hlen, dite_true]

/-- What is read as a block are its bytes. -/
theorem decodeBlock_eq_ok {n : Nat} {bs rest : Bytes} {b : Block n}
    (h : decodeBlock n bs = .ok (b, rest)) : bs = b.bytes ++ rest := by
  simp only [decodeBlock] at h
  split at h
  next =>
    cases h
    exact (List.take_append_drop n bs).symm
  next => cases h

/-- A block that is written as a base64 text is read back. -/
theorem decodeBase64_append {n : Nat} (b : Block n)
    (h : (Base64.encodeBytes b.bytes).length < UInt64.size) (rest : Bytes) :
    decodeBase64 n (encodeText (Base64.encode b.bytes) ++ rest) = .ok (b, rest) := by
  rw [← Base64.ofText_encode] at h
  have hdec : Base64.decode (Base64.encode b.bytes) = .ok b.bytes :=
    Base64.decode_eq_ok_iff.mpr rfl
  rw [decodeBase64, decodeText_append h, ok_bind]
  simp only [hdec, b.length_bytes, dite_true]

/-- What is read as such a text is the one canonical form. -/
theorem decodeBase64_eq_ok {n : Nat} {bs rest : Bytes} {b : Block n}
    (h : decodeBase64 n bs = .ok (b, rest)) :
    (Base64.encodeBytes b.bytes).length < UInt64.size ∧
      bs = encodeText (Base64.encode b.bytes) ++ rest := by
  obtain ⟨⟨s, more⟩, htext, hmatch⟩ := bind_inv h
  obtain ⟨hlt, rfl⟩ := decodeText_eq_ok htext
  dsimp only at hmatch
  split at hmatch
  next => cases hmatch
  next bytes hdec =>
    split at hmatch
    next hlen =>
      cases hmatch
      obtain rfl := Base64.decode_eq_ok_iff.mp hdec
      rw [Base64.ofText_encode] at hlt
      exact ⟨hlt, rfl⟩
    next => cases hmatch

end Binary

open Binary

/-! ## What can be written -/

mutual

/-- Every text and byte string in a value is shorter than 2 ^ 64 bytes. -/
def Schema.Fits : {α : Type} → Schema α → α → Prop
  | _, .word8, _ => True
  | _, .word16, _ => True
  | _, .word64 _, _ => True
  | _, .flag, _ => True
  | _, .text, s => (Bytes.ofText s).length < UInt64.size
  | _, .octets, bs => bs.length < UInt64.size
  | _, .block _, _ => True
  | _, .base64 _, b => (Base64.encodeBytes b.bytes).length < UInt64.size
  | _, .optional _, none => True
  | _, .optional s, some a => s.Fits a
  | _, .record _ _ fields view, a => fields.Fits (view.forth a)
  | _, .choice cases view, a => cases.Fits (view.forth a)
  | _, .label _ _, _ => True

def Fields.Fits : {β : Type} → Fields β → β → Prop
  | _, .nil, _ => True
  | _, .cons _ s _ rest, (a, b) => s.Fits a ∧ rest.Fits b

def Cases.Fits : {β : Type} → Cases β → β → Prop
  | _, .nil, e => nomatch e
  | _, .cons _ s _, .inl a => s.Fits a
  | _, .cons _ _ rest, .inr b => rest.Fits b

end

mutual

/-- Every choice has at most 2 ^ 32 alternatives, and every label as many names. -/
def Schema.numbered : {α : Type} → Schema α → Bool
  | _, .word8 => true
  | _, .word16 => true
  | _, .word64 _ => true
  | _, .flag => true
  | _, .text => true
  | _, .octets => true
  | _, .block _ => true
  | _, .base64 _ => true
  | _, .optional s => s.numbered
  | _, .record _ _ fields _ => fields.numbered
  | _, .choice cases _ => cases.names.length ≤ UInt32.size && cases.numbered
  | _, .label names _ => names.length ≤ UInt32.size

def Fields.numbered : {β : Type} → Fields β → Bool
  | _, .nil => true
  | _, .cons _ s _ rest => s.numbered && rest.numbered

def Cases.numbered : {β : Type} → Cases β → Bool
  | _, .nil => true
  | _, .cons _ s rest => s.numbered && rest.numbered

end

/-! ## What is written reads back -/

mutual

/-- A value is read back from its form, and what follows is left. -/
theorem Schema.decode_encode : {α : Type} → (s : Schema α) → s.numbered = true → (a : α) →
    s.Fits a → (rest : Bytes) → s.decode (s.encode a ++ rest) = .ok (a, rest)
  | _, .word8, _, n, _, rest => by simp [Schema.encode, Schema.decode, decodeByte]
  | _, .word16, _, n, _, rest => by
    have hn : n.toNat < 256 ^ 2 := n.toNat_lt
    simp only [Schema.encode, Schema.decode, decodeNat_append hn, ok_bind, UInt16.ofNat_toNat]
    rfl
  | _, .word64 _, _, n, _, rest => by
    have hn : n.toNat < 256 ^ 8 := n.toNat_lt
    simp only [Schema.encode, Schema.decode, decodeNat_append hn, ok_bind, UInt64.ofNat_toNat]
    rfl
  | _, .flag, _, b, _, rest => by cases b <;> rfl
  | _, .text, _, s, h, rest => by
    rw [Schema.Fits] at h
    rw [Schema.encode, Schema.decode, decodeText_append h]
  | _, .octets, _, bs, h, rest => by
    rw [Schema.Fits] at h
    rw [Schema.encode, Schema.decode, decodeOctets_append h]
  | _, .block n, _, b, _, rest => by rw [Schema.encode, Schema.decode, decodeBlock_append]
  | _, .base64 n, _, b, h, rest => by
    rw [Schema.Fits] at h
    rw [Schema.encode, Schema.decode, decodeBase64_append b h]
  | _, .optional s, _, none, _, rest => by
    simp only [Schema.encode, Schema.decode, List.singleton_append, decodeByte, ok_bind]
    rfl
  | _, .optional s, hs, some a, h, rest => by
    rw [Schema.Fits] at h
    rw [Schema.numbered] at hs
    have ha := s.decode_encode hs a h rest
    simp only [Schema.encode, Schema.decode, List.cons_append, decodeByte, ok_bind, ha]
    rfl
  | _, .record _ _ fields view, hs, a, h, rest => by
    rw [Schema.Fits] at h
    rw [Schema.numbered] at hs
    have hb := fields.decode_encode hs (view.forth a) h rest
    simp only [Schema.encode, Schema.decode, hb, ok_bind, view.back_forth]
    rfl
  | _, .choice cases view, hs, a, h, rest => by
    rw [Schema.Fits] at h
    rw [Schema.numbered, Bool.and_eq_true, decide_eq_true_eq] at hs
    -- the number is below that of the alternatives, so four bytes hold it
    obtain ⟨n, body, hn, hform, hread⟩ := cases.decode_encode hs.2 (view.forth a) h 0
    have hlt : n < 256 ^ 4 := by rw [pow_four]; omega
    rw [Nat.zero_add] at hform
    simp only [Schema.encode, Schema.decode, hform, List.append_assoc, decodeNat_append hlt,
      ok_bind, hread, view.back_forth]
    rfl
  | _, .label names view, hs, a, _, rest => by
    rw [Schema.numbered, decide_eq_true_eq] at hs
    have hval := (view.forth a).isLt
    have hlt : (view.forth a).val < 256 ^ 4 := by rw [pow_four]; omega
    simp only [Schema.encode, Schema.decode, decodeNat_append hlt, ok_bind, hval, dite_true,
      Fin.eta, view.back_forth]
    rfl

/-- The fields of a record are read back one after the other. -/
theorem Fields.decode_encode : {β : Type} → (fields : Fields β) → fields.numbered = true → (b : β) →
    fields.Fits b → (rest : Bytes) → fields.decode (fields.encode b ++ rest) = .ok (b, rest)
  | _, .nil, _, (), _, rest => rfl
  | _, .cons _ s _ more, hs, (a, b), h, rest => by
    rw [Fields.Fits] at h
    rw [Fields.numbered, Bool.and_eq_true] at hs
    have ha := s.decode_encode hs.1 a h.1 (more.encode b ++ rest)
    have hb := more.decode_encode hs.2 b h.2 rest
    simp only [Fields.encode, Fields.decode, List.append_assoc, ha, ok_bind, hb]
    rfl

/-- An alternative is read back by its number among these. -/
theorem Cases.decode_encode : {β : Type} → (cases : Cases β) → cases.numbered = true → (b : β) →
    cases.Fits b → (first : Nat) → ∃ n body, n < cases.names.length ∧
      cases.encode first b = Bytes.littleEndian 4 (first + n) ++ body ∧
      ∀ index count rest, cases.decode n index count (body ++ rest) = .ok (b, rest)
  | _, .nil, _, e, _, _ => nomatch e
  | _, .cons _ s more, hs, .inl a, h, first => by
    rw [Cases.Fits] at h
    rw [Cases.numbered, Bool.and_eq_true] at hs
    -- the first of these alternatives has the first number
    refine ⟨0, s.encode a, by simp [Cases.names], by rw [Cases.encode, Nat.add_zero], ?_⟩
    intro index count rest
    have ha := s.decode_encode hs.1 a h rest
    simp only [Cases.decode, ha, ok_bind]
    rfl
  | _, .cons _ s more, hs, .inr b, h, first => by
    rw [Cases.Fits] at h
    rw [Cases.numbered, Bool.and_eq_true] at hs
    -- the others are numbered from the next one on
    obtain ⟨n, body, hn, hform, hread⟩ := more.decode_encode hs.2 b h (first + 1)
    refine ⟨n + 1, body, by simpa [Cases.names] using hn, ?_, ?_⟩
    · rw [Cases.encode, hform, Nat.add_assoc, Nat.add_comm 1 n]
    · intro index count rest
      simp only [Cases.decode, hread, ok_bind]
      rfl

end

/-! ## What reads was written -/

mutual

/-- Data that reads as a value begins with its form, and the value fits. -/
theorem Schema.eq_encode_of_decode : {α : Type} → (s : Schema α) → (bs : Bytes) → (a : α) →
    (rest : Bytes) → s.decode bs = .ok (a, rest) → s.Fits a ∧ bs = s.encode a ++ rest
  | _, .word8, bs, n, rest, h => by
    rw [Schema.decode] at h
    cases bs with
    | nil => cases h
    | cons b bs => cases h; exact ⟨trivial, rfl⟩
  | _, .word16, bs, n, rest, h => by
    rw [Schema.decode] at h
    obtain ⟨⟨m, more⟩, hnat, h⟩ := bind_inv h
    cases h
    obtain ⟨hlt, rfl⟩ := decodeNat_eq_ok hnat
    have hm : (UInt16.ofNat m).toNat = m := by simp; omega
    exact ⟨trivial, by rw [Schema.encode, hm]⟩
  | _, .word64 _, bs, n, rest, h => by
    rw [Schema.decode] at h
    obtain ⟨⟨m, more⟩, hnat, h⟩ := bind_inv h
    cases h
    obtain ⟨hlt, rfl⟩ := decodeNat_eq_ok hnat
    have hm : (UInt64.ofNat m).toNat = m := by simp; omega
    exact ⟨trivial, by rw [Schema.encode, hm]⟩
  | _, .flag, bs, b, rest, h => by
    cases bs with
    | nil => cases h
    | cons x bs =>
      -- one byte is read, and only two of its values are accepted
      simp only [Schema.decode, decodeByte, ok_bind] at h
      split at h
      next hx => cases h; exact ⟨trivial, by rw [hx]; rfl⟩
      next =>
        split at h
        next hx => cases h; exact ⟨trivial, by rw [hx]; rfl⟩
        next => cases h
  | _, .text, bs, s, rest, h => by
    rw [Schema.decode] at h
    exact decodeText_eq_ok h
  | _, .octets, bs, out, rest, h => by
    rw [Schema.decode] at h
    exact decodeOctets_eq_ok h
  | _, .block n, bs, b, rest, h => by
    rw [Schema.decode] at h
    exact ⟨trivial, decodeBlock_eq_ok h⟩
  | _, .base64 n, bs, b, rest, h => by
    rw [Schema.decode] at h
    exact decodeBase64_eq_ok h
  | _, .optional s, bs, a, rest, h => by
    cases bs with
    | nil => cases h
    | cons x bs =>
      simp only [Schema.decode, decodeByte, ok_bind] at h
      split at h
      next hx => cases h; exact ⟨trivial, by rw [hx]; rfl⟩
      next =>
        split at h
        next hx =>
          obtain ⟨⟨b, more⟩, hb, h⟩ := bind_inv h
          cases h
          obtain ⟨hfits, rfl⟩ := s.eq_encode_of_decode bs b more hb
          exact ⟨hfits, by rw [hx]; rfl⟩
        next => cases h
  | _, .record _ _ fields view, bs, a, rest, h => by
    rw [Schema.decode] at h
    obtain ⟨⟨b, more⟩, hb, h⟩ := bind_inv h
    cases h
    -- the view loses nothing, so that the fields are those that were read
    rw [Schema.Fits, Schema.encode, view.forth_back]
    exact fields.eq_encode_of_decode bs b rest hb
  | _, .choice cases view, bs, a, rest, h => by
    rw [Schema.decode] at h
    obtain ⟨⟨index, body⟩, hnat, h⟩ := bind_inv h
    obtain ⟨⟨b, more⟩, hb, h⟩ := bind_inv h
    cases h
    obtain ⟨-, rfl⟩ := decodeNat_eq_ok hnat
    -- the number that was read is the one under which the alternative is written
    obtain ⟨hfits, hform⟩ := cases.eq_encode_of_decode index _ _ body b rest hb 0
    rw [Schema.Fits, Schema.encode, view.forth_back, ← hform, Nat.zero_add]
    exact ⟨hfits, rfl⟩
  | _, .label names view, bs, a, rest, h => by
    rw [Schema.decode] at h
    obtain ⟨⟨index, more⟩, hnat, hmatch⟩ := bind_inv h
    obtain ⟨-, rfl⟩ := decodeNat_eq_ok hnat
    dsimp only at hmatch
    split at hmatch
    next hlt => cases hmatch; exact ⟨trivial, by rw [Schema.encode, view.forth_back]⟩
    next => cases hmatch

/-- What is read as the fields of a record is their form. -/
theorem Fields.eq_encode_of_decode : {β : Type} → (fields : Fields β) → (bs : Bytes) → (b : β) →
    (rest : Bytes) → fields.decode bs = .ok (b, rest) → fields.Fits b ∧ bs = fields.encode b ++ rest
  | _, .nil, bs, (), rest, h => by
    cases h
    exact ⟨trivial, rfl⟩
  | _, .cons _ s _ more, bs, b, rest, h => by
    rw [Fields.decode] at h
    obtain ⟨⟨a, middle⟩, ha, h⟩ := bind_inv h
    obtain ⟨⟨b', last⟩, hb, h⟩ := bind_inv h
    cases h
    obtain ⟨hfa, rfl⟩ := s.eq_encode_of_decode bs a middle ha
    obtain ⟨hfb, rfl⟩ := more.eq_encode_of_decode middle b' rest hb
    exact ⟨⟨hfa, hfb⟩, by rw [Fields.encode, List.append_assoc]⟩

/-- The number under which an alternative was read, counted from any first one, and what was read
make up its form. -/
theorem Cases.eq_encode_of_decode : {β : Type} → (cases : Cases β) → (n index count : Nat) →
    (bs : Bytes) → (b : β) → (rest : Bytes) → cases.decode n index count bs = .ok (b, rest) →
    (first : Nat) → cases.Fits b ∧
      Bytes.littleEndian 4 (first + n) ++ bs = cases.encode first b ++ rest
  | _, .nil, _, _, _, _, e, _, _, _ => nomatch e
  | _, .cons _ s _, 0, index, count, bs, b, rest, h, first => by
    rw [Cases.decode] at h
    obtain ⟨⟨a, more⟩, ha, h⟩ := bind_inv h
    cases h
    obtain ⟨hfits, rfl⟩ := s.eq_encode_of_decode bs a rest ha
    exact ⟨hfits, by rw [Cases.encode, Nat.add_zero, List.append_assoc]⟩
  | _, .cons _ _ more, n + 1, index, count, bs, b, rest, h, first => by
    rw [Cases.decode] at h
    obtain ⟨⟨b', last⟩, hb, h⟩ := bind_inv h
    cases h
    obtain ⟨hfits, hform⟩ := more.eq_encode_of_decode n index count bs b' rest hb (first + 1)
    -- `n` behind the next number is `n + 1` behind the first one
    rw [Nat.add_assoc, Nat.add_comm 1 n] at hform
    exact ⟨hfits, hform⟩

end

/-- Reading yields a value and what follows it just when the data is the form of a value that fits,
with that behind it. -/
theorem Schema.decode_eq_ok_iff {α : Type} {s : Schema α} (hs : s.numbered = true) {bs rest : Bytes}
    {a : α} : s.decode bs = .ok (a, rest) ↔ s.Fits a ∧ bs = s.encode a ++ rest := by
  constructor
  · exact s.eq_encode_of_decode bs a rest
  · rintro ⟨hfits, rfl⟩
    exact s.decode_encode hs a hfits rest

/-! ## Values that fit -/

mutual

/-- A value fits when its whole form is short enough. -/
theorem Schema.fits_of_encodedSize_lt : {α : Type} → (s : Schema α) → (a : α) →
    (s.encode a).length < UInt64.size → s.Fits a
  | _, .word8, _, _ => trivial
  | _, .word16, _, _ => trivial
  | _, .word64 _, _, _ => trivial
  | _, .flag, _, _ => trivial
  | _, .text, s, h => by
    rw [Schema.encode, encodeText, encodeOctets, List.length_append] at h
    rw [Schema.Fits]
    omega
  | _, .octets, bs, h => by
    rw [Schema.encode, encodeOctets, List.length_append] at h
    rw [Schema.Fits]
    omega
  | _, .block _, _, _ => trivial
  | _, .base64 _, b, h => by
    rw [Schema.encode, encodeText, encodeOctets, List.length_append, Base64.ofText_encode] at h
    rw [Schema.Fits]
    omega
  | _, .optional _, none, _ => trivial
  | _, .optional s, some a, h => by
    rw [Schema.encode, List.length_cons] at h
    exact s.fits_of_encodedSize_lt a (by omega)
  | _, .record _ _ fields view, a, h => fields.fits_of_encodedSize_lt (view.forth a) h
  | _, .choice cases view, a, h => cases.fits_of_encodedSize_lt (view.forth a) 0 h
  | _, .label _ _, _, _ => trivial

/-- In a form that is short enough all lengths can be written. -/
theorem Fields.fits_of_encodedSize_lt : {β : Type} → (fields : Fields β) → (b : β) →
    (fields.encode b).length < UInt64.size → fields.Fits b
  | _, .nil, _, _ => trivial
  | _, .cons _ s _ more, (a, b), h => by
    rw [Fields.encode, List.length_append] at h
    exact ⟨s.fits_of_encodedSize_lt a (by omega), more.fits_of_encodedSize_lt b (by omega)⟩

theorem Cases.fits_of_encodedSize_lt : {β : Type} → (cases : Cases β) → (b : β) →
    (first : Nat) → (cases.encode first b).length < UInt64.size → cases.Fits b
  | _, .nil, e, _, _ => nomatch e
  | _, .cons _ s _, .inl a, first, h => by
    rw [Cases.encode, List.length_append] at h
    exact s.fits_of_encodedSize_lt a (by omega)
  | _, .cons _ _ more, .inr b, first, h => more.fits_of_encodedSize_lt b (first + 1) h

end

end Courier
