import Courier.Keys.Symmetric
import Courier.Proofs.Base64
import Mathlib.Tactic.SplitIfs

/-!
# Courier — ciphertexts and their plaintexts

Encryption adds a stream to a text and puts a code behind it. The stream is as long as the text and
is cancelled by adding it again, and the code is a function of what stands before it. Hence a
ciphertext decrypts to the plaintext it was made from, and decryption accepts nothing that
encryption under the same key does not yield.

* `XChaCha20Poly1305.Stream.apply_apply` — the stream cancels itself;
* `XChaCha20Poly1305.decrypt?_eq_some_iff` — what is accepted under a nonce;
* `SymmetricKey.decrypt_eq_ok_iff` — the same with the nonce in the ciphertext;
* `SymmetricKey.decrypt_encrypt` — a plaintext comes back;
* `SymmetricKey.decryption_is_exact` — what is accepted, and how everything else is refused.
-/

namespace Courier

-- ---------------------------------------------------------------------------
-- The stream
-- ---------------------------------------------------------------------------

namespace Bytes

/-- What is combined byte by byte is as long as the shorter one. -/
@[simp] theorem length_xor (xs ys : Bytes) : (xor xs ys).length = min xs.length ys.length :=
  List.length_zipWith

/-- What is added twice is gone. -/
theorem xor_xor {xs ys : Bytes} (h : xs.length ≤ ys.length) : xor (xor xs ys) ys = xs := by
  induction xs generalizing ys with
  | nil => rfl
  | cons x xs ih =>
    cases ys with
    | nil => cases h
    | cons y ys =>
      have hrest : xor (xor xs ys) ys = xs := ih (Nat.le_of_succ_le_succ h)
      have hbyte : x ^^^ y ^^^ y = x := by rw [UInt8.xor_assoc, UInt8.xor_self, UInt8.xor_zero]
      simp only [xor, List.zipWith_cons_cons] at hrest ⊢
      rw [hrest, hbyte]

end Bytes

namespace ChaCha20

/-- Each word gives four bytes. -/
theorem length_bytes (ws : List UInt32) : (bytes ws).length = 4 * ws.length := by
  induction ws with
  | nil => rfl
  | cons w ws ih =>
    rw [bytes, List.flatMap_cons, List.length_append, Bytes.length_littleEndian, List.length_cons,
      ← bytes, ih]
    omega

/-- A block of the key stream has 64 bytes. -/
@[simp] theorem length_block (key nonce : Bytes) (counter : Nat) :
    (block key nonce counter).length = 64 := by
  rw [block, length_bytes]
  rfl

/-- A key stream is as long as it is asked for. -/
@[simp] theorem length_keystream (key nonce : Bytes) (counter n : Nat) :
    (keystream key nonce counter n).length = n := by
  have hblocks : ∀ is : List Nat,
      (is.flatMap fun i => block key nonce (counter + i)).length = 64 * is.length := by
    intro is
    induction is with
    | nil => rfl
    | cons i is ih =>
      rw [List.flatMap_cons, List.length_append, length_block, ih, List.length_cons]
      omega
  rw [keystream, List.length_take, hblocks, List.length_range]
  omega

end ChaCha20

-- ---------------------------------------------------------------------------
-- Under a known nonce
-- ---------------------------------------------------------------------------

namespace XChaCha20Poly1305

namespace Stream

variable (s : Stream)

/-- The key stream changes no length. -/
@[simp] theorem length_apply (text : Bytes) : (s.apply text).length = text.length := by
  rw [apply, Bytes.length_xor, ChaCha20.length_keystream, Nat.min_self]

/-- The stream depends on the length of a text only, so that it cancels itself. -/
@[simp] theorem apply_apply (text : Bytes) : s.apply (s.apply text) = text := by
  have hlength : (s.apply text).length = text.length := s.length_apply text
  have hlong : text.length ≤ (ChaCha20.keystream s.key s.nonce 1 text.length).length :=
    Nat.le_of_eq (ChaCha20.length_keystream _ _ _ _).symm
  rw [apply, hlength, apply, Bytes.xor_xor hlong]

/-- An authentication code has 16 bytes. -/
@[simp] theorem length_code (ciphertext : Bytes) : (s.code ciphertext).length = codeSize :=
  Bytes.length_littleEndian _ _

end Stream

/-- What is sealed is longer by the code, and within the limit of the cipher. -/
theorem length_encrypt? {key : Block 32} {nonce : Block 24} {plaintext sealedText : Bytes}
    (h : encrypt? key nonce plaintext = some sealedText) :
    fits plaintext.length = true ∧ sealedText.length = plaintext.length + codeSize := by
  rw [encrypt?] at h
  split_ifs at h with hfits
  cases h
  refine ⟨hfits, ?_⟩
  rw [List.length_append, Stream.length_apply, Stream.length_code]

/-- A text is accepted just when it is what encryption makes of its plaintext. -/
theorem decrypt?_eq_some_iff {key : Block 32} {nonce : Block 24} {plaintext sealedText : Bytes} :
    decrypt? key nonce sealedText = some plaintext ↔
      encrypt? key nonce plaintext = some sealedText := by
  constructor
  · intro h
    rw [decrypt?] at h
    dsimp only at h
    split_ifs at h with hrefused hcode
    cases h
    rw [not_or, Bool.not_eq_true', Bool.not_eq_false] at hrefused
    obtain ⟨hlong, hfits⟩ := hrefused
    have hsize : (sealedText.take (sealedText.length - codeSize)).length =
        sealedText.length - codeSize := by
      rw [List.length_take]
      omega
    rw [encrypt?, Stream.length_apply, hsize, if_pos hfits]
    dsimp only
    rw [Stream.apply_apply, ← hcode, List.take_append_drop]
  · intro h
    obtain ⟨hfits, hlength⟩ := length_encrypt? h
    rw [encrypt?, if_pos hfits] at h
    cases h
    have hsize : ((stream key nonce).apply plaintext).length = plaintext.length :=
      Stream.length_apply _ _
    rw [decrypt?]
    dsimp only
    rw [hlength, Nat.add_sub_cancel, if_neg (by rw [hfits]; simp), List.drop_left' hsize,
      List.take_left' hsize, if_pos rfl, Stream.apply_apply]

/-- Texts that can be encrypted stay far below the length that a codec can write. -/
theorem lt_of_fits {size : Nat} (h : fits size = true) : size < 1 <<< 38 := by
  have hblocks : size / 64 ≤ (1 <<< 32) - 2 := of_decide_eq_true h
  have h32 : (1 <<< 32 : Nat) = 4294967296 := by decide
  have h38 : (1 <<< 38 : Nat) = 274877906944 := by decide
  omega

end XChaCha20Poly1305

-- ---------------------------------------------------------------------------
-- With the nonce in front
-- ---------------------------------------------------------------------------

/-- A block is cut off the front of what begins with it. -/
theorem Block.fit_append {n : Nat} (b : Block n) (rest : Bytes) : fit n (b.bytes ++ rest) = b := by
  obtain ⟨bytes, hbytes⟩ := b
  rw [fit, mk.injEq, List.append_assoc, List.take_left' hbytes]

namespace SymmetricKey

open XChaCha20Poly1305

/-- `encrypt` puts the byte of the cipher and the nonce in front. -/
theorem encrypt_eq_ok {key : SymmetricKey} {nonce : Block 24} {plaintext ciphertext : Bytes}
    (h : key.encrypt nonce plaintext = .ok ciphertext) :
    ∃ sealedText, encrypt? key.bytes nonce plaintext = some sealedText ∧
      ciphertext = cipherTag :: nonce.bytes ++ sealedText := by
  rw [encrypt] at h
  split at h
  next sealedText hseal =>
    cases h
    exact ⟨sealedText, hseal, rfl⟩
  next => cases h

/-- `encrypt` refuses nothing but a plaintext that is too long for the cipher. -/
theorem exists_encrypt (key : SymmetricKey) (nonce : Block 24) {plaintext : Bytes}
    (h : fits plaintext.length = true) : ∃ ciphertext, key.encrypt nonce plaintext = .ok ciphertext := by
  rw [encrypt, encrypt?, if_pos h]
  exact ⟨_, rfl⟩

/-- A plaintext that is encrypted is short, and its ciphertext is longer by a fixed number of
bytes. -/
theorem length_encrypt {key : SymmetricKey} {nonce : Block 24} {plaintext ciphertext : Bytes}
    (h : key.encrypt nonce plaintext = .ok ciphertext) :
    plaintext.length < 1 <<< 38 ∧
      ciphertext.length = plaintext.length + (1 + nonceSize + codeSize) := by
  obtain ⟨sealedText, hseal, rfl⟩ := encrypt_eq_ok h
  obtain ⟨hfits, hlength⟩ := length_encrypt? hseal
  refine ⟨lt_of_fits hfits, ?_⟩
  rw [List.cons_append, List.length_cons, List.length_append, nonce.length_bytes, hlength]
  show 24 + (plaintext.length + 16) + 1 = plaintext.length + (1 + 24 + 16)
  omega

/-- **A ciphertext is accepted just when encryption of its plaintext yields it**, under the nonce
that stands in it. -/
theorem decrypt_eq_ok_iff {key : SymmetricKey} {ciphertext plaintext : Bytes} :
    key.decrypt ciphertext = .ok plaintext ↔
      ∃ nonce, key.encrypt nonce plaintext = .ok ciphertext := by
  constructor
  · intro h
    unfold decrypt at h
    split at h
    next => cases h
    next tag rest =>
      split_ifs at h with htag hshort
      dsimp only at h
      split at h
      next found hopen =>
        cases h
        rw [Decidable.not_not] at htag
        have hnonce : (Block.fit 24 rest).bytes = rest.take nonceSize := by
          have hlong : nonceSize ≤ rest.length := by omega
          exact List.take_append_of_le_length hlong
        refine ⟨Block.fit 24 rest, ?_⟩
        rw [encrypt, decrypt?_eq_some_iff.mp hopen]
        dsimp only
        rw [hnonce, htag, List.cons_append, List.take_append_drop]
      next => cases h
  · rintro ⟨nonce, h⟩
    obtain ⟨sealedText, hseal, rfl⟩ := encrypt_eq_ok h
    have hdrop : (nonce.bytes ++ sealedText).drop nonceSize = sealedText :=
      List.drop_left' nonce.length_bytes
    have hlong : ¬ (nonce.bytes ++ sealedText).length < nonceSize + codeSize := by
      rw [List.length_append, nonce.length_bytes, (length_encrypt? hseal).2]
      show ¬ 24 + (plaintext.length + 16) < 24 + 16
      omega
    rw [List.cons_append, decrypt, if_neg (not_not_intro rfl), if_neg hlong]
    dsimp only
    rw [Block.fit_append, hdrop, decrypt?_eq_some_iff.mpr hseal]

/-- `decrypt` undoes `encrypt`. -/
theorem decrypt_encrypt {key : SymmetricKey} {nonce : Block 24} {plaintext ciphertext : Bytes}
    (h : key.encrypt nonce plaintext = .ok ciphertext) : key.decrypt ciphertext = .ok plaintext :=
  decrypt_eq_ok_iff.mpr ⟨nonce, h⟩

-- ---------------------------------------------------------------------------
-- What is accepted, and how the rest is refused
-- ---------------------------------------------------------------------------

/-- A ciphertext of a plaintext: the byte of the cipher, a nonce, and the plaintext sealed under the
key and that nonce. -/
def Seals (key : SymmetricKey) (plaintext ciphertext : Bytes) : Prop :=
  ∃ (nonce : Block 24) (sealedText : Bytes),
    encrypt? key.bytes nonce plaintext = some sealedText ∧
      ciphertext = 0x02 :: (nonce.bytes ++ sealedText)

/-- What ends before a nonce and a code: nothing at all, or the byte of the cipher with fewer than
40 bytes behind it. -/
def TooShort (ciphertext : Bytes) : Prop :=
  ciphertext = [] ∨ ∃ rest, ciphertext = 0x02 :: rest ∧ rest.length < 40

/-- A ciphertext holds a plaintext if some nonce leads from one to the other. -/
theorem seals_iff {key : SymmetricKey} {plaintext ciphertext : Bytes} :
    key.Seals plaintext ciphertext ↔ ∃ nonce, key.encrypt nonce plaintext = .ok ciphertext := by
  constructor
  · rintro ⟨nonce, sealedText, hseal, rfl⟩
    exact ⟨nonce, by rw [encrypt, hseal]; rfl⟩
  · rintro ⟨nonce, h⟩
    obtain ⟨sealedText, hseal, rfl⟩ := encrypt_eq_ok h
    exact ⟨nonce, sealedText, hseal, rfl⟩

/-- A text that fits is encrypted under every nonce. -/
theorem encrypt_of_fits {plaintext : Bytes} (key : SymmetricKey) (nonce : Block 24)
    (h : fits plaintext.length = true) :
    ∃ ciphertext, key.encrypt nonce plaintext = .ok ciphertext := by
  rw [encrypt, encrypt?, if_pos h]
  exact ⟨_, rfl⟩

/-- The nonce stands behind the first byte. -/
theorem nonce_of_encrypt {key : SymmetricKey} {nonce : Block 24} {plaintext ciphertext : Bytes}
    (h : key.encrypt nonce plaintext = .ok ciphertext) :
    Block.fit 24 (ciphertext.drop 1) = nonce := by
  obtain ⟨sealedText, -, rfl⟩ := encrypt_eq_ok h
  exact Block.fit_append nonce sealedText

/-- Decryption fails in two ways, and the length tells which. -/
theorem decrypt_eq_error {key : SymmetricKey} {ciphertext : Bytes} {e : CryptoError}
    (h : key.decrypt ciphertext = .error e) :
    TooShort ciphertext ∧ e = .ciphertextTooShort ∨
      ¬ TooShort ciphertext ∧ e = .decryptionFailed := by
  cases ciphertext with
  | nil =>
    cases h
    exact .inl ⟨.inl rfl, rfl⟩
  | cons tag rest =>
    rw [decrypt] at h
    split_ifs at h with htag hshort
    · -- Another cipher is refused at any length.
      cases h
      refine .inr ⟨?_, rfl⟩
      rintro (hnil | ⟨rest', heq, -⟩)
      · cases hnil
      · cases heq
        exact htag rfl
    · cases h
      rw [Decidable.not_not] at htag
      exact .inl ⟨.inr ⟨rest, by rw [htag]; rfl, hshort⟩, rfl⟩
    · have hlong : ¬ TooShort (tag :: rest) := by
        rintro (hnil | ⟨rest', heq, hshort'⟩)
        · cases hnil
        · cases heq
          exact hshort hshort'
      dsimp only at h
      split at h
      next => cases h
      next =>
        cases h
        exact .inr ⟨hlong, rfl⟩

/-- **Decryption accepts exactly the encryptions.** A byte string decrypts to a plaintext just when
it is one of its ciphertexts: every plaintext that fits comes back under every nonce, what is
accepted is longer than its plaintext by 41 bytes, and is what encryption yields again under the
nonce in it. All other byte strings are refused, for being too short or for good. -/
theorem decryption_is_exact (key : SymmetricKey) (ciphertext : Bytes) :
    (∀ plaintext, key.decrypt ciphertext = .ok plaintext ↔ key.Seals plaintext ciphertext) ∧
      (∀ (nonce : Block 24) (plaintext : Bytes), fits plaintext.length = true →
        ∃ yielded, key.encrypt nonce plaintext = .ok yielded ∧
          key.decrypt yielded = .ok plaintext) ∧
      (∀ plaintext, key.decrypt ciphertext = .ok plaintext →
        ciphertext.length = plaintext.length + 41 ∧
          key.encrypt (Block.fit 24 (ciphertext.drop 1)) plaintext = .ok ciphertext) ∧
      ((∀ plaintext, ¬ key.Seals plaintext ciphertext) →
        (TooShort ciphertext → key.decrypt ciphertext = .error .ciphertextTooShort) ∧
          (¬ TooShort ciphertext → key.decrypt ciphertext = .error .decryptionFailed)) := by
  have hexact : ∀ plaintext,
      key.decrypt ciphertext = .ok plaintext ↔ key.Seals plaintext ciphertext :=
    fun _ => decrypt_eq_ok_iff.trans seals_iff.symm
  refine ⟨hexact, fun nonce plaintext hfits => ?_, fun plaintext h => ?_, fun hother => ?_⟩
  · obtain ⟨yielded, h⟩ := encrypt_of_fits key nonce hfits
    exact ⟨yielded, h, decrypt_encrypt h⟩
  · obtain ⟨nonce, hmade⟩ := decrypt_eq_ok_iff.mp h
    exact ⟨(length_encrypt hmade).2, by rw [nonce_of_encrypt hmade]; exact hmade⟩
  · cases hresult : key.decrypt ciphertext with
    | ok plaintext => exact absurd ((hexact plaintext).mp hresult) (hother plaintext)
    | error e =>
      obtain ⟨hshort, rfl⟩ | ⟨hlong, rfl⟩ := decrypt_eq_error hresult
      · exact ⟨fun _ => rfl, fun hlong => absurd hshort hlong⟩
      · exact ⟨fun hshort => absurd hshort hlong, fun _ => rfl⟩

/-- A text of three bytes comes back from 44, its ciphertext cut down to three bytes is too short, and
a byte of another cipher is refused for good. -/
theorem decryption_is_exact_sample :
    let key : SymmetricKey := ⟨Block.zero 32⟩
    (∃ yielded, key.encrypt (Block.zero 24) [1, 2, 3] = .ok yielded ∧
        key.decrypt yielded = .ok [1, 2, 3] ∧ yielded.length = 44) ∧
      key.decrypt [2, 0, 0] = .error .ciphertextTooShort ∧
      key.decrypt [3] = .error .decryptionFailed := by
  intro key
  have hother : ∀ ciphertext : Bytes, ciphertext.length < 41 →
      ∀ plaintext, ¬ key.Seals plaintext ciphertext := by
    intro ciphertext hshort plaintext hseals
    obtain ⟨hexact, -, haccepted, -⟩ := decryption_is_exact key ciphertext
    have hlength := (haccepted plaintext ((hexact plaintext).mpr hseals)).1
    omega
  have hcipher : ¬ TooShort [3] := by
    rintro (hnil | ⟨rest, heq, -⟩)
    · cases hnil
    · exact absurd (List.cons.inj heq).1 (by decide)
  obtain ⟨yielded, hmade, hopen⟩ :=
    (decryption_is_exact key []).2.1 (Block.zero 24) [1, 2, 3] (by decide)
  have hlength : yielded.length = 44 := ((decryption_is_exact key yielded).2.2.1 _ hopen).1
  refine ⟨⟨yielded, hmade, hopen, hlength⟩, ?_, ?_⟩
  · exact ((decryption_is_exact key _).2.2.2 (hother _ (by decide))).1
      (.inr ⟨[0, 0], rfl, by decide⟩)
  · exact ((decryption_is_exact key _).2.2.2 (hother _ (by decide))).2 hcipher

end SymmetricKey

end Courier
