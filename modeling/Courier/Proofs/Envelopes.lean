import Courier.Envelope.Basic
import Courier.Proofs.Binary
import Mathlib.Logic.ExistsUnique

/-!
# Courier — what reads as an envelope

The envelope reader accepts the written forms of envelopes of this protocol, with anything behind
them, and nothing else. Hence an envelope survives being written and read, and no written form is
the beginning of another one, so that a byte string has at most one envelope at its front.

The one condition is `Envelope.Fits`: texts and byte strings inside the envelope are shorter than
2 ^ 64 bytes. An accepted envelope always fits.

* `Envelope.ofBytes_eq_ok_iff` — the bytes that read as an envelope;
* `Envelope.toBytes_prefix_inj` — forms of different envelopes are no beginnings of each other;
* `Envelope.reads_exactly_written_forms` — all of it.
-/

namespace Courier.Envelope

/-- Every text and byte string in an envelope is shorter than 2 ^ 64 bytes. -/
def Fits (e : Envelope) : Prop := schema.Fits e

theorem numbered_schema : schema.numbered = true := rfl

/-- The reader behind `ofBytes` takes off the front what `toBytes` writes. -/
theorem decode_eq_ok_iff {bs rest : Bytes} {e : Envelope} :
    schema.decode bs = .ok (e, rest) ↔ e.Fits ∧ bs = e.toBytes ++ rest :=
  Schema.decode_eq_ok_iff numbered_schema

/-- In an envelope that is small enough all lengths can be written. -/
theorem fits_of_size_lt {e : Envelope} (h : e.size < UInt64.size) : e.Fits :=
  schema.fits_of_encodedSize_lt e h

/-- What data reads as, when it begins with the form of an envelope of any version. -/
theorem ofBytes_append {e : Envelope} (h : e.Fits) (rest : Bytes) :
    ofBytes (e.toBytes ++ rest) =
      if e.version = protocolVersion then .ok e else .error (.version e.version) := by
  have hdec : schema.decode (e.toBytes ++ rest) = .ok (e, rest) := decode_eq_ok_iff.mpr ⟨h, rfl⟩
  rw [ofBytes, hdec]

/-- `from_bytes` accepts just the data that begins with the form of an envelope of this version. -/
theorem ofBytes_eq_ok_iff {bs : Bytes} {e : Envelope} :
    ofBytes bs = .ok e ↔ e.Fits ∧ e.version = protocolVersion ∧ e.toBytes <+: bs := by
  constructor
  · intro h
    rw [ofBytes] at h
    split at h
    next => cases h
    next e' rest hdec =>
      obtain ⟨hfits, rfl⟩ := decode_eq_ok_iff.mp hdec
      split at h
      next hversion =>
        cases h
        exact ⟨hfits, hversion, List.prefix_append _ _⟩
      next => cases h
  · rintro ⟨hfits, hversion, rest, rfl⟩
    rw [ofBytes_append hfits, if_pos hversion]

/-- No form of an envelope is the beginning of the form of another one. -/
theorem toBytes_prefix_inj {e e' : Envelope} (h : e.Fits) (h' : e'.Fits)
    (hfront : e.toBytes <+: e'.toBytes) : e = e' := by
  obtain ⟨rest, hrest⟩ := hfront
  have hdec : schema.decode e'.toBytes = .ok (e, rest) := decode_eq_ok_iff.mpr ⟨h, hrest.symm⟩
  have hdec' : schema.decode e'.toBytes = .ok (e', []) :=
    decode_eq_ok_iff.mpr ⟨h', (List.append_nil _).symm⟩
  rw [hdec] at hdec'
  cases hdec'
  rfl

/-- At most one envelope stands at the front of some data. -/
theorem eq_of_toBytes_append_eq {e e' : Envelope} {rest rest' : Bytes} (h : e.Fits) (h' : e'.Fits)
    (heq : e.toBytes ++ rest = e'.toBytes ++ rest') : e = e' ∧ rest = rest' := by
  -- the same data cannot be read in two ways
  have hdec : schema.decode (e.toBytes ++ rest) = .ok (e, rest) := decode_eq_ok_iff.mpr ⟨h, rfl⟩
  have hdec' : schema.decode (e.toBytes ++ rest) = .ok (e', rest') :=
    decode_eq_ok_iff.mpr ⟨h', heq⟩
  rw [hdec] at hdec'
  cases hdec'
  exact ⟨rfl, rfl⟩

/-- **The reader accepts exactly the written forms**, with anything behind them. So an envelope
survives being written and read, forms of different envelopes differ and are no beginnings of each
other, and accepted data is the form of one envelope and an unread rest in one way only. -/
theorem reads_exactly_written_forms :
    (∀ (bs : Bytes) (e : Envelope),
      ofBytes bs = .ok e ↔ e.Fits ∧ e.version = protocolVersion ∧ e.toBytes <+: bs) ∧
    (∀ e : Envelope, e.Fits → e.version = protocolVersion → ofBytes e.toBytes = .ok e) ∧
    (∀ e e' : Envelope, e.Fits → e'.Fits → e.toBytes <+: e'.toBytes → e = e') ∧
    (∀ (bs : Bytes) (e : Envelope), ofBytes bs = .ok e →
      ∃! form : Envelope × Bytes, form.1.Fits ∧ bs = form.1.toBytes ++ form.2) := by
  refine ⟨fun bs e => ofBytes_eq_ok_iff, ?_, fun e e' => toBytes_prefix_inj, ?_⟩
  · intro e hfits hversion
    exact ofBytes_eq_ok_iff.mpr ⟨hfits, hversion, List.prefix_rfl⟩
  · intro bs e h
    obtain ⟨hfits, -, rest, rfl⟩ := ofBytes_eq_ok_iff.mp h
    refine ⟨(e, rest), ⟨hfits, rfl⟩, ?_⟩
    rintro ⟨e', rest'⟩ ⟨hfits', heq⟩
    obtain ⟨rfl, rfl⟩ := eq_of_toBytes_append_eq hfits hfits' heq
    rfl

/-- A sealed message and one that may be kept, each with a text that is not ASCII. -/
theorem reads_exactly_written_samples :
    let sealedOne : Envelope :=
      ⟨1, .confidential ⟨⟨⟨.zero 32⟩, .zero 32, [2, 0, 255], ⟨.zero 64⟩⟩, "clé"⟩⟩
    let kept : Envelope :=
      ⟨1, .application ⟨"id", "trade.offer", [1, 2, 255], some ⟨5, 0, "é"⟩, true⟩⟩
    sealedOne.Fits ∧ kept.Fits ∧ ofBytes sealedOne.toBytes = .ok sealedOne ∧
      ofBytes kept.toBytes = .ok kept ∧
      (sealedOne.toBytes <+: kept.toBytes → sealedOne = kept) := by
  intro sealedOne kept
  have hsealed : sealedOne.Fits := fits_of_size_lt (by decide +kernel)
  have hkept : kept.Fits := fits_of_size_lt (by decide +kernel)
  obtain ⟨-, hback, hinj, -⟩ := reads_exactly_written_forms
  exact ⟨hsealed, hkept, hback sealedOne hsealed rfl, hback kept hkept rfl,
    hinj sealedOne kept hsealed hkept⟩

end Courier.Envelope
