import Courier.Text.Base64
import Courier.Text.Utf8
import Mathlib.Algebra.Group.Nat.Defs
import Mathlib.Data.List.Basic
import Mathlib.Tactic.SplitIfs

/-!
# Courier — one Base64 text for each byte string

Reading inverts writing in both directions: the text of a byte string reads as that byte string, and
a text that reads as a byte string is the one that would be written for it. Groups of four symbols
are taken one by one; the last group alone has padding, and its unused bits decide whether it is the
written form.

* `decodeBytes_eq_ok_iff` — on the symbols as bytes;
* `decode_eq_ok_iff` — on texts;
* `isCanonical_iff` — the texts that are written, by their outer marks.
-/

namespace Courier

/-- What succeeds in two steps succeeds in both. -/
theorem bind_inv {ε α β : Type} {x : Except ε α} {f : α → Except ε β} {b : β}
    (h : x >>= f = .ok b) : ∃ a, x = .ok a ∧ f a = .ok b := by
  cases x with
  | error e => cases h
  | ok a => exact ⟨a, rfl, h⟩

theorem ok_bind {ε α β : Type} (a : α) (f : α → Except ε β) : (Except.ok a >>= f) = f a := rfl

namespace Base64

/-! ## The alphabet -/

/-- The value of a symbol is the number that it was written for. -/
theorem value?_symbol {n : Nat} (h : n < 64) : value? (symbol n) = some n := by
  have hall : ∀ m : Fin 64, value? (symbol m.val) = some m.val := by decide
  exact hall ⟨n, h⟩

/-- No symbol is the padding. -/
theorem symbol_ne_pad {n : Nat} (h : n < 64) : symbol n ≠ pad := by
  intro he
  have hv := value?_symbol h
  rw [he] at hv
  cases hv

/-- A byte with a value is the symbol of that value, which is below 64. -/
theorem symbol_of_value? {b : UInt8} {n : Nat} (h : value? b = some n) :
    n < 64 ∧ symbol n = b := by
  have hall : ∀ m : Fin 256, ∀ k ∈ value? (UInt8.ofNat m.val),
      k < 64 ∧ symbol k = UInt8.ofNat m.val := by decide +kernel
  have hb : UInt8.ofNat b.toNat = b := UInt8.ofNat_toNat
  rw [← hb]
  exact hall ⟨b.toNat, b.toNat_lt⟩ n (by simpa [hb] using h)

/-- Symbols are accepted wherever they stand. -/
theorem valueAt_symbol (offset : Nat) {n : Nat} (h : n < 64) :
    valueAt offset (symbol n) = .ok n := by
  rw [valueAt, value?_symbol h]

/-- What is accepted is a symbol. -/
theorem valueAt_eq_ok {offset : Nat} {b : UInt8} {n : Nat} (h : valueAt offset b = .ok n) :
    n < 64 ∧ symbol n = b := by
  rw [valueAt] at h
  split at h
  next hv => cases h; exact symbol_of_value? hv
  next => cases h

/-! ## Groups -/

/-- Three bytes cut into four numbers and put together again. -/
theorem group_eq (a b c : UInt8) :
    group (a.toNat / 4) (a.toNat % 4 * 16 + b.toNat / 16) (b.toNat % 16 * 4 + c.toNat / 64)
      (c.toNat % 64) = [a, b, c] := by
  have ha : a.toNat < 256 := a.toNat_lt
  have hb : b.toNat < 256 := b.toNat_lt
  have hc : c.toNat < 256 := c.toNat_lt
  have h1 : a.toNat / 4 * 4 + (a.toNat % 4 * 16 + b.toNat / 16) / 16 = a.toNat := by omega
  have h2 : (a.toNat % 4 * 16 + b.toNat / 16) % 16 * 16 + (b.toNat % 16 * 4 + c.toNat / 64) / 4
      = b.toNat := by omega
  have h3 : (b.toNat % 16 * 4 + c.toNat / 64) % 4 * 64 + c.toNat % 64 = c.toNat := by omega
  rw [group, h1, h2, h3]
  simp

/-- The numbers that the bytes of a group were cut into. -/
theorem toNat_group {p q r s : Nat} (hp : p < 64) (hq : q < 64) (hr : r < 64) (hs : s < 64) :
    (group p q r s).map UInt8.toNat =
      [p * 4 + q / 16, q % 16 * 16 + r / 4, r % 4 * 64 + s] := by
  simp only [group, List.map_cons, List.map_nil, UInt8.toNat_ofNat']
  congr 1
  · omega
  · congr 1
    · omega
    · congr 1
      omega

/-- The symbols of a group are those of the numbers it was made of. -/
theorem encodeBytes_group {p q r s : Nat} (hp : p < 64) (hq : q < 64) (hr : r < 64) (hs : s < 64)
    (rest : Bytes) :
    encodeBytes (group p q r s ++ rest) =
      symbol p :: symbol q :: symbol r :: symbol s :: encodeBytes rest := by
  have hg := toNat_group hp hq hr hs
  simp only [group, List.map_cons, List.map_nil, List.cons.injEq, and_true] at hg
  obtain ⟨ha, hb, hc⟩ := hg
  have h1 : (p * 4 + q / 16) / 4 = p := by omega
  have h2 : (p * 4 + q / 16) % 4 * 16 + (q % 16 * 16 + r / 4) / 16 = q := by omega
  have h3 : (q % 16 * 16 + r / 4) % 16 * 4 + (r % 4 * 64 + s) / 64 = r := by omega
  have h4 : (r % 4 * 64 + s) % 64 = s := by omega
  simp only [group, List.cons_append, List.nil_append, encodeBytes, ha, hb, hc, h1, h2, h3, h4]

/-- Two bytes end in a group whose third number has no low bits. -/
theorem encodeBytes_take_two {p q r : Nat} (hp : p < 64) (hq : q < 64) (hr : r < 64)
    (hr0 : r % 4 = 0) :
    encodeBytes ((group p q r 0).take 2) = [symbol p, symbol q, symbol r, pad] := by
  have hg := toNat_group hp hq hr (Nat.zero_lt_succ 63)
  simp only [group, List.map_cons, List.map_nil, List.cons.injEq, and_true] at hg
  obtain ⟨ha, hb, -⟩ := hg
  have h1 : (p * 4 + q / 16) / 4 = p := by omega
  have h2 : (p * 4 + q / 16) % 4 * 16 + (q % 16 * 16 + r / 4) / 16 = q := by omega
  have h3 : (q % 16 * 16 + r / 4) % 16 * 4 = r := by omega
  simp only [group, List.take_succ_cons, List.take_zero, encodeBytes, ha, hb, h1, h2, h3]

/-- One byte ends in a group whose second number has no low bits. -/
theorem encodeBytes_take_one {p q : Nat} (hp : p < 64) (hq : q < 64) (hq0 : q % 16 = 0) :
    encodeBytes ((group p q 0 0).take 1) = [symbol p, symbol q, pad, pad] := by
  have hg := toNat_group hp hq (Nat.zero_lt_succ 63) (Nat.zero_lt_succ 63)
  simp only [group, List.map_cons, List.map_nil, List.cons.injEq, and_true] at hg
  obtain ⟨ha, -, -⟩ := hg
  have h1 : (p * 4 + q / 16) / 4 = p := by omega
  have h2 : (p * 4 + q / 16) % 4 * 16 = q := by omega
  simp only [group, List.take_succ_cons, List.take_zero, encodeBytes, ha, h1, h2]

/-! ## The last group -/

/-- The last group is accepted if it is made of symbols with padding behind them. -/
theorem lastSymbols_eq_ok {start i : Nat} {bs : Bytes} {ns : List Nat} {k : Nat}
    (h : lastSymbols start i bs = .ok (ns, k)) :
    (∀ n ∈ ns, n < 64) ∧ bs = ns.map symbol ++ List.replicate k pad := by
  induction bs generalizing i ns with
  | nil =>
    cases h
    exact ⟨by simp, rfl⟩
  | cons b rest ih =>
    rw [lastSymbols] at h
    split_ifs at h with hb hi hall
    -- padding is the end of it: behind it only padding is accepted
    · cases h
      refine ⟨by simp, ?_⟩
      rw [List.all_eq_true] at hall
      rw [hb, List.map_nil, List.nil_append, List.replicate_succ,
        List.eq_replicate_of_mem fun x hx => eq_of_beq (hall x hx), List.length_replicate]
    · cases hv : valueAt (start + i) b with
      | error f => rw [hv] at h; cases h
      | ok n =>
        cases hr : lastSymbols start (i + 1) rest with
        | error f => rw [hv, hr] at h; cases h
        | ok out =>
          obtain ⟨ms, j⟩ := out
          rw [hv, hr] at h
          cases h
          obtain ⟨hlt, hn⟩ := valueAt_eq_ok hv
          obtain ⟨hms, hrest⟩ := ih hr
          refine ⟨by simpa using ⟨hlt, hms⟩, ?_⟩
          rw [List.map_cons, List.cons_append, hn, ← hrest]

/-- Symbols with padding behind them are accepted, if there are two of them at least. -/
theorem lastSymbols_append (start : Nat) {i : Nat} {ns : List Nat} {k : Nat}
    (hns : ∀ n ∈ ns, n < 64) (hk : k = 0 ∨ 2 ≤ i + ns.length) :
    lastSymbols start i (ns.map symbol ++ List.replicate k pad) = .ok (ns, k) := by
  induction ns generalizing i with
  | nil =>
    cases k with
    | zero => rfl
    | succ k =>
      -- there are two symbols before, so padding may begin
      have hi : ¬ i < 2 := by
        rw [List.length_nil] at hk
        omega
      simp [List.replicate_succ, lastSymbols, hi]
  | cons n ns ih =>
    have hn : n < 64 := hns n (List.mem_cons_self ..)
    have hrest : lastSymbols start (i + 1) (ns.map symbol ++ List.replicate k pad) = .ok (ns, k) :=
      ih (fun m hm => hns m (List.mem_cons_of_mem _ hm)) (by rw [List.length_cons] at hk; omega)
    rw [List.map_cons, List.cons_append, lastSymbols, if_neg (symbol_ne_pad hn),
      valueAt_symbol _ hn, hrest]
    rfl

/-- The bytes of a last group are written as its symbols and its padding. -/
theorem lastBytes_eq_ok {start : Nat} {ns : List Nat} {k : Nat} {out : Bytes}
    (hns : ∀ n ∈ ns, n < 64) (hlen : ns.length + k ≤ 4) (h : lastBytes start ns k = .ok out) :
    ns.map symbol ++ List.replicate k pad = encodeBytes out := by
  unfold lastBytes at h
  split_ifs at h with h2 h4
  -- the number of symbols decides how many bytes there are, and with it the padding
  split at h
  next p q r s =>
    cases h
    have hk : k = 0 := by simp only [List.length_cons, List.length_nil] at hlen; omega
    have henc := encodeBytes_group (hns p (by simp)) (hns q (by simp)) (hns r (by simp))
      (hns s (by simp)) []
    rw [List.append_nil] at henc
    rw [hk, henc]
    rfl
  next p q r =>
    split_ifs at h with hr0
    cases h
    have hk : k = 1 := by simp only [List.length_cons, List.length_nil] at hlen h4; omega
    rw [hk, encodeBytes_take_two (hns p (by simp)) (hns q (by simp)) (hns r (by simp)) hr0]
    rfl
  next p q =>
    split_ifs at h with hq0
    cases h
    have hk : k = 2 := by simp only [List.length_cons, List.length_nil] at hlen h4; omega
    rw [hk, encodeBytes_take_one (hns p (by simp)) (hns q (by simp)) hq0]
    rfl
  -- fewer than two symbols were refused, and more than four are not taken
  next h4' h3' h2' =>
    exfalso
    match ns with
    | [] => simp at h2
    | [_] => simp at h2
    | [p, q] => exact h2' p q rfl
    | [p, q, r] => exact h3' p q r rfl
    | [p, q, r, s] => exact h4' p q r s rfl
    | _ :: _ :: _ :: _ :: _ :: _ => simp only [List.length_cons] at hlen; omega

/-- What the last group is decoded to is written as this group. -/
theorem decodeLast_eq_ok {start : Nat} {bs out : Bytes} (hlen : bs.length ≤ 4)
    (h : decodeLast start bs = .ok out) : bs = encodeBytes out := by
  rw [decodeLast] at h
  split at h
  next => cases h
  next ns k hl =>
    obtain ⟨hns, rfl⟩ := lastSymbols_eq_ok hl
    rw [List.length_append, List.length_map, List.length_replicate] at hlen
    exact lastBytes_eq_ok hns hlen h

/-- The bytes of the last group are those of its symbols. -/
theorem decodeLast_symbols (start : Nat) (ns : List Nat) (k : Nat) (hns : ∀ n ∈ ns, n < 64)
    (hk : k = 0 ∨ 2 ≤ ns.length) :
    decodeLast start (ns.map symbol ++ List.replicate k pad) = lastBytes start ns k := by
  rw [decodeLast, lastSymbols_append start hns (by simpa using hk)]

/-- One, two or three bytes are read back from their group. -/
theorem decodeLast_encodeBytes (start : Nat) (bs : Bytes) (hpos : bs ≠ [])
    (hlen : bs.length ≤ 3) : decodeLast start (encodeBytes bs) = .ok bs := by
  match bs with
  | [] => exact absurd rfl hpos
  -- bytes that are missing count as zeros, so that the unused bits are zero
  | [a] =>
    have ha : a.toNat < 256 := a.toNat_lt
    have h := decodeLast_symbols start [a.toNat / 4, a.toNat % 4 * 16] 2
      (by simp; omega) (.inr (by simp))
    have hg := group_eq a 0 0
    simp only [UInt8.toNat_zero, Nat.zero_div, Nat.zero_mod, Nat.zero_mul, Nat.add_zero] at hg
    have h16 : a.toNat % 4 * 16 % 16 = 0 := by omega
    rw [show encodeBytes [a] = [a.toNat / 4, a.toNat % 4 * 16].map symbol ++ List.replicate 2 pad
      from rfl, h]
    simp [lastBytes, h16, hg]
  | [a, b] =>
    have ha : a.toNat < 256 := a.toNat_lt
    have hb : b.toNat < 256 := b.toNat_lt
    have h := decodeLast_symbols start
      [a.toNat / 4, a.toNat % 4 * 16 + b.toNat / 16, b.toNat % 16 * 4] 1
      (by simp; omega) (.inr (by simp))
    have hg := group_eq a b 0
    simp only [UInt8.toNat_zero, Nat.zero_div, Nat.zero_mod, Nat.add_zero] at hg
    have h4 : b.toNat % 16 * 4 % 4 = 0 := by omega
    rw [show encodeBytes [a, b] = [a.toNat / 4, a.toNat % 4 * 16 + b.toNat / 16,
      b.toNat % 16 * 4].map symbol ++ List.replicate 1 pad from rfl, h]
    simp [lastBytes, h4, hg]
  | [a, b, c] =>
    have ha : a.toNat < 256 := a.toNat_lt
    have hb : b.toNat < 256 := b.toNat_lt
    have hc : c.toNat < 256 := c.toNat_lt
    have h := decodeLast_symbols start
      [a.toNat / 4, a.toNat % 4 * 16 + b.toNat / 16, b.toNat % 16 * 4 + c.toNat / 64,
        c.toNat % 64] 0
      (by simp; omega) (.inl rfl)
    rw [show encodeBytes [a, b, c] = [a.toNat / 4, a.toNat % 4 * 16 + b.toNat / 16,
      b.toNat % 16 * 4 + c.toNat / 64, c.toNat % 64].map symbol ++ List.replicate 0 pad from rfl, h]
    simp [lastBytes, group_eq]
  | _ :: _ :: _ :: _ :: _ => simp only [List.length_cons] at hlen; omega

/-! ## Whole texts -/

/-- What data is decoded to is written as this data, which has one canonical form. -/
theorem decodeFrom_eq_ok {start : Nat} {bs out : Bytes} (h : decodeFrom start bs = .ok out) :
    bs = encodeBytes out := by
  induction start, bs using decodeFrom.induct generalizing out with
  | case1 start =>
    cases h
    rfl
  -- the last group may have padding, the groups before it may not
  | case2 start a b c d rest hrest =>
    rw [decodeFrom, if_pos hrest] at h
    rw [List.isEmpty_iff.mp hrest]
    exact decodeLast_eq_ok (by simp) h
  | case3 start a b c d rest hrest ih =>
    rw [decodeFrom, if_neg hrest] at h
    obtain ⟨p, hpa, h⟩ := bind_inv h
    obtain ⟨q, hqb, h⟩ := bind_inv h
    obtain ⟨r, hrc, h⟩ := bind_inv h
    obtain ⟨s, hsd, h⟩ := bind_inv h
    obtain ⟨more, hmore, h⟩ := bind_inv h
    cases h
    obtain ⟨hp, rfl⟩ := valueAt_eq_ok hpa
    obtain ⟨hq, rfl⟩ := valueAt_eq_ok hqb
    obtain ⟨hr, rfl⟩ := valueAt_eq_ok hrc
    obtain ⟨hs, rfl⟩ := valueAt_eq_ok hsd
    rw [encodeBytes_group hp hq hr hs, ← ih hmore]
  | case4 start last hnil hfour =>
    rw [decodeFrom] at h
    · refine decodeLast_eq_ok ?_ h
      match last with
      | [] | [_] | [_, _] | [_, _, _] => simp
      | a :: b :: c :: d :: rest => exact absurd rfl (hfour a b c d rest)
    · exact hnil
    · exact hfour

theorem encodeBytes_eq_nil_iff {bs : Bytes} : encodeBytes bs = [] ↔ bs = [] := by
  match bs with
  | [] => simp [encodeBytes]
  | [_] | [_, _] | _ :: _ :: _ :: _ => simp [encodeBytes]

/-- What is written is decoded. -/
theorem decodeFrom_encodeBytes (start : Nat) (bs : Bytes) :
    decodeFrom start (encodeBytes bs) = .ok bs := by
  induction bs using encodeBytes.induct generalizing start with
  | case1 a b c rest ih =>
    -- the last three bytes are read as a last group, which has no padding
    by_cases hrest : rest = []
    · subst hrest
      have hlast := decodeLast_encodeBytes start [a, b, c] (by simp) (by simp)
      rw [encodeBytes] at hlast ⊢
      rw [decodeFrom, if_pos (by simp [encodeBytes])]
      exact hlast
    · have ha : a.toNat < 256 := a.toNat_lt
      have hb : b.toNat < 256 := b.toNat_lt
      have hc : c.toNat < 256 := c.toNat_lt
      have hmore : ¬ (encodeBytes rest).isEmpty = true := by
        rw [List.isEmpty_iff, encodeBytes_eq_nil_iff]
        exact hrest
      rw [encodeBytes, decodeFrom, if_neg hmore, valueAt_symbol start (by omega),
        valueAt_symbol (start + 1) (by omega), valueAt_symbol (start + 2) (by omega),
        valueAt_symbol (start + 3) (by omega), ih]
      show Except.ok (group _ _ _ _ ++ rest) = _
      rw [group_eq]
      rfl
  | case2 a b => exact decodeLast_encodeBytes start [a, b] (by simp) (by simp)
  | case3 a => exact decodeLast_encodeBytes start [a] (by simp) (by simp)
  | case4 => rfl

/-- Three bytes take four symbols, and fewer do so as well. -/
theorem length_encodeBytes (bs : Bytes) :
    (encodeBytes bs).length = (bs.length + 2) / 3 * 4 := by
  induction bs using encodeBytes.induct with
  | case1 a b c rest ih =>
    rw [encodeBytes]
    simp only [List.length_cons, ih]
    omega
  | case2 a b => simp [encodeBytes]
  | case3 a => simp [encodeBytes]
  | case4 => rfl

/-- The symbols that read as a byte string are those that are written for it. -/
theorem decodeBytes_eq_ok_iff {t bs : Bytes} : decodeBytes t = .ok bs ↔ t = encodeBytes bs := by
  constructor
  · intro h
    rw [decodeBytes] at h
    split at h
    next b hb =>
      split_ifs at h
      exact decodeFrom_eq_ok h
    next hnone =>
      cases h
      exact List.getLast?_eq_none_iff.mp hnone
  · rintro rfl
    rw [decodeBytes]
    split
    next b hb =>
      -- what is written comes in fours, so that no symbol is left over
      rw [if_neg fun hbad => by have := length_encodeBytes bs; omega]
      exact decodeFrom_encodeBytes 0 bs
    next hnone =>
      rw [List.getLast?_eq_none_iff, encodeBytes_eq_nil_iff] at hnone
      rw [hnone]

/-- Symbols and padding are ASCII characters. -/
theorem encodeBytes_ascii {bs : Bytes} : ∀ x ∈ encodeBytes bs, x.toNat < 128 := by
  have hsymbol : ∀ n, (symbol n).toNat < 128 := by
    intro n
    unfold symbol
    split_ifs <;> simp <;> omega
  have hpad : pad.toNat < 128 := by decide
  induction bs using encodeBytes.induct with
  | case1 a b c rest ih => simpa [encodeBytes, hsymbol] using ih
  | case2 a b => simp [encodeBytes, hsymbol, hpad]
  | case3 a => simp [encodeBytes, hsymbol, hpad]
  | case4 => simp [encodeBytes]

/-- The text of a byte string, byte by byte. -/
theorem ofText_encode (bs : Bytes) : Bytes.ofText (encode bs) = encodeBytes bs :=
  Utf8.ofText_ofList_ascii encodeBytes_ascii

/-- The text that reads as a byte string is the one that is written for it. -/
theorem decode_eq_ok_iff {s : String} {bs : Bytes} : decode s = .ok bs ↔ s = encode bs := by
  rw [decode, decodeBytes_eq_ok_iff, ← ofText_encode]
  exact ⟨Utf8.ofText_injective, congrArg Bytes.ofText⟩

/-- Different data has different texts. -/
theorem encode_injective {bs bs' : Bytes} (h : encode bs = encode bs') : bs = bs' := by
  have hread : decode (encode bs) = .ok bs := decode_eq_ok_iff.mpr rfl
  rw [decode_eq_ok_iff.mpr h] at hread
  exact (Except.ok.inj hread).symm

/-! ## What a written form looks like -/

/-- The symbols, in the order of the numbers that they stand for. -/
def alphabet : List Char :=
  "ABCDEFGHIJKLMNOPQRSTUVWXYZabcdefghijklmnopqrstuvwxyz0123456789+/".toList

/-- The number of bytes that are missing to full groups of three. -/
def missing (n : Nat) : Nat := (3 - n % 3) % 3

/-- A text with the outer marks of a form of `n` bytes. -/
structure IsCanonical (n : Nat) (s : String) : Prop where
  /-- There are four signs for three bytes or a part of them. -/
  length : s.toList.length = (n + 2) / 3 * 4
  /-- The last signs are padding, one for each byte that is missing. -/
  padding : s.toList.drop (s.toList.length - missing n) = List.replicate (missing n) '='
  /-- All others are symbols. -/
  symbols : ∀ c ∈ s.toList.take (s.toList.length - missing n), c ∈ alphabet
  /-- The bits of the last symbol that belong to missing bytes are zero. -/
  unused : ∀ c ∈ (s.toList.take (s.toList.length - missing n)).getLast?,
    alphabet.idxOf c % 4 ^ missing n = 0

instance (n : Nat) (s : String) : Decidable (IsCanonical n s) :=
  decidable_of_iff (s.toList.length = (n + 2) / 3 * 4 ∧
      s.toList.drop (s.toList.length - missing n) = List.replicate (missing n) '=' ∧
      (s.toList.take (s.toList.length - missing n)).all (· ∈ alphabet) = true ∧
      (s.toList.take (s.toList.length - missing n)).getLast?.all
        (fun c => alphabet.idxOf c % 4 ^ missing n = 0) = true) <| by
    simp only [List.all_eq_true, Option.all_eq_true, decide_eq_true_eq]
    exact ⟨fun h => ⟨h.1, h.2.1, h.2.2.1, h.2.2.2⟩, fun h => ⟨h.1, h.2, h.3, h.4⟩⟩

/-- The numbers of the symbols of `n` bytes. -/
structure AreNumbers (n : Nat) (ns : List Nat) : Prop where
  lt : ∀ m ∈ ns, m < 64
  length : ns.length + missing n = (n + 2) / 3 * 4
  unused : ∀ m ∈ ns.getLast?, m % 4 ^ missing n = 0

/-- What is missing in the last group depends on what is left over only. -/
theorem missing_add_three (n : Nat) : missing (n + 3) = missing n := by
  rw [missing, missing, Nat.add_mod_right]

theorem missing_le (n : Nat) : missing n ≤ (n + 2) / 3 * 4 := by
  unfold missing
  omega

/-- A full group more in front. -/
theorem areNumbers_cons {n p q r s : Nat} {ns : List Nat} :
    AreNumbers (n + 3) (p :: q :: r :: s :: ns) ↔
      (p < 64 ∧ q < 64 ∧ r < 64 ∧ s < 64) ∧ AreNumbers n ns := by
  have hgroups : (n + 3 + 2) / 3 * 4 = (n + 2) / 3 * 4 + 4 := by omega
  have hlast (m : Nat) (ns : List Nat) :
      (p :: q :: r :: s :: m :: ns).getLast? = (m :: ns).getLast? := by
    simp [List.getLast?_cons]
  constructor
  · rintro ⟨hlt, hlength, hunused⟩
    simp only [List.forall_mem_cons] at hlt
    obtain ⟨hp, hq, hr, hs, hns⟩ := hlt
    rw [missing_add_three] at hlength hunused
    refine ⟨⟨hp, hq, hr, hs⟩, hns, ?_, ?_⟩
    · simp only [List.length_cons] at hlength
      omega
    · cases ns with
      | nil => exact fun m hm => nomatch hm
      | cons m ns => rwa [hlast] at hunused
  · rintro ⟨⟨hp, hq, hr, hs⟩, hlt, hlength, hunused⟩
    refine ⟨?_, ?_, ?_⟩
    · simpa only [List.forall_mem_cons] using ⟨hp, hq, hr, hs, hlt⟩
    · rw [missing_add_three]
      simp only [List.length_cons]
      omega
    · rw [missing_add_three]
      cases ns with
      | nil =>
        -- without another group there is no other byte, and none is missing
        have hzero : missing n = 0 := by
          rw [List.length_nil] at hlength
          unfold missing at hlength ⊢
          omega
        rw [hzero]
        exact fun m _ => Nat.mod_one m
      | cons m ns => rwa [hlast]

/-- What is written for bytes are the symbols of numbers, and padding. -/
theorem exists_numbers (bs : Bytes) : ∃ ns, AreNumbers bs.length ns ∧
    encodeBytes bs = ns.map symbol ++ List.replicate (missing bs.length) pad := by
  induction bs using encodeBytes.induct with
  | case1 a b c rest ih =>
    obtain ⟨ns, hns, hform⟩ := ih
    have ha : a.toNat < 256 := a.toNat_lt
    have hb : b.toNat < 256 := b.toNat_lt
    have hc : c.toNat < 256 := c.toNat_lt
    refine ⟨a.toNat / 4 :: (a.toNat % 4 * 16 + b.toNat / 16) ::
      (b.toNat % 16 * 4 + c.toNat / 64) :: c.toNat % 64 :: ns,
      areNumbers_cons.mpr ⟨by omega, hns⟩, ?_⟩
    rw [encodeBytes, hform, show (a :: b :: c :: rest).length = rest.length + 3 from rfl,
      missing_add_three]
    rfl
  | case2 a b =>
    have ha : a.toNat < 256 := a.toNat_lt
    have hb : b.toNat < 256 := b.toNat_lt
    refine ⟨[a.toNat / 4, a.toNat % 4 * 16 + b.toNat / 16, b.toNat % 16 * 4],
      ⟨?_, by simp [missing], ?_⟩, rfl⟩
    · simp only [List.forall_mem_cons, List.not_mem_nil, false_implies, implies_true, and_true]
      omega
    · rintro m ⟨⟩
      show b.toNat % 16 * 4 % 4 = 0
      omega
  | case3 a =>
    have ha : a.toNat < 256 := a.toNat_lt
    refine ⟨[a.toNat / 4, a.toNat % 4 * 16], ⟨?_, by simp [missing], ?_⟩, rfl⟩
    · simp only [List.forall_mem_cons, List.not_mem_nil, false_implies, implies_true, and_true]
      omega
    · rintro m ⟨⟩
      show a.toNat % 4 * 16 % 16 = 0
      omega
  | case4 => exact ⟨[], ⟨by simp, by simp [missing], by simp⟩, rfl⟩

/-- The symbols of such numbers, and padding, are what is written for some bytes. -/
theorem exists_bytes {n : Nat} {ns : List Nat} (hns : AreNumbers n ns) :
    ∃ bs, bs.length = n ∧ ns.map symbol ++ List.replicate (missing n) pad = encodeBytes bs := by
  induction n using Nat.strongRecOn generalizing ns with
  | ind n ih =>
    have hlength := hns.length
    have hlt := hns.lt
    match n with
    | 0 =>
      obtain rfl := List.eq_nil_of_length_eq_zero hlength
      exact ⟨[], rfl, rfl⟩
    | 1 =>
      obtain ⟨p, q, rfl⟩ := List.length_eq_two.mp (Nat.add_right_cancel hlength : _ = 2)
      simp only [List.forall_mem_cons] at hlt
      exact ⟨_, rfl, (encodeBytes_take_one hlt.1 hlt.2.1 (hns.unused q rfl)).symm⟩
    | 2 =>
      obtain ⟨p, q, r, rfl⟩ := List.length_eq_three.mp (Nat.add_right_cancel hlength : _ = 3)
      simp only [List.forall_mem_cons] at hlt
      exact ⟨_, rfl, (encodeBytes_take_two hlt.1 hlt.2.1 hlt.2.2.1 (hns.unused r rfl)).symm⟩
    | n + 3 =>
      have hle := missing_le n
      rw [missing_add_three] at hlength
      match ns with
      | p :: q :: r :: s :: ns =>
        obtain ⟨⟨hp, hq, hr, hs⟩, hmore⟩ := areNumbers_cons.mp hns
        obtain ⟨bs, hbs, hform⟩ := ih n (by omega) hmore
        refine ⟨group p q r s ++ bs, ?_, ?_⟩
        · rw [List.length_append, hbs]
          exact Nat.add_comm 3 n
        · rw [encodeBytes_group hp hq hr hs, ← hform, missing_add_three]
          rfl
      | [] | [_] | [_, _] | [_, _, _] =>
        simp only [List.length_cons, List.length_nil] at hlength
        omega

/-- The character of a number below 64. -/
def symbolChar (m : Nat) : Char := Char.ofNat (symbol m).toNat

/-- The symbol of a number is found at its place in the alphabet. -/
theorem symbolChar_spec {m : Nat} (h : m < 64) :
    symbolChar m ∈ alphabet ∧ alphabet.idxOf (symbolChar m) = m := by
  have hall : ∀ m : Fin 64, symbolChar m.val ∈ alphabet ∧
      alphabet.idxOf (symbolChar m.val) = m.val := by decide +kernel
  exact hall ⟨m, h⟩

/-- The characters of the alphabet are the symbols of their places. -/
theorem symbolChar_idxOf {c : Char} (h : c ∈ alphabet) :
    alphabet.idxOf c < 64 ∧ symbolChar (alphabet.idxOf c) = c := by
  have hall : alphabet.all (fun c => alphabet.idxOf c < 64 ∧ symbolChar (alphabet.idxOf c) = c) =
      true := by decide +kernel
  exact of_decide_eq_true (List.all_eq_true.mp hall c h)

/-- The characters of a form are those of its numbers, and padding. -/
theorem eq_encode_iff {n : Nat} {s : String} :
    (∃ bs, bs.length = n ∧ s = encode bs) ↔
      ∃ ns, AreNumbers n ns ∧ s.toList = ns.map symbolChar ++ List.replicate (missing n) '=' := by
  have hchars (ns : List Nat) (k : Nat) :
      (ns.map symbol ++ List.replicate k pad).map (fun b => Char.ofNat b.toNat) =
        ns.map symbolChar ++ List.replicate k '=' := by
    rw [List.map_append, List.map_map, List.map_replicate]
    rfl
  constructor
  · rintro ⟨bs, rfl, rfl⟩
    obtain ⟨ns, hns, hform⟩ := exists_numbers bs
    exact ⟨ns, hns, by rw [encode, String.toList_ofList, hform, hchars]⟩
  · rintro ⟨ns, hns, hs⟩
    obtain ⟨bs, hbs, hform⟩ := exists_bytes hns
    refine ⟨bs, hbs, String.toList_injective ?_⟩
    rw [hs, encode, String.toList_ofList, ← hform, hchars]

/-- **A text is the form of `n` bytes just when its length, its padding, its symbols and its unused
bits are in order.** -/
theorem isCanonical_iff {n : Nat} {s : String} :
    IsCanonical n s ↔ ∃ bs, bs.length = n ∧ s = encode bs := by
  rw [eq_encode_iff]
  constructor
  · intro h
    let front := s.toList.take (s.toList.length - missing n)
    have hfront : (front.map alphabet.idxOf).map symbolChar = front := by
      rw [List.map_map]
      exact (List.map_congr_left fun c hc => (symbolChar_idxOf (h.symbols c hc)).2).trans
        (List.map_id _)
    refine ⟨front.map alphabet.idxOf, ⟨?_, ?_, ?_⟩, ?_⟩
    · intro m hm
      obtain ⟨c, hc, rfl⟩ := List.mem_map.mp hm
      exact (symbolChar_idxOf (h.symbols c hc)).1
    · have hle := missing_le n
      rw [← h.length] at hle ⊢
      rw [List.length_map, List.length_take, Nat.min_eq_left (Nat.sub_le ..)]
      exact Nat.sub_add_cancel hle
    · intro m hm
      rw [List.getLast?_map] at hm
      obtain ⟨c, hc, rfl⟩ := Option.map_eq_some_iff.mp hm
      exact h.unused c hc
    · rw [hfront, ← h.padding, List.take_append_drop]
  · rintro ⟨ns, hns, hs⟩
    have hlength : s.toList.length = ns.length + missing n := by
      rw [hs, List.length_append, List.length_map, List.length_replicate]
    have hsplit : s.toList.length - missing n = (ns.map symbolChar).length := by
      rw [hlength, List.length_map, Nat.add_sub_cancel]
    have htake : s.toList.take (s.toList.length - missing n) = ns.map symbolChar := by
      rw [hsplit, hs, List.take_left]
    refine ⟨hlength.trans hns.length, ?_, ?_, ?_⟩
    · rw [hsplit, hs, List.drop_left]
    · rw [htake]
      intro c hc
      obtain ⟨m, hm, rfl⟩ := List.mem_map.mp hc
      exact (symbolChar_spec (hns.lt m hm)).1
    · rw [htake, List.getLast?_map]
      intro c hc
      obtain ⟨m, hm, rfl⟩ := Option.map_eq_some_iff.mp hc
      rw [(symbolChar_spec (hns.lt m (List.mem_of_getLast? hm))).2]
      exact hns.unused m hm

end Base64

end Courier
