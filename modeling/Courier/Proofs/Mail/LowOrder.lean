import Courier.Proofs.Mail.Opening
import Mathlib.Data.ZMod.Basic
import Mathlib.Tactic.IntervalCases
import Mathlib.Tactic.LinearCombination
import Mathlib.Tactic.Ring

/-!
# Courier — keys of low order

A public key is the first coordinate of a point. A few points come back to the neutral one after at
most eight steps: with such a key, the secret would be the same whoever computes it. Scalars are
multiples of eight, so that for these keys the ladder always ends at the neutral point, and the
secret that it yields is zero and refused.

The ladder is followed on fractions over the field. It holds two neighbouring multiples of the point,
each up to a factor (`Ladder.Tracks`), and of a point of low order there are only a few multiples
(`IsMultiples`), so one step is a handful of identities. The factor may be zero: from a fraction
nought over nought on, nothing else follows, and it stands for zero in the end as well.

* `Ladder.Tracks.step`, `Ladder.Tracks.run` — one bit of the scalar, and all of them;
* `LowOrder` — the coordinates of points of order two, four and eight, by the equations that they
  solve;
* `multiply_of_lowOrder` — scalar multiplication of such a point is zero;
* `SealedData.low_order_refused` — nothing is agreed on, sealed or opened with such a key.
-/

namespace Courier

-- ---------------------------------------------------------------------------
-- The field
-- ---------------------------------------------------------------------------

namespace Field25519

/-- There are numbers below the prime. -/
theorem prime_pos : 0 < prime := by decide

/-- Sums are those of the field. -/
theorem cast_add (a b : Nat) : ((add a b : Nat) : ZMod prime) = a + b := by
  rw [add, ZMod.natCast_mod, Nat.cast_add]

theorem cast_sub (a b : Nat) : ((sub a b : Nat) : ZMod prime) = a - b := by
  have hle : b % prime ≤ prime := Nat.le_of_lt (Nat.mod_lt b prime_pos)
  rw [sub, ZMod.natCast_mod, Nat.cast_add, Nat.cast_sub hle, ZMod.natCast_self, ZMod.natCast_mod]
  ring

theorem cast_mul (a b : Nat) : ((mul a b : Nat) : ZMod prime) = a * b := by
  rw [mul, ZMod.natCast_mod, Nat.cast_mul]

theorem cast_square (a : Nat) : ((square a : Nat) : ZMod prime) = a ^ 2 := by
  rw [square, cast_mul, sq]

/-- Zero has the inverse zero, however it is written. -/
theorem inv_of_cast_eq_zero {a : Nat} (h : (a : ZMod prime) = 0) : inv a = 0 := by
  have hmod : a % prime = 0 := Nat.dvd_iff_mod_eq_zero.mp ((ZMod.natCast_eq_zero_iff a prime).mp h)
  have hodd : (prime - 2) % 2 = 1 := by decide
  have hpos : prime - 2 ≠ 0 := by decide
  rw [inv, pow, powMod, if_neg hpos, if_pos hodd, Nat.mul_mod, hmod, Nat.zero_mul, Nat.zero_mod]

end Field25519

namespace X25519

open Field25519

-- ---------------------------------------------------------------------------
-- Fractions
-- ---------------------------------------------------------------------------

/-- A point by its first coordinate, as a fraction `x / z`; the neutral point is `1 / 0`. -/
@[ext] structure Ratio where
  x : ZMod prime
  z : ZMod prime

namespace Ratio

def scale (c : ZMod prime) (p : Ratio) : Ratio := ⟨c * p.x, c * p.z⟩

/-- Twice the point. -/
def double (p : Ratio) : Ratio :=
  ⟨((p.x + p.z) * (p.x - p.z)) ^ 2, 4 * p.x * p.z * (p.x ^ 2 + 486662 * p.x * p.z + p.z ^ 2)⟩

/-- The sum of two points whose difference has the coordinate `u`. -/
def sum (u : ZMod prime) (p q : Ratio) : Ratio :=
  ⟨4 * (p.x * q.x - p.z * q.z) ^ 2, 4 * u * (p.x * q.z - p.z * q.x) ^ 2⟩

/-- The fraction is a multiple of the other one, top and bottom alike. -/
def Matches (p q : Ratio) : Prop := ∃ c, p = q.scale c

/-- Every ratio matches itself. -/
theorem Matches.refl (p : Ratio) : p.Matches p := ⟨1, by ext <;> simp [scale]⟩

/-- To double a point up to a factor is to double the point. -/
theorem Matches.double {p q r : Ratio} (h : p.Matches q) (hq : q.double.Matches r) :
    p.double.Matches r := by
  obtain ⟨c, rfl⟩ := h
  obtain ⟨d, hd⟩ := hq
  have hscale : (q.scale c).double = q.double.scale (c ^ 4) := by
    ext <;> simp only [scale, Ratio.double] <;> ring
  refine ⟨c ^ 4 * d, ?_⟩
  rw [hscale, hd]
  ext <;> simp only [scale] <;> ring

/-- So it is for sums with a known difference. -/
theorem Matches.sum {u : ZMod prime} {p p' q q' r : Ratio} (h : p.Matches q) (h' : p'.Matches q')
    (hq : (Ratio.sum u q q').Matches r) : (Ratio.sum u p p').Matches r := by
  obtain ⟨c, rfl⟩ := h
  obtain ⟨c', rfl⟩ := h'
  obtain ⟨d, hd⟩ := hq
  have hscale : Ratio.sum u (q.scale c) (q'.scale c') =
      (Ratio.sum u q q').scale ((c * c') ^ 2) := by
    ext <;> simp only [scale, Ratio.sum] <;> ring
  refine ⟨(c * c') ^ 2 * d, ?_⟩
  rw [hscale, hd]
  ext <;> simp only [scale] <;> ring

/-- A sum does not depend on the order. -/
theorem sum_comm (u : ZMod prime) (p q : Ratio) : sum u p q = sum u q p := by
  ext <;> simp only [sum] <;> ring

end Ratio

/-- The first point of a ladder. -/
def Ladder.first (l : Ladder) : Ratio := ⟨l.x2, l.z2⟩

/-- The second point of a ladder, the next multiple. -/
def Ladder.second (l : Ladder) : Ratio := ⟨l.x3, l.z3⟩

/-- A double step doubles the first point -/
theorem Ladder.first_double (u : Nat) (l : Ladder) : (l.double u).first = l.first.double := by
  ext <;> simp only [first, Ladder.double, Ratio.double, a24, cast_add, cast_sub, cast_mul,
    cast_square] <;> push_cast <;> ring

theorem Ladder.second_double (u : Nat) (l : Ladder) :
    (l.double u).second = Ratio.sum u l.first l.second := by
  ext <;> simp only [first, second, Ladder.double, Ratio.sum, cast_add, cast_sub, cast_mul,
    cast_square] <;> ring

-- ---------------------------------------------------------------------------
-- The multiples of a point
-- ---------------------------------------------------------------------------

/-- These are the multiples of the point with the coordinate `u`, as doubling and adding yield them,
and every eighth one is neutral. -/
structure IsMultiples (u : ZMod prime) (t : Nat → Ratio) : Prop where
  zero : t 0 = ⟨1, 0⟩
  one : t 1 = ⟨u, 1⟩
  double : ∀ n, (t n).double.Matches (t (2 * n))
  sum : ∀ n, (Ratio.sum u (t n) (t (n + 1))).Matches (t (2 * n + 1))
  eight : ∀ n, (t (8 * n)).z = 0

/-- The multiples come round after `m` steps, so that there is something to show of `m` of them
only. -/
theorem IsMultiples.ofCycle {u : ZMod prime} (m : Nat) (hm : 1 < m) (hdvd : m ∣ 8)
    (t : Nat → Ratio) (zero : t 0 = ⟨1, 0⟩) (one : t 1 = ⟨u, 1⟩)
    (double : ∀ n < m, (t n).double.Matches (t (2 * n % m)))
    (sum : ∀ n < m, (Ratio.sum u (t n) (t ((n + 1) % m))).Matches (t ((2 * n + 1) % m))) :
    IsMultiples u fun n => t (n % m) where
  zero := zero
  one := by rw [Nat.mod_eq_of_lt hm, one]
  double n := by
    have hn := double (n % m) (Nat.mod_lt _ (by omega))
    rwa [Nat.mul_mod_mod] at hn
  sum n := by
    have hn := sum (n % m) (Nat.mod_lt _ (by omega))
    rwa [Nat.mod_add_mod, Nat.add_mod (2 * (n % m)), Nat.mul_mod_mod, ← Nat.add_mod] at hn
  eight n := by
    show (t (8 * n % m)).z = 0
    rw [Nat.mod_eq_zero_of_dvd (hdvd.mul_right n), zero]

/-- The coordinate of a point whose multiples come round after two, four or eight steps. The point of
order two has the coordinate zero; twice a point of order four is the point of order two; and twice a
point of order eight has a coordinate `w` of order four. -/
inductive LowOrder (u : ZMod prime) : Prop where
  | two (h : u = 0)
  | four (h : u ^ 2 = 1)
  | eight (w : ZMod prime) (hw : w ^ 2 = 1)
      (h : (u ^ 2 - 1) ^ 2 = w * (4 * u * (u ^ 2 + 486662 * u + 1)))

/-- The multiples of the point of order two. -/
def multiplesOfTwo : Nat → Ratio
  | 0 => ⟨1, 0⟩
  | _ => ⟨0, 1⟩

/-- The multiples of a point of order four. -/
def multiplesOfFour (u : ZMod prime) : Nat → Ratio
  | 0 => ⟨1, 0⟩
  | 2 => ⟨0, 1⟩
  | _ => ⟨u, 1⟩

/-- The multiples of a point of order eight. To add the point of order two is to invert the
coordinate. -/
def multiplesOfEight (u w : ZMod prime) : Nat → Ratio
  | 0 => ⟨1, 0⟩
  | 1 | 7 => ⟨u, 1⟩
  | 2 | 6 => ⟨w, 1⟩
  | 3 | 5 => ⟨1, u⟩
  | _ => ⟨0, 1⟩

namespace Ratio

/-- The neutral point is its own double. -/
theorem double_neutral : (⟨1, 0⟩ : Ratio).double.Matches ⟨1, 0⟩ :=
  ⟨1, by ext <;> simp [double, scale]⟩

/-- The point with coordinate zero has order two. -/
theorem double_zero : (⟨0, 1⟩ : Ratio).double.Matches ⟨1, 0⟩ :=
  ⟨1, by ext <;> simp [double, scale]⟩

/-- A coordinate whose square is one belongs to a point of order four. -/
theorem double_of_sq_eq_one {w : ZMod prime} (hw : w ^ 2 = 1) :
    (⟨w, 1⟩ : Ratio).double.Matches ⟨0, 1⟩ := by
  refine ⟨4 * w * (w ^ 2 + 486662 * w + 1), ?_⟩
  ext <;> simp only [double, scale]
  · linear_combination (w ^ 2 - 1) * hw
  · ring

/-- The neutral point adds nothing. -/
theorem sum_neutral (u : ZMod prime) : (sum u ⟨1, 0⟩ ⟨u, 1⟩).Matches ⟨u, 1⟩ :=
  ⟨4 * u, by ext <;> simp only [sum, scale] <;> ring⟩

end Ratio

section

open Ratio

/-- The multiples of a point of order two. -/
theorem isMultiples_two : IsMultiples 0 fun n => multiplesOfTwo (n % 2) := by
  refine .ofCycle 2 (by decide) (by decide) multiplesOfTwo rfl rfl ?_ ?_
  · intro n hn
    interval_cases n
    exacts [double_neutral, double_zero]
  · -- the ladder cannot add here, and is left with nought over nought
    have hsum : (sum 0 ⟨1, 0⟩ ⟨0, 1⟩).Matches ⟨0, 1⟩ :=
      ⟨0, by ext <;> simp [sum, scale]⟩
    intro n hn
    interval_cases n
    exacts [hsum, sum_comm 0 ⟨1, 0⟩ ⟨0, 1⟩ ▸ hsum]

theorem isMultiples_four {u : ZMod prime} (h : u ^ 2 = 1) :
    IsMultiples u fun n => multiplesOfFour u (n % 4) := by
  refine .ofCycle 4 (by decide) (by decide) (multiplesOfFour u) rfl rfl ?_ ?_
  · intro n hn
    interval_cases n
    exacts [double_neutral, double_of_sq_eq_one h, double_zero, double_of_sq_eq_one h]
  · have hsum : (sum u ⟨u, 1⟩ ⟨0, 1⟩).Matches ⟨u, 1⟩ := by
      refine ⟨4 * u, ?_⟩
      ext <;> simp only [sum, scale]
      · linear_combination -4 * h
      · linear_combination 4 * u * h
    intro n hn
    interval_cases n
    exacts [sum_neutral u, hsum, sum_comm u ⟨u, 1⟩ ⟨0, 1⟩ ▸ hsum,
      sum_comm u ⟨1, 0⟩ ⟨u, 1⟩ ▸ sum_neutral u]

theorem isMultiples_eight {u w : ZMod prime} (hw : w ^ 2 = 1)
    (h : (u ^ 2 - 1) ^ 2 = w * (4 * u * (u ^ 2 + 486662 * u + 1))) :
    IsMultiples u fun n => multiplesOfEight u w (n % 8) := by
  refine .ofCycle 8 (by decide) (by decide) (multiplesOfEight u w) rfl rfl ?_ ?_
  · have hdouble : (⟨u, 1⟩ : Ratio).double.Matches ⟨w, 1⟩ := by
      refine ⟨4 * u * (u ^ 2 + 486662 * u + 1), ?_⟩
      ext <;> simp only [Ratio.double, scale]
      · linear_combination h
      · ring
    have hinverse : (⟨1, u⟩ : Ratio).double.Matches ⟨w, 1⟩ := by
      refine ⟨4 * u * (u ^ 2 + 486662 * u + 1), ?_⟩
      ext <;> simp only [Ratio.double, scale]
      · linear_combination h
      · ring
    intro n hn
    interval_cases n
    exacts [double_neutral, hdouble, double_of_sq_eq_one hw, hinverse, double_zero, hinverse,
      double_of_sq_eq_one hw, hdouble]
  · have hthird : (sum u ⟨u, 1⟩ ⟨w, 1⟩).Matches ⟨1, u⟩ := by
      refine ⟨4 * (u * w - 1) ^ 2, ?_⟩
      ext <;> simp only [sum, scale]
      · ring
      · linear_combination (4 * u - 4 * u ^ 3) * hw
    have hfifth : (sum u ⟨w, 1⟩ ⟨1, u⟩).Matches ⟨1, u⟩ := by
      refine ⟨4 * (w - u) ^ 2, ?_⟩
      ext <;> simp only [sum, scale]
      · ring
      · linear_combination (4 * u ^ 3 - 4 * u) * hw
    have hseventh : (sum u ⟨1, u⟩ ⟨0, 1⟩).Matches ⟨u, 1⟩ :=
      ⟨4 * u, by ext <;> simp only [sum, scale] <;> ring⟩
    intro n hn
    interval_cases n
    exacts [sum_neutral u, hthird, hfifth, hseventh, sum_comm u ⟨1, u⟩ ⟨0, 1⟩ ▸ hseventh,
      sum_comm u ⟨w, 1⟩ ⟨1, u⟩ ▸ hfifth, sum_comm u ⟨u, 1⟩ ⟨w, 1⟩ ▸ hthird,
      sum_comm u ⟨1, 0⟩ ⟨u, 1⟩ ▸ sum_neutral u]

end

/-- Each kind of point has its multiples. -/
theorem LowOrder.isMultiples {u : ZMod prime} (h : LowOrder u) : ∃ t, IsMultiples u t := by
  cases h with
  | two h => exact h ▸ ⟨_, isMultiples_two⟩
  | four h => exact ⟨_, isMultiples_four h⟩
  | eight w hw h => exact ⟨_, isMultiples_eight hw h⟩

-- ---------------------------------------------------------------------------
-- The ladder
-- ---------------------------------------------------------------------------

/-- The ladder holds the multiple `n` and the next one. -/
structure Ladder.Tracks (t : Nat → Ratio) (n : Nat) (l : Ladder) : Prop where
  first : l.first.Matches (t n)
  second : l.second.Matches (t (n + 1))

/-- One bit of the scalar. -/
theorem Ladder.Tracks.step {u : Nat} {t : Nat → Ratio} (ht : IsMultiples (u : ZMod prime) t)
    {n : Nat} {l : Ladder} (h : l.Tracks t n) (bit : Bool) :
    (l.step u bit).Tracks t (2 * n + bit.toNat) := by
  have hsum := h.first.sum h.second (ht.sum n)
  cases bit with
  | false =>
    constructor
    · show (l.double u).first.Matches _
      rw [first_double]
      exact h.first.double (ht.double n)
    · show (l.double u).second.Matches _
      rw [second_double]
      exact hsum
  | true =>
    -- the two points change places before and after
    constructor
    · show ((l.swap true).double u).second.Matches _
      rw [second_double, Ratio.sum_comm]
      exact hsum
    · show ((l.swap true).double u).first.Matches _
      rw [first_double]
      exact h.second.double (ht.double (n + 1))

/-- All bits of the scalar: the ladder has come to the multiple that they stand for. -/
theorem Ladder.Tracks.run {u : Nat} {t : Nat → Ratio} (ht : IsMultiples (u : ZMod prime) t)
    (k i : Nat) {n : Nat} {l : Ladder} (h : l.Tracks t n) :
    ((bits k i).foldl (Ladder.step u) l).Tracks t (n * 2 ^ i + k % 2 ^ i) := by
  induction i generalizing n l with
  | zero => simpa [bits, Nat.mod_one] using h
  | succ i ih =>
    have hn : (2 * n + (k.testBit i).toNat) * 2 ^ i + k % 2 ^ i =
        n * 2 ^ (i + 1) + k % 2 ^ (i + 1) := by
      rw [Nat.pow_succ, Nat.mod_mul, Nat.toNat_testBit]
      ring
    rw [bits, List.foldl_cons, ← hn]
    exact ih (h.step ht (k.testBit i))

/-- A scalar is a multiple of eight. -/
theorem eight_dvd_scalar (secret : Block 32) : 8 ∣ scalar secret := by
  unfold scalar
  have hpow : 8 ∣ 1 <<< 254 := by decide
  exact (Nat.dvd_add_right hpow).mpr (Nat.dvd_sub_mod _)

/-- **Every multiple by a scalar is zero** for the coordinate of a point of low order. -/
theorem multiply_of_lowOrder {u : Nat} (h : LowOrder (u : ZMod prime)) (secret : Block 32) :
    multiply (scalar secret) u = 0 := by
  obtain ⟨t, ht⟩ := h.isMultiples
  have hstart : Ladder.Tracks t 0 ⟨1, 0, u, 1⟩ := by
    constructor
    · rw [ht.zero]
      exact ⟨1, by ext <;> simp [Ladder.first, Ratio.scale]⟩
    · rw [ht.one]
      exact ⟨1, by ext <;> simp [Ladder.second, Ratio.scale]⟩
  have hend := hstart.run ht (scalar secret) 255
  -- the scalar is a multiple of eight, and so is what its 255 bits stand for
  obtain ⟨m, hm⟩ : 8 ∣ scalar secret % 2 ^ 255 :=
    (Nat.dvd_mod_iff (by decide)).mpr (eight_dvd_scalar secret)
  rw [Nat.zero_mul, Nat.zero_add, hm] at hend
  obtain ⟨c, hc⟩ := hend.first
  have hz := congrArg Ratio.z hc
  rw [Ratio.scale, ht.eight, mul_zero] at hz
  have hinv := inv_of_cast_eq_zero hz
  unfold multiply
  dsimp only
  rw [hinv, mul, Nat.mul_zero, Nat.zero_mod]

-- ---------------------------------------------------------------------------
-- Keys
-- ---------------------------------------------------------------------------

/-- The coordinates of low order: of the point of order two, of those of order four, and of those of
order eight. -/
def lowOrder : List Nat :=
  [0, 1, prime - 1,
    325606250916557431795983626356110631294008115727848805560023387167927233504,
    39382357235489614581723060781553021112529911719440698176882885853963445705823]

/-- Twice the point with this coordinate has the coordinate one. -/
theorem lowOrder_eight {u : Nat}
    (h : square (sub (square u) 1) =
      mul (mul 4 u) (add (add (square u) (mul 486662 u)) 1)) : LowOrder (u : ZMod prime) := by
  have hcast := congrArg (Nat.cast : Nat → ZMod prime) h
  simp only [cast_square, cast_sub, cast_mul, cast_add, Nat.cast_one, Nat.cast_ofNat] at hcast
  exact .eight 1 (one_pow 2) (by rw [one_mul, hcast])

/-- The coordinates of the table belong to points of low order. -/
theorem lowOrder_of_mem {u : Nat} (h : u ∈ lowOrder) : LowOrder (u : ZMod prime) := by
  simp only [lowOrder, List.mem_cons, List.not_mem_nil, or_false] at h
  rcases h with rfl | rfl | rfl | rfl | rfl
  · exact .two Nat.cast_zero
  · exact .four (by rw [Nat.cast_one, one_pow])
  · refine .four ?_
    rw [Nat.cast_sub prime_pos, ZMod.natCast_self, Nat.cast_one]
    ring
  · exact lowOrder_eight (by decide +kernel)
  · exact lowOrder_eight (by decide +kernel)

/-- The key stands for a coordinate of low order: of its 256 bits the last one does not count, and
what the others denote need not be reduced. -/
def IsLowOrderKey (key : Block 32) : Prop :=
  ∃ u ∈ lowOrder, key.toNat % 2 ^ 255 ≡ u [MOD 2 ^ 255 - 19]

/-- With a key of low order, everybody computes zero. -/
theorem agree_of_lowOrder {key : Block 32} (h : IsLowOrderKey key) (secret : Block 32) :
    agree secret key = Block.zero 32 := by
  obtain ⟨u, hu, hkey⟩ := h
  have hcast : ((coordinate key : Nat) : ZMod prime) = u := by
    rw [coordinate, ZMod.natCast_mod]
    exact (ZMod.natCast_eq_natCast_iff _ _ prime).mpr hkey
  have hlow : LowOrder ((coordinate key : Nat) : ZMod prime) := hcast ▸ lowOrder_of_mem hu
  rw [agree, multiply_of_lowOrder hlow]
  rfl

end X25519

open X25519 (IsLowOrderKey agree_of_lowOrder)

/-- So the sender refuses such a key as well. -/
theorem sharedSecret_of_lowOrder {key : Block 32} (h : IsLowOrderKey key) (secret : Block 32) :
    sharedSecret secret key = .error .invalidKey := by
  rw [SealedData.sharedSecret_eq, if_pos (agree_of_lowOrder h secret)]

/-- **Keys of low order are refused for every secret**, in whichever of its encodings such a key
comes. No pair agrees with it on a secret; nothing is sealed for an identity that has it as
encryption key, whatever the plaintext, the sender and the random values; and data that names it as
ephemeral key is not decrypted, whoever receives it. So no message key is ever derived from it. -/
theorem SealedData.low_order_refused {key : Block 32} (h : IsLowOrderKey key) :
    (∀ k : KeyPair, k.agree key = .error .invalidKey) ∧
    (∀ (plaintext : Bytes) (identity : PublicIdentity) (sender : KeyPair) (random : Randomness),
      identity.encryptionKey = key →
      ofPlaintext plaintext identity sender random = .error .invalidKey) ∧
    (∀ (payload : Payload) (identity : PublicIdentity) (sender : KeyPair) (random : Randomness),
      identity.encryptionKey = key →
      SealedMessage.ofPayload payload identity sender random = .error (.crypto .invalidKey)) ∧
    (∀ (d : SealedData) (receiver : KeyPair), d.ephemeralKey = key →
      d.plaintextFor receiver =
        .error (if d.isSigned then .invalidKey else .invalidSignature)) := by
  have hsealed (plaintext : Bytes) (identity : PublicIdentity) (sender : KeyPair)
      (random : Randomness) (hidentity : identity.encryptionKey = key) :
      ofPlaintext plaintext identity sender random = .error .invalidKey := by
    rw [ofPlaintext_eq_invalidKey_iff, hidentity]
    exact agree_of_lowOrder h random.ephemeral
  refine ⟨fun k => sharedSecret_of_lowOrder h k.encryptionSecret, hsealed, ?_, ?_⟩
  · intro payload identity sender random hidentity
    rw [SealedMessage.ofPayload, hsealed _ identity sender random hidentity]
  · rintro d receiver rfl
    cases hsigned : d.isSigned with
    | false => exact plaintextFor_of_unsigned receiver hsigned
    | true =>
      rw [plaintextFor_of_signed receiver hsigned, if_pos (agree_of_lowOrder h _)]
      rfl

/-- The coordinate one, not reduced and with the last bit set, and a coordinate of order eight. -/
theorem SealedData.low_order_refused_sample :
    let one := Block.ofNat 32 (2 ^ 255 + (2 ^ 255 - 19) + 1)
    let eighth := Block.ofNat 32
      39382357235489614581723060781553021112529911719440698176882885853963445705823
    IsLowOrderKey one ∧ Sample.receiver.agree one = .error .invalidKey ∧
      IsLowOrderKey eighth ∧
      ofPlaintext [7] (.ofKeys Sample.receiver.signingKey eighth) Sample.sender Sample.random =
        .error .invalidKey := by
  intro one eighth
  have hone : IsLowOrderKey one := ⟨1, by decide, by decide +kernel⟩
  have heighth : IsLowOrderKey eighth :=
    ⟨_, List.mem_of_getElem? (show X25519.lowOrder[4]? = some _ from rfl), by decide +kernel⟩
  exact ⟨hone, (low_order_refused hone).1 Sample.receiver, heighth,
    (low_order_refused heighth).2.1 [7] _ Sample.sender Sample.random rfl⟩

end Courier
