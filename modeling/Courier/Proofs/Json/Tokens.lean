import Courier.Proofs.Json.Grammar
import Courier.Proofs.Json.Readings
import Mathlib.Data.List.Induction
import Mathlib.Data.List.TakeWhile

/-!
# Courier — texts and numbers read by the grammar

The readers for what has no parts are those of the grammar: they take a text or a number off the
front just where one stands. A number that nobody asked for may be any; of those that are asked for,
only the whole ones of 64 bits ever count, which stand there in their digits.

* `readText_eq_done`, `skipText_eq_done` — texts;
* `Number.unsigned_of_skipUnsigned`, `Number.skipUnsigned_unsigned` — numbers that are passed over;
* `readNatural_eq_done` — whole numbers.
-/

namespace Courier.Json

-- ---------------------------------------------------------------------------
-- Texts
-- ---------------------------------------------------------------------------

/-- The letters behind a backslash are those of the table. -/
theorem escapeLetter?_eq_some_iff {l c : Char} :
    escapeLetter? l = some c ↔ (l, c) ∈ letters := by
  constructor
  · intro h
    unfold escapeLetter? at h
    split_ifs at h with hsame hb hf hn hr ht
    · obtain rfl := Option.some.inj h
      obtain rfl | rfl | rfl := hsame <;> simp [letters]
    all_goals
      obtain rfl := Option.some.inj h
      subst l
      simp [letters]
  · intro h
    simp only [letters, List.mem_cons, Prod.mk.injEq, List.not_mem_nil, or_false] at h
    obtain ⟨rfl, rfl⟩ | ⟨rfl, rfl⟩ | ⟨rfl, rfl⟩ | ⟨rfl, rfl⟩ | ⟨rfl, rfl⟩ | ⟨rfl, rfl⟩ |
      ⟨rfl, rfl⟩ | ⟨rfl, rfl⟩ := h <;> rfl

theorem ne_u_of_mem_letters {l c : Char} (h : (l, c) ∈ letters) : l ≠ 'u' := by
  rintro rfl
  have hletter := escapeLetter?_eq_some_iff.mpr h
  cases hletter

/-- Four hexadecimal digits are read as the number that they stand for. -/
theorem fourDigits_eq_value_iff {cs rest : List Char} {n : Nat} :
    (∃ h, fourDigits cs = .value n rest h) ↔ ∃ ds, IsFour n ds ∧ cs = ds ++ rest := by
  have hno {cs : List Char} (h : rest.length < cs.length) : noDigits cs ≠ .value n rest h := by
    unfold noDigits
    split_ifs <;> (intro heq; cases heq)
  constructor
  · rintro ⟨h, heq⟩
    unfold fourDigits at heq
    split at heq
    · split at heq
      · rename_i hx hy hz hw
        cases heq
        exact ⟨_, .mk hx hy hz hw, rfl⟩
      · exact absurd heq (hno h)
    · exact absurd heq (hno h)
  · rintro ⟨_, ⟨hx, hy, hz, hw⟩, rfl⟩
    refine ⟨by simp only [List.length_cons, List.length_append]; omega, ?_⟩
    simp only [List.cons_append, List.nil_append, fourDigits, hx, hy, hz, hw]

theorem IsFour.read {n : Nat} {ds : List Char} (h : IsFour n ds) (rest : List Char) :
    ∃ hshort, fourDigits (ds ++ rest) = .value n rest hshort :=
  fourDigits_eq_value_iff.mpr ⟨ds, h, rfl⟩

theorem not_isLowHalf {n : Nat} (h : isHighHalf n = true) : isLowHalf n = false := by
  rw [isHighHalf, decide_eq_true_eq] at h
  rw [isLowHalf, decide_eq_false_iff_not]
  omega

/-- A high half is completed by an escaped low half only. -/
theorem lowHalf_eq_char_iff {high : Nat} {cs rest : List Char} {c : Char} :
    (∃ h, lowHalf high cs = .char c rest h) ↔ ∃ low ds, IsFour low ds ∧ isLowHalf low = true ∧
      c = Char.ofNat (joinHalves high low) ∧ cs = '\\' :: 'u' :: (ds ++ rest) := by
  constructor
  · rintro ⟨h, heq⟩
    unfold lowHalf at heq
    split at heq
    · cases heq
    · cases heq
    · split at heq
      · cases heq
      · rename_i n rest' hshort hfour
        split_ifs at heq with hlow
        obtain ⟨rfl, rfl⟩ := Escape.char.inj heq
        obtain ⟨ds, hds, rfl⟩ := fourDigits_eq_value_iff.mp ⟨hshort, hfour⟩
        exact ⟨n, ds, hds, hlow, rfl, rfl⟩
    · cases heq
    · cases heq
  · rintro ⟨low, ds, hds, hlow, hc, rfl⟩
    rw [hc]
    obtain ⟨hshort, hfour⟩ := hds.read rest
    refine ⟨by simp only [List.length_cons, List.length_append]; omega, ?_⟩
    simp [lowHalf, hfour, hlow]

/-- What is read behind a backslash is an escape of the grammar. -/
theorem readEscape_eq_char_iff {cs rest : List Char} {c : Char} :
    (∃ h, readEscape cs = .char c rest h) ↔ ∃ es, Escapes c es ∧ cs = es ++ rest := by
  constructor
  · rintro ⟨h, heq⟩
    unfold readEscape at heq
    split at heq
    · cases heq
    · split_ifs at heq with hu
      · subst hu
        split at heq
        · cases heq
        · rename_i n rest' hshort hfour
          obtain ⟨ds, hds, rfl⟩ := fourDigits_eq_value_iff.mp ⟨hshort, hfour⟩
          split_ifs at heq with hlow hhigh
          · split at heq
            · rename_i hpair
              obtain ⟨rfl, rfl⟩ := Escape.char.inj heq
              obtain ⟨low, ds', hds', hlow', hc, rfl⟩ := lowHalf_eq_char_iff.mp ⟨_, hpair⟩
              rw [hc]
              exact ⟨_, .pair hds hds' hhigh hlow', by simp⟩
            · cases heq
          · cases heq
            rw [Bool.not_eq_true] at hlow hhigh
            exact ⟨_, .number hds hlow hhigh, rfl⟩
      · split at heq
        · rename_i hletter
          cases heq
          exact ⟨_, .letter (escapeLetter?_eq_some_iff.mp hletter), rfl⟩
        · cases heq
  · rintro ⟨es, hes, rfl⟩
    cases hes with
    | letter hl =>
      refine ⟨by simp, ?_⟩
      simp [readEscape, ne_u_of_mem_letters hl, escapeLetter?_eq_some_iff.mpr hl]
    | number hds hlow hhigh =>
      obtain ⟨hshort, hfour⟩ := hds.read rest
      refine ⟨by simp only [List.length_cons, List.length_append]; omega, ?_⟩
      simp [readEscape, hfour, hlow, hhigh]
    | @pair high low ds ds' hds hds' hhigh hlow =>
      obtain ⟨hshort, hfour⟩ := hds.read ('\\' :: 'u' :: (ds' ++ rest))
      obtain ⟨hshort', hpair⟩ : ∃ hshort', lowHalf high ('\\' :: 'u' :: (ds' ++ rest)) =
          .char (Char.ofNat (joinHalves high low)) rest hshort' :=
        lowHalf_eq_char_iff.mpr ⟨low, ds', hds', hlow, rfl, rfl⟩
      have hnotLow := not_isLowHalf hhigh
      have hcs : 'u' :: (ds ++ '\\' :: 'u' :: ds') ++ rest =
          'u' :: (ds ++ '\\' :: 'u' :: (ds' ++ rest)) := by simp
      rw [hcs]
      refine ⟨by simp only [List.length_cons, List.length_append]; omega, ?_⟩
      simp [readEscape, hfour, hnotLow, hhigh, hpair]

/-- What is skipped behind a backslash is one as well, with halves that may stand alone. -/
theorem skipEscape_eq_char_iff {cs rest : List Char} :
    (∃ c h, skipEscape cs = .char c rest h) ↔ ∃ es, IsEscape es ∧ cs = es ++ rest := by
  constructor
  · rintro ⟨c, h, heq⟩
    unfold skipEscape at heq
    split at heq
    · cases heq
    · split_ifs at heq with hu
      · subst hu
        split at heq
        · cases heq
        · rename_i hshort hfour
          cases heq
          obtain ⟨ds, hds, rfl⟩ := fourDigits_eq_value_iff.mp ⟨hshort, hfour⟩
          exact ⟨_, .number hds, rfl⟩
      · split at heq
        · rename_i hletter
          cases heq
          exact ⟨_, .letter (escapeLetter?_eq_some_iff.mp hletter), rfl⟩
        · cases heq
  · rintro ⟨es, hes, rfl⟩
    cases hes with
    | letter hl =>
      have hletter := escapeLetter?_eq_some_iff.mpr hl
      exact ⟨_, by simp, by simp [skipEscape, ne_u_of_mem_letters hl, hletter]; rfl⟩
    | @number n ds hds =>
      obtain ⟨hshort, hfour⟩ := hds.read rest
      have hless : rest.length < ('u' :: ds ++ rest).length := by
        simp only [List.length_cons, List.length_append]
        omega
      exact ⟨_, hless, by simp [skipEscape, hfour]; rfl⟩

/-- A text is read from any body that spells it. -/
theorem readChars_spells {t body : List Char} (h : Spells t body) (start rest : List Char) :
    readChars start (body ++ '"' :: rest) = .done (start.reverse ++ t) rest := by
  induction h generalizing start with
  | nil => rw [List.nil_append, readChars, if_pos rfl, List.append_nil]
  | plain hc _ ih =>
    rw [List.cons_append, readChars, if_neg hc.notQuote, if_neg hc.notBackslash,
      if_neg (Nat.not_lt.mpr hc.notControl), ih]
    simp
  | escape hes _ ih =>
    obtain ⟨hshort, hescape⟩ := readEscape_eq_char_iff.mpr ⟨_, hes, rfl⟩
    rw [List.cons_append, List.append_assoc, readChars, if_neg (by decide), if_pos rfl, hescape]
    dsimp only
    rw [ih]
    simp

/-- What is read as a text is spelled by what was read. -/
theorem spells_of_readChars {start cs t rest : List Char} (h : readChars start cs = .done t rest) :
    ∃ t' body, Spells t' body ∧ cs = body ++ '"' :: rest ∧ t = start.reverse ++ t' := by
  fun_induction readChars start cs with
  | case1 => cases h
  | case2 start rest' =>
    cases h
    exact ⟨[], [], .nil, rfl, by simp⟩
  | case3 start rest' e more hshort hescape _ ih =>
    obtain ⟨t', body, hbody, rfl, rfl⟩ := ih h
    obtain ⟨es, hes, rfl⟩ := readEscape_eq_char_iff.mp ⟨_, hescape⟩
    exact ⟨_, _, .escape hes hbody, by simp, by simp⟩
  | case4 => cases h
  | case5 => cases h
  | case6 start c rest' hquote hslash hcontrol ih =>
    obtain ⟨t', body, hbody, rfl, rfl⟩ := ih h
    exact ⟨_, _, .plain ⟨hquote, hslash, Nat.not_lt.mp hcontrol⟩ hbody, rfl, by simp⟩

/-- A text is read just from what spells it. -/
theorem readText_eq_done {cs rest : List Char} {s : String} :
    readText cs = .done s rest ↔ ∃ body, Spells s.toList body ∧ cs = body ++ '"' :: rest := by
  rw [readText, Reading.map_eq_done]
  constructor
  · rintro ⟨t, h, rfl⟩
    obtain ⟨t', body, hbody, rfl, rfl⟩ := spells_of_readChars h
    exact ⟨body, by simpa using hbody, rfl⟩
  · rintro ⟨body, hbody, rfl⟩
    exact ⟨_, readChars_spells hbody [] rest, by simp⟩

/-- A text is skipped just where one stands. -/
theorem skipText_eq_done {cs rest : List Char} :
    skipText cs = .done () rest ↔ ∃ body, IsText body ∧ cs = body ++ '"' :: rest := by
  constructor
  · intro h
    fun_induction skipText cs with
    | case1 => cases h
    | case2 rest' =>
      cases h
      exact ⟨[], .nil, rfl⟩
    | case3 rest' e more hshort hescape _ ih =>
      obtain ⟨body, hbody, rfl⟩ := ih h
      obtain ⟨es, hes, rfl⟩ := skipEscape_eq_char_iff.mp ⟨_, _, hescape⟩
      exact ⟨_, .escape hes hbody, by simp⟩
    | case4 => cases h
    | case5 => cases h
    | case6 c rest' hquote hslash hcontrol ih =>
      obtain ⟨body, hbody, rfl⟩ := ih h
      exact ⟨_, .plain ⟨hquote, hslash, Nat.not_lt.mp hcontrol⟩ hbody, rfl⟩
  · rintro ⟨body, hbody, rfl⟩
    induction hbody with
    | nil => rw [List.nil_append, skipText, if_pos rfl]
    | plain hc _ ih =>
      rw [List.cons_append, skipText, if_neg hc.notQuote, if_neg hc.notBackslash,
        if_neg (Nat.not_lt.mpr hc.notControl), ih]
    | escape hes _ ih =>
      obtain ⟨_, hshort, hescape⟩ := skipEscape_eq_char_iff.mpr ⟨_, hes, rfl⟩
      rw [List.cons_append, List.append_assoc, skipText, if_neg (by decide), if_pos rfl, hescape]
      exact ih

-- ---------------------------------------------------------------------------
-- Numbers
-- ---------------------------------------------------------------------------

/-- Behind a number there is no digit. -/
theorem EndsNumber.notDigit {rest : List Char} (h : EndsNumber rest) :
    ∀ c ∈ rest.head?, isDigit c = false := fun c hc => (h c hc).1

/-- Digits end where no digit follows. -/
theorem dropWhile_isDigit {ds rest : List Char} (h : AreDigits ds)
    (hrest : ∀ c ∈ rest.head?, isDigit c = false) : (ds ++ rest).dropWhile isDigit = rest := by
  rw [List.dropWhile_append_of_pos h]
  cases rest with
  | nil => rfl
  | cons c rest => rw [List.dropWhile_cons_of_neg (by simp [hrest c rfl])]

/-- So all of them are taken. -/
theorem takeWhile_isDigit {ds rest : List Char} (h : AreDigits ds)
    (hrest : ∀ c ∈ rest.head?, isDigit c = false) : (ds ++ rest).takeWhile isDigit = ds := by
  rw [List.takeWhile_append_of_pos h]
  cases rest with
  | nil => rw [List.takeWhile_nil, List.append_nil]
  | cons c rest => rw [List.takeWhile_cons_of_neg (by simp [hrest c rfl]), List.append_nil]

/-- Digits end before the first character that is none. -/
theorem exists_digits (cs : List Char) :
    ∃ ds, AreDigits ds ∧ cs.takeWhile isDigit = ds ∧ cs = ds ++ cs.dropWhile isDigit :=
  ⟨_, fun _ => List.mem_takeWhile_imp, rfl, List.takeWhile_append_dropWhile.symm⟩

namespace Number

/-- What is skipped as an exponent is one. -/
theorem exponent_of_skipExponent {cs rest : List Char} (h : skipExponent cs = .done () rest) :
    ∃ sign c ds, IsSign sign ∧ isDigit c = true ∧ AreDigits ds ∧
      cs = sign ++ c :: (ds ++ rest) := by
  have hdigits (c : Char) (more : List Char)
      (h : (if isDigit c then .done () (more.dropWhile isDigit)
        else failNext .invalidNumber (c :: more) : Reading Unit) = .done () rest) :
      ∃ ds, isDigit c = true ∧ AreDigits ds ∧ more = ds ++ rest := by
    split_ifs at h with hc
    · cases h
      obtain ⟨ds, hds, -, hmore⟩ := exists_digits more
      exact ⟨ds, hc, hds, hmore⟩
    · cases h
  unfold skipExponent at h
  split at h <;> dsimp only at h
  · split at h
    · obtain ⟨ds, hc, hds, rfl⟩ := hdigits _ _ h
      exact ⟨_, _, ds, .plus, hc, hds, rfl⟩
    · cases h
  · split at h
    · obtain ⟨ds, hc, hds, rfl⟩ := hdigits _ _ h
      exact ⟨_, _, ds, .minus, hc, hds, rfl⟩
    · cases h
  · split at h
    · obtain ⟨ds, hc, hds, rfl⟩ := hdigits _ _ h
      exact ⟨_, _, ds, .none, hc, hds, rfl⟩
    · cases h

/-- An exponent is skipped. -/
theorem skipExponent_exponent {sign ds rest : List Char} {c : Char} (hsign : IsSign sign)
    (hc : isDigit c = true) (hds : AreDigits ds) (hrest : EndsNumber rest) :
    skipExponent (sign ++ c :: (ds ++ rest)) = .done () rest := by
  have hdrop := dropWhile_isDigit hds hrest.notDigit
  cases hsign with
  | none =>
    have hplus : c ≠ '+' := fun he => absurd (he ▸ hc) (by decide)
    have hminus : c ≠ '-' := fun he => absurd (he ▸ hc) (by decide)
    simp [skipExponent, hplus, hminus, hc, hdrop]
  | plus => simp [skipExponent, hc, hdrop]
  | minus => simp [skipExponent, hc, hdrop]

/-- What is skipped behind the digits is a fraction and an exponent, both of which may be missing.
-/
theorem tail_of_skipTail {cs rest : List Char} (h : skipTail cs = .done () rest) :
    ∃ fraction exponent, IsFraction fraction ∧ IsExponent exponent ∧
      cs = fraction ++ (exponent ++ rest) := by
  have hexponent {c : Char} {more : List Char} (hc : c = 'e' ∨ c = 'E')
      (h : skipExponent more = .done () rest) :
      ∃ exponent, IsExponent exponent ∧ c :: more = exponent ++ rest := by
    obtain ⟨sign, d, ds, hsign, hd, hds, rfl⟩ := exponent_of_skipExponent h
    exact ⟨_, .letter hc hsign hd hds, by simp⟩
  unfold skipTail at h
  split at h
  · rename_i more
    split_ifs at h with hempty
    · cases h
    obtain ⟨ds, hds, htake, hmore⟩ := exists_digits more
    cases ds with
    | nil => exact absurd (List.isEmpty_iff.mpr htake) hempty
    | cons d ds =>
      obtain ⟨hd, hds⟩ := List.forall_mem_cons.mp hds
      split at h
      · rename_i c after hdrop
        rw [hdrop] at hmore
        split_ifs at h with hc
        · obtain ⟨exponent, hexp, heq⟩ := hexponent hc h
          exact ⟨_, exponent, .point hd hds, hexp, by rw [hmore, heq]; rfl⟩
        · cases h
          exact ⟨_, [], .point hd hds, .none, by rw [hmore]; rfl⟩
      · rename_i hdrop
        cases h
        exact ⟨_, [], .point hd hds, .none, by rw [hmore, hdrop]; rfl⟩
  · split_ifs at h with hc
    · obtain ⟨exponent, hexp, heq⟩ := hexponent hc h
      exact ⟨[], exponent, .none, hexp, heq⟩
    · cases h
      exact ⟨[], [], .none, .none, rfl⟩
  · cases h
    exact ⟨[], [], .none, .none, rfl⟩

/-- An exponent does not begin with a digit. -/
theorem notDigit_exponent {exponent rest : List Char} (hexponent : IsExponent exponent)
    (hrest : EndsNumber rest) : ∀ c ∈ (exponent ++ rest).head?, isDigit c = false := by
  cases hexponent with
  | none => exact hrest.notDigit
  | letter he => obtain rfl | rfl := he <;> rintro _ ⟨⟩ <;> rfl

theorem notDigit_tail {fraction exponent rest : List Char} (hfraction : IsFraction fraction)
    (hexponent : IsExponent exponent) (hrest : EndsNumber rest) :
    ∀ c ∈ (fraction ++ (exponent ++ rest)).head?, isDigit c = false := by
  cases hfraction with
  | none =>
    rw [List.nil_append]
    exact notDigit_exponent hexponent hrest
  | point => rintro _ ⟨⟩; rfl

/-- A fraction and an exponent are skipped. -/
theorem skipTail_tail {fraction exponent rest : List Char} (hfraction : IsFraction fraction)
    (hexponent : IsExponent exponent) (hrest : EndsNumber rest) :
    skipTail (fraction ++ (exponent ++ rest)) = .done () rest := by
  have hletter {sign ds : List Char} {c : Char} (hsign : IsSign sign) (hc : isDigit c = true)
      (hds : AreDigits ds) : skipExponent ((sign ++ c :: ds) ++ rest) = .done () rest := by
    rw [List.append_assoc]
    exact skipExponent_exponent hsign hc hds hrest
  cases hfraction with
  | none =>
    cases hexponent with
    | none =>
      cases rest with
      | nil => rfl
      | cons c rest =>
        obtain ⟨-, hpoint, he, hE⟩ := hrest c rfl
        simp [skipTail, he, hE]
    | letter he hsign hc hds =>
      rw [List.nil_append, List.cons_append]
      obtain rfl | rfl := he <;> exact hletter hsign hc hds
  | @point c ds hc hds =>
    have hdigits : AreDigits (c :: ds) := List.forall_mem_cons.mpr ⟨hc, hds⟩
    have htake := takeWhile_isDigit hdigits (notDigit_exponent hexponent hrest)
    have hdrop := dropWhile_isDigit hdigits (notDigit_exponent hexponent hrest)
    rw [List.cons_append, skipTail, htake, hdrop, if_neg (by simp)]
    cases hexponent with
    | none =>
      cases rest with
      | nil => rfl
      | cons c rest =>
        obtain ⟨-, -, he, hE⟩ := hrest c rfl
        simp [he, hE]
    | letter he hsign hc hds =>
      rw [List.cons_append]
      dsimp only
      rw [if_pos he]
      exact hletter hsign hc hds

/-- What is skipped as a number without sign is one. -/
theorem unsigned_of_skipUnsigned {cs rest : List Char} (h : skipUnsigned cs = .done () rest) :
    ∃ v, IsUnsigned v ∧ cs = v ++ rest := by
  unfold skipUnsigned at h
  split at h
  · cases h
  · split_ifs at h with hzero hc
    · subst hzero
      split at h
      · split_ifs at h
        · cases h
        · obtain ⟨fraction, exponent, hfraction, hexponent, heq⟩ := tail_of_skipTail h
          exact ⟨_, .mk .zero hfraction hexponent, by rw [heq]; simp⟩
      · cases h
        exact ⟨_, .mk .zero .none .none, rfl⟩
    · rename_i c more
      obtain ⟨ds, hds, -, hmore⟩ := exists_digits more
      obtain ⟨fraction, exponent, hfraction, hexponent, heq⟩ := tail_of_skipTail h
      exact ⟨_, .mk (.digits hc hzero hds) hfraction hexponent, by rw [hmore, heq]; simp⟩
    · cases h

/-- A number without sign is skipped. -/
theorem skipUnsigned_unsigned {v rest : List Char} (hv : IsUnsigned v) (hrest : EndsNumber rest) :
    skipUnsigned (v ++ rest) = .done () rest := by
  obtain ⟨hwhole, hfraction, hexponent⟩ := hv
  have htail := skipTail_tail hfraction hexponent hrest
  have hnotDigit := notDigit_tail hfraction hexponent hrest
  rw [List.append_assoc, List.append_assoc]
  cases hwhole with
  | zero =>
    rw [List.singleton_append, skipUnsigned.eq_def]
    dsimp only
    rw [if_pos rfl]
    split
    · rename_i d more heq
      rw [heq] at hnotDigit
      rw [if_neg (by simp [hnotDigit d rfl])]
      exact htail
    · rename_i heq
      rw [heq] at htail
      cases htail
      rfl
  | @digits c ds hc hzero hds =>
    rw [List.cons_append, skipUnsigned.eq_def]
    dsimp only
    rw [if_neg hzero, if_pos hc, dropWhile_isDigit hds hnotDigit]
    exact htail

-- ---------------------------------------------------------------------------
-- Whole numbers
-- ---------------------------------------------------------------------------

/-- The value of a digit is the number that it is written for. -/
theorem digitValue_lt {c : Char} (h : isDigit c = true) :
    digitValue c < 10 ∧ (digitValue c).digitChar = c := by
  obtain ⟨hlow, hhigh⟩ : 48 ≤ c.toNat ∧ c.toNat ≤ 57 := by
    simpa [isDigit, Char.le_def, UInt32.le_iff_toNat_le] using h
  have hvalue : digitValue c < 10 := by
    rw [digitValue]
    omega
  refine ⟨hvalue, Char.toNat_inj.mp ?_⟩
  rw [Nat.toNat_digitChar_of_lt_ten hvalue, digitValue]
  omega

/-- Digits are those of their number, unless zeros stand in front of others. -/
theorem digits_ofDigitChars {ds : List Char} (h : IsWhole ds) :
    digits (Nat.ofDigitChars 10 ds 0) = ds := by
  cases h with
  | zero => rfl
  | @digits c cs hc hzero hcs =>
    obtain ⟨hlt, hchar⟩ := digitValue_lt hc
    have hfirst : Nat.ofDigitChars 10 (c :: cs) 0 = Nat.ofDigitChars 10 cs (digitValue c) := by
      rw [Nat.ofDigitChars_cons, Nat.mul_zero, Nat.zero_add]
      rfl
    have hpos : 0 < digitValue c := by
      refine Nat.pos_of_ne_zero fun h => hzero ?_
      rw [← hchar, h]
      rfl
    rw [hfirst]
    -- the last digit counts once, and what stands before it ten times
    induction cs using List.reverseRecOn with
    | nil => rw [Nat.ofDigitChars_nil, digits, Nat.toDigits_of_lt_base hlt, hchar]
    | append_singleton cs d ih =>
      obtain ⟨hcs, hd⟩ := List.forall_mem_append.mp hcs
      obtain ⟨hdlt, hdchar⟩ := digitValue_lt (hd d (List.mem_singleton_self d))
      have hle := le_ofDigitChars cs (digitValue c)
      have hlast : Nat.ofDigitChars 10 (cs ++ [d]) (digitValue c) =
          10 * Nat.ofDigitChars 10 cs (digitValue c) + digitValue d := by
        rw [Nat.ofDigitChars_append, Nat.ofDigitChars_cons, Nat.ofDigitChars_nil]
        rfl
      have ih := ih hcs (by rw [Nat.ofDigitChars_cons, Nat.mul_zero, Nat.zero_add]; rfl)
      have hdiv : (10 * Nat.ofDigitChars 10 cs (digitValue c) + digitValue d) / 10 =
          Nat.ofDigitChars 10 cs (digitValue c) := by omega
      have hmod : (10 * Nat.ofDigitChars 10 cs (digitValue c) + digitValue d) % 10 =
          digitValue d := by omega
      rw [hlast, digits, Nat.toDigits_of_base_le (by decide) (by omega), hdiv, hmod, hdchar,
        ← digits, ih, List.cons_append]

/-- Digits that were all taken in have a number that fits. -/
theorem absorb_eq_nil {n m : Nat} {ds : List Char} (hn : n < UInt64.size)
    (h : absorb n ds = (m, [])) : m = Nat.ofDigitChars 10 ds n ∧ m < UInt64.size := by
  induction ds generalizing n with
  | nil =>
    cases h
    exact ⟨rfl, hn⟩
  | cons d ds ih =>
    rw [absorb] at h
    split_ifs at h with hfits
    · obtain ⟨hm, hlt⟩ := ih hfits h
      exact ⟨by rw [hm, Nat.ofDigitChars_cons]; rfl, hlt⟩
    · cases (Prod.mk.inj h).2

/-- A number with a fraction or an exponent is read as no whole number. -/
theorem ofParts_ne_natural {positive : Bool} {significand n : Nat} {e : Int}
    {cs rest : List Char} : ofParts positive significand e cs ≠ .done (natural n) rest := by
  unfold ofParts
  split
  · nofun
  · nofun

theorem exponentPart_ne_natural {positive : Bool} {significand n : Nat} {e : Int}
    {cs rest : List Char} : exponentPart positive significand e cs ≠ .done (natural n) rest := by
  intro h
  unfold exponentPart at h
  dsimp only at h
  split at h
  · cases h
  · split at h
    · obtain ⟨e?, more, -, h⟩ := Reading.andThen_eq_done.mp h
      cases e? with
      | none => cases h
      | some e' => exact ofParts_ne_natural h
    · cases h

theorem fractionPart_ne_natural {positive : Bool} {significand n : Nat} {e : Int}
    {cs rest : List Char} : fractionPart positive significand e cs ≠ .done (natural n) rest := by
  intro h
  unfold fractionPart at h
  dsimp only at h
  split_ifs at h
  · split at h <;> cases h
  · split at h
    · split_ifs at h
      · exact exponentPart_ne_natural h
      · exact ofParts_ne_natural h
    · exact ofParts_ne_natural h

/-- A whole number has neither sign nor fraction nor exponent, and all its digits fit. -/
theorem afterDigits_eq_natural {positive : Bool} {significand dropped n : Nat}
    {cs rest : List Char}
    (h : afterDigits positive significand dropped cs = .done (natural n) rest) :
    positive = true ∧ dropped = 0 ∧ significand = n ∧ cs = rest := by
  have hwhole {cs : List Char} (h : (if dropped ≠ 0 then ofParts positive significand dropped cs
      else if positive then .done (natural significand) cs
      else if 0 < significand ∧ significand ≤ (1 <<< 63) then .done (negative significand) cs
      else .done (decimal (-(UInt64.ofNat significand).toFloat)) cs) = .done (natural n) rest) :
      positive = true ∧ dropped = 0 ∧ significand = n ∧ cs = rest := by
    split_ifs at h with hdropped hpositive
    · exact absurd h ofParts_ne_natural
    · cases h
      exact ⟨hpositive, not_not.mp hdropped, rfl, rfl⟩
    · cases h
    · cases h
  unfold afterDigits at h
  dsimp only at h
  split at h
  · split at h
    · exact absurd h fractionPart_ne_natural
    · split at h
      · exact absurd h exponentPart_ne_natural
      · exact hwhole h
  · exact hwhole h

/-- A whole number without sign is read from its digits only. -/
theorem readUnsigned_eq_natural {positive : Bool} {n : Nat} {cs rest : List Char}
    (h : readUnsigned positive cs = .done (natural n) rest) :
    positive = true ∧ n < UInt64.size ∧ cs = digits n ++ rest := by
  unfold readUnsigned at h
  split at h
  · cases h
  · split_ifs at h with hzero hdigit
    · subst hzero
      have hafter {more : List Char} (h : afterDigits positive 0 0 more = .done (natural n) rest) :
          positive = true ∧ n < UInt64.size ∧ '0' :: more = digits n ++ rest := by
        obtain ⟨hpositive, -, rfl, rfl⟩ := afterDigits_eq_natural h
        exact ⟨hpositive, by decide, rfl⟩
      split at h
      · split_ifs at h
        · cases h
        · exact hafter h
      · exact hafter h
    · rename_i c more
      obtain ⟨hpositive, hdropped, hn, hmore⟩ := afterDigits_eq_natural h
      obtain ⟨ds, hds, htake, heq⟩ := exists_digits more
      rw [List.takeWhile_cons_of_pos hdigit, htake] at hdropped hn
      rw [List.dropWhile_cons_of_pos hdigit] at hmore
      rw [hmore] at heq
      have habsorb : absorb 0 (c :: ds) = (n, []) :=
        Prod.ext hn (List.eq_nil_of_length_eq_zero hdropped)
      obtain ⟨rfl, hlt⟩ := absorb_eq_nil (by decide) habsorb
      refine ⟨hpositive, hlt, ?_⟩
      rw [digits_ofDigitChars (.digits hdigit hzero hds), heq, List.cons_append]
    · cases h

/-- A whole number is read from its digits only. -/
theorem read_eq_natural {n : Nat} {cs rest : List Char}
    (h : Number.read cs = .done (natural n) rest) : n < UInt64.size ∧ cs = digits n ++ rest := by
  unfold Number.read at h
  split at h
  · exact absurd (readUnsigned_eq_natural h).1 Bool.false_ne_true
  · exact (readUnsigned_eq_natural h).2

end Number

/-- A whole number that is read stands there in its digits. -/
theorem readNatural_eq_done {limit n : Nat} {name : String} {cs rest : List Char}
    (h : readNatural limit name cs = .done n rest) :
    n < limit ∧ ∃ ws, IsBlanks ws ∧ cs = ws ++ (digits n ++ rest) := by
  obtain ⟨-, haccept⟩ := expecting_eq_done.mp h
  obtain ⟨ws, hws, hcs, -⟩ := skipBlanks_spec cs
  split at haccept
  · split_ifs at haccept
    obtain ⟨number, more, hread, hbelow⟩ := Reading.andThen_eq_done.mp (Option.some.inj haccept)
    cases number with
    | natural m =>
      rw [naturalBelow] at hbelow
      split_ifs at hbelow with hlimit
      cases hbelow
      obtain ⟨-, hdigits⟩ := Number.read_eq_natural hread
      exact ⟨hlimit, ws, hws, hcs.trans (congrArg (ws ++ ·) ‹_›)⟩
    | negative => cases hbelow
    | decimal => cases hbelow
  · cases haccept

end Courier.Json
