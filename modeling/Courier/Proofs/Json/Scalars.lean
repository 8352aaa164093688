import Courier.Proofs.Base64
import Courier.Schema.Print
import Courier.Schema.Read
import Mathlib.Data.List.Nodup
import Mathlib.Tactic.SplitIfs

/-!
# Courier — scalars in JSON read back

What is written for a number, a text, a list of bytes or a name is read back as that, and what
stands behind it is left. A number has no end of its own: it is read back only before something
that does not go on with it, as a comma or a closing bracket.

* `Number.read_digits` — numbers of up to 64 bits;
* `readText_escaped` — texts of any characters;
* `readOctets_byteList`, `readBlock_byteList`, `readBase64_quote` — byte strings in all three forms;
* `readName_quote` — one of several names that differ.
-/

namespace Courier.Json

/-! ## Numbers -/

/-- What stands here does not go on with a number. -/
def EndsNumber (cs : List Char) : Prop :=
  ∀ c ∈ cs.head?, isDigit c = false ∧ c ≠ '.' ∧ c ≠ 'e' ∧ c ≠ 'E'

theorem endsNumber_nil : EndsNumber [] := fun _ h => nomatch h

theorem endsNumber_comma (cs : List Char) : EndsNumber (',' :: cs) := by
  rintro c ⟨⟩
  decide

theorem endsNumber_bracket (cs : List Char) : EndsNumber (']' :: cs) := by
  rintro c ⟨⟩
  decide

theorem endsNumber_brace (cs : List Char) : EndsNumber ('\x7d' :: cs) := by
  rintro c ⟨⟩
  decide

/-- The digits of the reader are those of the library. -/
theorem isDigit_eq (c : Char) : isDigit c = c.isDigit := by
  rw [isDigit, Char.isDigit, Bool.eq_iff_iff]
  simp [Char.le_def]

/-- A number is written with digits only. -/
theorem isDigit_of_mem_digits {n : Nat} {c : Char} (h : c ∈ digits n) : isDigit c = true := by
  rw [isDigit_eq]
  exact Nat.isDigit_of_mem_toDigits (by decide) (by decide) h

/-- No digit is a blank. -/
theorem not_isBlank_of_isDigit {c : Char} (h : isDigit c = true) : isBlank c = false := by
  rw [Bool.eq_false_iff]
  intro hblank
  simp only [isBlank, Bool.or_eq_true, decide_eq_true_eq] at hblank
  obtain ((rfl | rfl) | rfl) | rfl := hblank <;> exact absurd h (by decide)

/-- Digits begin with a zero only where the number is zero. -/
theorem digits_eq_cons (n : Nat) : ∃ c cs, digits n = c :: cs ∧ isDigit c = true ∧
    (c = '0' → n = 0 ∧ cs = []) := by
  induction n using Nat.strongRecOn with
  | ind n ih =>
    by_cases hn : n < 10
    · refine ⟨n.digitChar, [], Nat.toDigits_of_lt_base hn, ?_, fun h => ⟨?_, rfl⟩⟩
      · exact isDigit_of_mem_digits (n := n) (by simp [digits, Nat.toDigits_of_lt_base hn])
      · have hall : ∀ m : Fin 10, m.val.digitChar = '0' → m.val = 0 := by decide
        exact hall ⟨n, hn⟩ h
    · -- the first digit is that of the number without its last digit, which is not zero
      obtain ⟨c, cs, hdigits, hc, hzero⟩ := ih (n / 10) (by omega)
      refine ⟨c, cs ++ [(n % 10).digitChar], ?_, hc, fun h => absurd (hzero h).1 (by omega)⟩
      rw [digits, Nat.toDigits_of_base_le (by decide) (by omega), ← digits, hdigits]
      rfl

namespace Number

/-- Further digits make no number smaller. -/
theorem le_ofDigitChars (ds : List Char) (n : Nat) : n ≤ Nat.ofDigitChars 10 ds n := by
  rw [Nat.ofDigitChars_eq_foldl]
  induction ds generalizing n with
  | nil => exact Nat.le_refl n
  | cons d ds ih =>
    rw [List.foldl_cons]
    exact Nat.le_trans (by omega) (ih _)

/-- Digits are taken in as long as their number fits. -/
theorem absorb_eq (ds : List Char) (n : Nat) (h : Nat.ofDigitChars 10 ds n < UInt64.size) :
    absorb n ds = (Nat.ofDigitChars 10 ds n, []) := by
  induction ds generalizing n with
  | nil => rfl
  | cons d ds ih =>
    have hstep : Nat.ofDigitChars 10 (d :: ds) n =
        Nat.ofDigitChars 10 ds (10 * n + digitValue d) := by
      rw [Nat.ofDigitChars_eq_foldl, Nat.ofDigitChars_eq_foldl, List.foldl_cons]
      rfl
    rw [hstep] at h ⊢
    rw [absorb, if_pos (Nat.lt_of_le_of_lt (le_ofDigitChars ds _) h), ih _ h]

/-- All digits of a number are absorbed, as none of them overflows. -/
theorem absorb_digits {n : Nat} (h : n < UInt64.size) : absorb 0 (digits n) = (n, []) := by
  have hn : Nat.ofDigitChars 10 (digits n) 0 = n :=
    Nat.ofDigitChars_toDigits (by decide) (by decide)
  rw [absorb_eq _ _ (hn.symm ▸ h), hn]

/-- A whole number ends before what does not go on with it. -/
theorem afterDigits_eq {n : Nat} {rest : List Char} (h : EndsNumber rest) :
    afterDigits true n 0 rest = .done (natural n) rest := by
  cases rest with
  | nil => rfl
  | cons c rest =>
    obtain ⟨-, hpoint, he, hE⟩ := h c rfl
    simp [afterDigits, hpoint, he, hE]

/-- A number is read back from its digits. -/
theorem read_digits {n : Nat} {rest : List Char} (hn : n < UInt64.size) (h : EndsNumber rest) :
    Number.read (digits n ++ rest) = .done (natural n) rest := by
  obtain ⟨c, cs, hdigits, hc, hzero⟩ := digits_eq_cons n
  have hminus : c ≠ '-' := fun he => absurd (he ▸ hc) (by decide)
  have hread : Number.read (digits n ++ rest) = readUnsigned true (digits n ++ rest) := by
    rw [hdigits, List.cons_append]
    unfold Number.read
    split
    · rename_i heq
      exact absurd (List.cons.inj heq).1 hminus
    · rfl
  rw [hread]
  by_cases h0 : c = '0'
  · -- nothing but a digit could follow the zero
    obtain ⟨rfl, rfl⟩ := hzero h0
    rw [hdigits, h0, List.singleton_append, readUnsigned.eq_def]
    dsimp only
    rw [if_pos rfl]
    cases rest with
    | nil => rfl
    | cons d rest =>
      dsimp only
      rw [if_neg (by simp [(h d rfl).1]), afterDigits_eq h]
  · have htake : (digits n ++ rest).takeWhile isDigit = digits n := by
      rw [List.takeWhile_append_of_pos fun _ => isDigit_of_mem_digits]
      cases rest with
      | nil => simp
      | cons d rest => rw [List.takeWhile_cons_of_neg (by simp [(h d rfl).1]), List.append_nil]
    have hdrop : (digits n ++ rest).dropWhile isDigit = rest := by
      rw [List.dropWhile_append_of_pos fun _ => isDigit_of_mem_digits]
      cases rest with
      | nil => rfl
      | cons d rest => rw [List.dropWhile_cons_of_neg (by simp [(h d rfl).1])]
    rw [hdigits, List.cons_append] at htake hdrop ⊢
    rw [readUnsigned.eq_def]
    dsimp only
    rw [if_neg h0, if_pos hc, htake, hdrop, ← hdigits, absorb_digits hn]
    exact afterDigits_eq h

end Number

/-! ## Where a value begins -/

/-- Nothing is skipped before a character that is no blank. -/
theorem skipBlanks_cons {c : Char} (h : isBlank c = false) (cs : List Char) :
    skipBlanks (c :: cs) = c :: cs := by
  rw [skipBlanks, List.dropWhile_cons_of_neg (by simp [h])]

/-- A value of the expected kind is what the reader for that kind makes of it. -/
theorem expecting_cons {α : Type} {expected : String} {accept : List Char → Option (Reading α)}
    {c : Char} {cs : List Char} (a : α) (rest : List Char) (hc : isBlank c = false)
    (h : accept (c :: cs) = some (.done a rest)) :
    expecting expected accept (c :: cs) = .done a rest := by
  rw [expecting, skipBlanks_cons hc]
  dsimp only
  rw [h]
  rfl

/-- It is read back as a number within a limit that it keeps. -/
theorem readNatural_digits {limit n : Nat} {rest : List Char} (name : String) (hn : n < limit)
    (hsize : n < UInt64.size) (h : EndsNumber rest) :
    readNatural limit name (digits n ++ rest) = .done n rest := by
  obtain ⟨c, cs, hdigits, hc, -⟩ := digits_eq_cons n
  have hread := Number.read_digits hsize h
  rw [hdigits, List.cons_append] at hread ⊢
  refine expecting_cons _ _ (not_isBlank_of_isDigit hc) ?_
  dsimp only
  rw [if_pos (Or.inr hc), hread, Reading.andThen, naturalBelow, if_pos hn]

/-- A byte is read back from its digits. -/
theorem readByte_digits (b : UInt8) {rest : List Char} (h : EndsNumber rest) :
    readByte (digits b.toNat ++ rest) = .done b rest := by
  have hb := b.toNat_lt
  rw [readByte, readNatural_digits "u8" hb (Nat.lt_trans hb (by decide)) h, Reading.map,
    Reading.andThen, UInt8.ofNat_toNat]

/-- A truth value is read back from its word. -/
theorem readFlag_print (b : Bool) (rest : List Char) :
    readFlag ((if b then ['t', 'r', 'u', 'e'] else ['f', 'a', 'l', 's', 'e']) ++ rest) =
      .done b rest := by
  cases b <;> rfl

/-! ## Texts -/

/-- The value of a hexadecimal digit is the number that it was written for. -/
theorem value?_digit {n : Nat} (h : n < 16) : Hex.value? (Hex.digit n) = some n := by
  have hall : ∀ m : Fin 16, Hex.value? (Hex.digit m.val) = some m.val := by decide
  exact hall ⟨n, h⟩

/-- A control is read back from the four digits of its number. -/
theorem readEscape_control {c : Char} (h : c.toNat < 32) (rest : List Char) :
    ∃ shorter, readEscape
      ('u' :: '0' :: '0' :: Hex.digit (c.toNat / 16) :: Hex.digit (c.toNat % 16) :: rest) =
        .char c rest shorter := by
  have hhigh := value?_digit (n := c.toNat / 16) (by omega)
  have hlow := value?_digit (n := c.toNat % 16) (by omega)
  have hvalue : c.toNat / 16 * 16 + c.toNat % 16 = c.toNat := by omega
  have hzero : Hex.value? '0' = some 0 := by decide
  have hnotLow : isLowHalf c.toNat = false := by
    rw [isLowHalf, decide_eq_false_iff_not]
    omega
  have hnotHigh : isHighHalf c.toNat = false := by
    rw [isHighHalf, decide_eq_false_iff_not]
    omega
  refine ⟨by simp only [List.length_cons]; omega, ?_⟩
  simp [readEscape, fourDigits, hzero, hhigh, hlow, hvalue, hnotLow, hnotHigh]

/-- A letter behind a backslash is read as the character that it stands for. -/
theorem readChars_letter (start : List Char) {letter c : Char} (hu : letter ≠ 'u')
    (h : escapeLetter? letter = some c) (rest : List Char) :
    readChars start ('\\' :: letter :: rest) = readChars (c :: start) rest := by
  have hescape : readEscape (letter :: rest) = .char c rest (by simp) := by
    simp [readEscape, hu, h]
  rw [readChars, if_neg (by decide), if_pos rfl, hescape]

/-- An escaped character is read as the character. -/
theorem readChars_escapeChar (start : List Char) (c : Char) (rest : List Char) :
    readChars start (escapeChar c ++ rest) = readChars (c :: start) rest := by
  have hchar {n : Nat} (h : c.toNat = n) : c = Char.ofNat n := by rw [← h, Char.ofNat_toNat]
  rw [escapeChar]
  split_ifs with hquote hslash hb ht hn hf hr hcontrol
  · exact readChars_letter start (by decide) (by rw [hquote]; rfl) rest
  · exact readChars_letter start (by decide) (by rw [hslash]; rfl) rest
  · exact readChars_letter start (by decide) (by rw [hchar hb]; rfl) rest
  · exact readChars_letter start (by decide) (by rw [hchar ht]; rfl) rest
  · exact readChars_letter start (by decide) (by rw [hchar hn]; rfl) rest
  · exact readChars_letter start (by decide) (by rw [hchar hf]; rfl) rest
  · exact readChars_letter start (by decide) (by rw [hchar hr]; rfl) rest
  · obtain ⟨shorter, hescape⟩ := readEscape_control hcontrol rest
    show readChars start ('\\' :: _) = _
    rw [readChars, if_neg (by decide), if_pos rfl]
    exact hescape ▸ rfl
  · show readChars start (c :: rest) = _
    rw [readChars, if_neg hquote, if_neg hslash, if_neg hcontrol]

/-- So is any number of them, up to the closing quotation mark. -/
theorem readChars_flatMap (start cs rest : List Char) :
    readChars start (cs.flatMap escapeChar ++ '"' :: rest) = .done (start.reverse ++ cs) rest := by
  induction cs generalizing start with
  | nil =>
    rw [List.flatMap_nil, List.nil_append, readChars, if_pos rfl, List.append_nil]
  | cons c cs ih =>
    rw [List.flatMap_cons, List.append_assoc, readChars_escapeChar, ih, List.reverse_cons,
      List.append_assoc]
    rfl

/-- A text is read back behind its opening quotation mark. -/
theorem readText_escaped (s : String) (rest : List Char) :
    readText (s.toList.flatMap escapeChar ++ '"' :: rest) = .done s rest := by
  rw [readText, readChars_flatMap, List.reverse_nil, List.nil_append, Reading.map, Reading.andThen,
    String.ofList_toList]

/-- What follows a quoted text follows its closing quotation mark. -/
theorem quote_append (s : String) (rest : List Char) :
    quote s ++ rest = '"' :: (s.toList.flatMap escapeChar ++ '"' :: rest) := by
  simp [quote]

/-- A text is read back from its quoted form. -/
theorem readString_quote (name s : String) (rest : List Char) :
    readString name (quote s ++ rest) = .done s rest := by
  rw [quote_append]
  exact expecting_cons _ _ (by decide) (congrArg some (readText_escaped s rest))

/-! ## Members -/

/-- Members with a comma before each but the first one of all. -/
def joined (first : Bool) : List (List Char) → List Char
  | [] => []
  | m :: ms => (if first then [] else [',']) ++ (m ++ joined false ms)

/-- Items are written with a comma before each of them but the first. -/
theorem commaSeparated_eq (ms : List (List Char)) : commaSeparated ms = joined true ms := by
  cases ms with
  | nil => rfl
  | cons m ms =>
    rw [commaSeparated, joined, if_pos rfl]
    induction ms generalizing m with
    | nil => simp [joined]
    | cons m' ms ih =>
      rw [List.intercalate_cons_cons, ih, joined]
      simp

/-- Behind the last member there is a closing bracket, and behind any other one a comma. -/
theorem endsNumber_joined {tail : List Char} (h : EndsNumber tail) (ms : List (List Char)) :
    EndsNumber (joined false ms ++ tail) := by
  cases ms with
  | nil => exact h
  | cons m ms => exact endsNumber_comma _

/-- Behind an element there must be a comma, and another element behind it. -/
theorem nextElement_comma (cs : List Char) :
    nextElement false (',' :: cs) =
      match skipBlanks cs with
      | ']' :: rest => failNext .trailingComma (']' :: rest)
      | [] => failNext .endInValue []
      | rest => .done true rest := rfl

/-- `nextElement` comes to an element, behind a comma if it is not the first. -/
theorem nextElement_member (first : Bool) {c : Char} (hblank : isBlank c = false) (hend : c ≠ ']')
    (cs : List Char) :
    nextElement first ((if first then [] else [',']) ++ c :: cs) = .done true (c :: cs) := by
  cases first with
  | true =>
    rw [if_pos rfl, List.nil_append, nextElement, nextUnless, skipBlanks_cons hblank]
    exact if_neg hend
  | false =>
    rw [if_neg Bool.false_ne_true, List.singleton_append, nextElement_comma, skipBlanks_cons hblank]
    split
    · rename_i heq
      exact absurd (List.cons.inj heq).1 hend
    · rename_i heq
      cases heq
    · rfl

/-! ## Byte strings -/

section

variable {α : Type} {item : List Char → Reading α} {print : α → List Char}

/-- Elements are read back one by one, as far as each of them is read back before a comma and before
the closing bracket. -/
theorem readElements_joined
    (hbegins : ∀ x, ∃ c cs, print x = c :: cs ∧ isBlank c = false ∧ c ≠ ']')
    (hitem : ∀ x rest, EndsNumber rest → item (print x ++ rest) = .done x rest)
    (xs : List α) (fuel : Nat) (hfuel : xs.length < fuel) (first : Bool) (start : List α)
    (rest : List Char) :
    readElements item fuel first start (joined first (xs.map print) ++ ']' :: rest) =
      .done (start.reverse ++ xs) (']' :: rest) := by
  induction xs generalizing fuel first start with
  | nil =>
    obtain ⟨fuel, rfl⟩ := Nat.exists_eq_add_of_lt hfuel
    rw [List.append_nil]
    rfl
  | cons x xs ih =>
    obtain ⟨fuel, rfl⟩ : ∃ k, fuel = k + 1 := ⟨fuel - 1, by omega⟩
    have hends := endsNumber_joined (endsNumber_bracket rest) (xs.map print)
    obtain ⟨c, cs, hprint, hblank, hend⟩ := hbegins x
    have hread := hitem x _ hends
    have hmore := ih fuel (by simpa using hfuel) false (x :: start)
    rw [hprint, List.cons_append] at hread
    rw [List.map_cons, joined, List.append_assoc, List.append_assoc, hprint, List.cons_append,
      readElements, nextElement_member first hblank hend]
    dsimp only
    rw [hread]
    dsimp only
    rw [hmore, List.reverse_cons, List.append_assoc]
    rfl

/-- As many elements as are asked for are read back. -/
theorem readElementsN_joined (expected : String)
    (hbegins : ∀ x, ∃ c cs, print x = c :: cs ∧ isBlank c = false ∧ c ≠ ']')
    (hitem : ∀ x rest, EndsNumber rest → item (print x ++ rest) = .done x rest)
    (xs start : List α) (rest : List Char) :
    readElementsN item expected xs.length start
        (joined start.isEmpty (xs.map print) ++ ']' :: rest) =
      .done (start.reverse ++ xs) (']' :: rest) := by
  induction xs generalizing start with
  | nil =>
    rw [List.append_nil]
    rfl
  | cons x xs ih =>
    have hends := endsNumber_joined (endsNumber_bracket rest) (xs.map print)
    obtain ⟨c, cs, hprint, hblank, hend⟩ := hbegins x
    have hread := hitem x _ hends
    have hmore := ih (x :: start)
    rw [List.isEmpty_cons] at hmore
    rw [hprint, List.cons_append] at hread
    rw [List.length_cons, List.map_cons, joined, List.append_assoc, List.append_assoc, hprint,
      List.cons_append, readElementsN, nextElement_member _ hblank hend]
    dsimp only
    rw [hread]
    dsimp only
    rw [hmore, List.reverse_cons, List.append_assoc]
    rfl

end

/-- A byte begins with a digit, which is no bracket. -/
theorem digits_begins (b : UInt8) :
    ∃ c cs, digits b.toNat = c :: cs ∧ isBlank c = false ∧ c ≠ ']' := by
  obtain ⟨c, cs, hdigits, hc, -⟩ := digits_eq_cons b.toNat
  exact ⟨c, cs, hdigits, not_isBlank_of_isDigit hc, fun h => absurd (h ▸ hc) (by decide)⟩

/-- What follows a list of bytes follows its closing bracket. -/
theorem byteList_append (bs : Bytes) (rest : List Char) :
    byteList bs ++ rest =
      '[' :: (joined true (bs.map fun b => digits b.toNat) ++ ']' :: rest) := by
  rw [byteList, bracketed, commaSeparated_eq]
  simp

/-- No member is empty, so a text is as long as it has members. -/
theorem length_le_joined {ms : List (List Char)} (h : ∀ m ∈ ms, m ≠ []) (first : Bool) :
    ms.length ≤ (joined first ms).length := by
  induction ms generalizing first with
  | nil => exact Nat.le_refl 0
  | cons m ms ih =>
    have hm := List.length_pos_iff.mpr (h m (List.mem_cons_self ..))
    have hms := ih (fun m hm => h m (List.mem_cons_of_mem _ hm)) false
    rw [joined, List.length_cons, List.length_append, List.length_append]
    omega

theorem closeList_done {α : Type} (a : α) (rest : List Char) :
    closeList (.done a (']' :: rest)) = .done a rest := rfl

/-- A byte string is read back from its list. -/
theorem readOctets_byteList (bs : Bytes) (rest : List Char) :
    readOctets (byteList bs ++ rest) = .done bs rest := by
  rw [byteList_append]
  refine expecting_cons _ _ (by decide) (congrArg some ?_)
  have hne : ∀ m ∈ bs.map fun b => digits b.toNat, m ≠ [] := by
    rintro m hm rfl
    obtain ⟨b, -, hb⟩ := List.mem_map.mp hm
    exact Nat.toDigits_ne_nil hb
  have hlength := length_le_joined hne true
  rw [List.length_map] at hlength
  rw [readElements_joined digits_begins (fun b _ => readByte_digits b) bs _
    (by rw [List.length_append]; omega)]
  exact closeList_done bs rest

/-- A block is made of its bytes. -/
theorem asBlock_bytes {n : Nat} (b : Block n) (rest : List Char) :
    asBlock n b.bytes rest = .done b rest := by
  rw [asBlock, dif_pos b.length_bytes]

/-- A block is read back from its list. -/
theorem readBlock_byteList {n : Nat} (b : Block n) (rest : List Char) :
    readBlock n (byteList b.bytes ++ rest) = .done b rest := by
  rw [byteList_append, readBlock]
  refine expecting_cons _ _ (by decide) (congrArg some ?_)
  have hread := readElementsN_joined s!"an array of length {n}" digits_begins
    (fun b _ => readByte_digits b) b.bytes [] rest
  rw [b.length_bytes, List.isEmpty_nil] at hread
  rw [hread, closeList_done]
  exact asBlock_bytes b rest

/-- A block is read back from its base64 text. -/
theorem readBase64_quote {n : Nat} (b : Block n) (rest : List Char) :
    readBase64 n (quote (Base64.encode b.bytes) ++ rest) = .done b rest := by
  have hdec : Base64.decode (Base64.encode b.bytes) = .ok b.bytes :=
    Base64.decode_eq_ok_iff.mpr rfl
  rw [readBase64, readString_quote, Reading.andThen, hdec]
  exact asBlock_bytes b rest

/-! ## Names -/

/-- Where names differ, each is found at its own place. -/
theorem findFinIdx?_get {names : List String} (h : names.Nodup) (i : Fin names.length) :
    names.findFinIdx? (· == names.get i) = some i := by
  rw [List.findFinIdx?_eq_some_iff]
  refine ⟨by simp, fun j hj => ?_⟩
  rw [beq_iff_eq]
  exact fun heq => absurd (h.get_inj_iff.mp heq) (Fin.ne_of_lt hj)

/-- A name is a text that is among the known ones. -/
theorem readName_cons (names : List String) (cs : List Char) :
    readName names ('"' :: cs) =
      (readText cs).andThen fun s rest =>
        match names.findFinIdx? (· == s) with
        | some i => .done i rest
        | none => failHere (.unknownName s names) rest := rfl

/-- A name is read back as its place among the known ones. -/
theorem readName_quote {names : List String} (h : names.Nodup) (i : Fin names.length)
    (rest : List Char) : readName names (quote (names.get i) ++ rest) = .done i rest := by
  rw [quote_append, readName_cons, readText_escaped, Reading.andThen, findFinIdx?_get h]

/-- A quoted text is read as a bare name. -/
theorem readChoice_bare {α : Type} (bare keyed : List Char → Reading α) (s : String)
    (rest : List Char) : readChoice bare keyed (quote s ++ rest) = bare (quote s ++ rest) := by
  rw [quote_append]
  rfl

/-- An object is read as a name with data. -/
theorem readChoice_brace {α : Type} (bare keyed : List Char → Reading α) (cs : List Char) :
    readChoice bare keyed ('\x7b' :: cs) =
      (keyed cs).andThen fun a rest =>
        match skipBlanks rest with
        | '\x7d' :: rest => .done a rest
        | [] => failHere .endInObject []
        | rest => failHere .expectedValue rest := rfl

/-- A name with data is read up to its closing brace. -/
theorem readChoice_keyed {α : Type} {bare keyed : List Char → Reading α} {cs : List Char} (a : α)
    (rest : List Char) (h : keyed cs = .done a ('\x7d' :: rest)) :
    readChoice bare keyed ('\x7b' :: cs) = .done a rest := by
  rw [readChoice_brace, h]
  rfl

/-- A label is read back as its place among the known ones. -/
theorem readLabel_quote {names : List String} (h : names.Nodup) (i : Fin names.length)
    (rest : List Char) : readLabel names (quote (names.get i) ++ rest) = .done i rest := by
  rw [readLabel, readChoice_bare, readName_quote h]

end Courier.Json
