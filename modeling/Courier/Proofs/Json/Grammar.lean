import Courier.Proofs.Json.Scalars

/-!
# Courier — the grammar of JSON

What a JSON text is, without any reader: blanks, texts with their escapes, numbers, and values of any
depth. Elements stand between the brackets of a list in the same way as members between those of an
object, so one relation serves both (`Separated`).

* `Spells`, `IsText` — what stands between quotation marks: for a text of characters, and for any
  text at all, whose escapes need not denote characters;
* `IsNumber` — a number with sign, fraction and exponent;
* `Separated` — what stands between brackets;
* `IsValue` — a value of any kind;
* `IsObject`, `IsList` — an object with the values of its keys, a list with its elements.
-/

namespace Courier.Json

-- ---------------------------------------------------------------------------
-- Blanks
-- ---------------------------------------------------------------------------

def IsBlanks (ws : List Char) : Prop := ∀ c ∈ ws, isBlank c = true

instance (ws : List Char) : Decidable (IsBlanks ws) :=
  decidable_of_iff (ws.all isBlank = true) List.all_eq_true

theorem isBlanks_nil : IsBlanks [] := fun _ h => nomatch h

/-- Blanks at the front are skipped. -/
theorem skipBlanks_append {ws : List Char} (h : IsBlanks ws) (cs : List Char) :
    skipBlanks (ws ++ cs) = skipBlanks cs :=
  List.dropWhile_append_of_pos h

theorem isBlanks_cons {c : Char} {ws : List Char} :
    IsBlanks (c :: ws) ↔ isBlank c = true ∧ IsBlanks ws := List.forall_mem_cons

/-- Blanks end before the first character that is none. -/
theorem skipBlanks_spec (cs : List Char) :
    ∃ ws, IsBlanks ws ∧ cs = ws ++ skipBlanks cs ∧
      ∀ c ∈ (skipBlanks cs).head?, isBlank c = false := by
  induction cs with
  | nil => exact ⟨[], isBlanks_nil, rfl, fun _ h => nomatch h⟩
  | cons c cs ih =>
    by_cases hc : isBlank c = true
    · obtain ⟨ws, hws, hcs, hhead⟩ := ih
      have hskip : skipBlanks (c :: cs) = skipBlanks cs := List.dropWhile_cons_of_pos hc
      rw [hskip]
      exact ⟨c :: ws, isBlanks_cons.mpr ⟨hc, hws⟩, congrArg (c :: ·) hcs, hhead⟩
    · rw [Bool.not_eq_true] at hc
      rw [skipBlanks_cons hc]
      refine ⟨[], isBlanks_nil, rfl, ?_⟩
      rintro _ ⟨⟩
      exact hc

/-- Nothing is left just if all were blanks. -/
theorem skipBlanks_eq_nil_iff {cs : List Char} : skipBlanks cs = [] ↔ IsBlanks cs := by
  constructor
  · intro h
    obtain ⟨ws, hws, hcs, -⟩ := skipBlanks_spec cs
    rw [h, List.append_nil] at hcs
    rwa [hcs]
  · intro h
    have hskip := skipBlanks_append h []
    rwa [List.append_nil] at hskip

/-- What is left begins with the first character that is no blank. -/
theorem skipBlanks_eq_cons_iff {cs rest : List Char} {c : Char} :
    skipBlanks cs = c :: rest ↔
      isBlank c = false ∧ ∃ ws, IsBlanks ws ∧ cs = ws ++ c :: rest := by
  constructor
  · intro h
    obtain ⟨ws, hws, hcs, hhead⟩ := skipBlanks_spec cs
    rw [h] at hcs hhead
    exact ⟨hhead c rfl, ws, hws, hcs⟩
  · rintro ⟨hc, ws, hws, rfl⟩
    rw [skipBlanks_append hws, skipBlanks_cons hc]

-- ---------------------------------------------------------------------------
-- Texts
-- ---------------------------------------------------------------------------

/-- The letters that stand for a character behind a backslash. -/
def letters : List (Char × Char) :=
  [('"', '"'), ('\\', '\\'), ('/', '/'), ('b', Char.ofNat 8), ('f', Char.ofNat 12),
    ('n', Char.ofNat 10), ('r', Char.ofNat 13), ('t', Char.ofNat 9)]

/-- Four hexadecimal digits and their number. -/
inductive IsFour : Nat → List Char → Prop where
  | mk {a b c d : Char} {x y z w : Nat} (ha : Hex.value? a = some x) (hb : Hex.value? b = some y)
    (hc : Hex.value? c = some z) (hd : Hex.value? d = some w) :
    IsFour (((x * 16 + y) * 16 + z) * 16 + w) [a, b, c, d]

/-- What stands for a character behind a backslash. -/
inductive Escapes : Char → List Char → Prop where
  | letter {l c : Char} (h : (l, c) ∈ letters) : Escapes c [l]
  | number {n : Nat} {ds : List Char} (h : IsFour n ds) (hlow : isLowHalf n = false)
    (hhigh : isHighHalf n = false) : Escapes (Char.ofNat n) ('u' :: ds)
  | pair {high low : Nat} {ds ds' : List Char} (h : IsFour high ds) (h' : IsFour low ds')
    (hhigh : isHighHalf high = true) (hlow : isLowHalf low = true) :
    Escapes (Char.ofNat (joinHalves high low)) ('u' :: (ds ++ '\\' :: 'u' :: ds'))

/-- A character that stands for itself. -/
structure IsPlain (c : Char) : Prop where
  notQuote : c ≠ '"'
  notBackslash : c ≠ '\\'
  notControl : 32 ≤ c.toNat

/-- What stands between quotation marks for a text. -/
inductive Spells : List Char → List Char → Prop where
  | nil : Spells [] []
  | plain {c : Char} {t body : List Char} (hc : IsPlain c) (h : Spells t body) :
    Spells (c :: t) (c :: body)
  | escape {c : Char} {t es body : List Char} (hes : Escapes c es) (h : Spells t body) :
    Spells (c :: t) ('\\' :: (es ++ body))

/-- What may stand behind a backslash. It need not denote a character: a half of a pair may stand
alone. -/
inductive IsEscape : List Char → Prop where
  | letter {l c : Char} (h : (l, c) ∈ letters) : IsEscape [l]
  | number {n : Nat} {ds : List Char} (h : IsFour n ds) : IsEscape ('u' :: ds)

/-- What may stand between quotation marks. -/
inductive IsText : List Char → Prop where
  | nil : IsText []
  | plain {c : Char} {body : List Char} (hc : IsPlain c) (h : IsText body) : IsText (c :: body)
  | escape {es body : List Char} (hes : IsEscape es) (h : IsText body) :
    IsText ('\\' :: (es ++ body))

/-- What stands for characters may stand between quotation marks. -/
theorem Spells.isText {t body : List Char} (h : Spells t body) : IsText body := by
  induction h with
  | nil => exact .nil
  | plain hc _ ih => exact .plain hc ih
  | escape hes _ ih =>
    cases hes with
    | letter hl => exact .escape (.letter hl) ih
    | number hds => exact .escape (.number hds) ih
    | pair hds hds' =>
      -- both halves are escapes of their own
      rw [List.cons_append, List.append_assoc]
      exact .escape (.number hds) (.escape (.number hds') ih)

-- ---------------------------------------------------------------------------
-- Numbers
-- ---------------------------------------------------------------------------

def AreDigits (ds : List Char) : Prop := ∀ d ∈ ds, isDigit d = true

/-- The digits before the point: no zero stands in front of others. -/
inductive IsWhole : List Char → Prop where
  | zero : IsWhole ['0']
  | digits {c : Char} {ds : List Char} (hc : isDigit c = true) (hzero : c ≠ '0')
    (h : AreDigits ds) : IsWhole (c :: ds)

inductive IsFraction : List Char → Prop where
  | none : IsFraction []
  | point {c : Char} {ds : List Char} (hc : isDigit c = true) (h : AreDigits ds) :
    IsFraction ('.' :: c :: ds)

inductive IsSign : List Char → Prop where
  | none : IsSign []
  | plus : IsSign ['+']
  | minus : IsSign ['-']

inductive IsExponent : List Char → Prop where
  | none : IsExponent []
  | letter {e c : Char} {sign ds : List Char} (he : e = 'e' ∨ e = 'E') (hsign : IsSign sign)
    (hc : isDigit c = true) (h : AreDigits ds) : IsExponent (e :: (sign ++ c :: ds))

inductive IsUnsigned : List Char → Prop where
  | mk {whole fraction exponent : List Char} (hwhole : IsWhole whole)
    (hfraction : IsFraction fraction) (hexponent : IsExponent exponent) :
    IsUnsigned (whole ++ (fraction ++ exponent))

inductive IsNumber : List Char → Prop where
  | positive {v : List Char} (h : IsUnsigned v) : IsNumber v
  | negative {v : List Char} (h : IsUnsigned v) : IsNumber ('-' :: v)

/-- A whole number begins with a digit. -/
theorem IsWhole.begins {v : List Char} (h : IsWhole v) :
    ∃ c cs, v = c :: cs ∧ isDigit c = true := by
  cases h with
  | zero => exact ⟨'0', [], rfl, rfl⟩
  | digits hc => exact ⟨_, _, rfl, hc⟩

theorem IsUnsigned.begins {v : List Char} (h : IsUnsigned v) :
    ∃ c cs, v = c :: cs ∧ isDigit c = true := by
  obtain ⟨hwhole, -, -⟩ := h
  obtain ⟨c, cs, rfl, hc⟩ := hwhole.begins
  exact ⟨c, _, rfl, hc⟩

-- ---------------------------------------------------------------------------
-- Between brackets
-- ---------------------------------------------------------------------------

/-- What stands before an item: a comma, unless it is the first one. -/
inductive Separates : Bool → List Char → Prop where
  | first {ws : List Char} (h : IsBlanks ws) : Separates true ws
  | comma {ws ws' : List Char} (h : IsBlanks ws) (h' : IsBlanks ws') :
    Separates false (ws ++ ',' :: ws')

/-- Items with commas between them, up to the closing bracket. -/
inductive Separated {ι : Type} (item : ι → List Char → Prop) :
    Bool → List ι → List Char → Prop where
  | nil {first : Bool} {ws : List Char} (h : IsBlanks ws) : Separated item first [] ws
  | cons {first : Bool} {x : ι} {xs : List ι} {sep t more : List Char} (hsep : Separates first sep)
    (hx : item x t) (h : Separated item false xs more) :
    Separated item first (x :: xs) (sep ++ (t ++ more))

section

variable {ι : Type} {item : ι → List Char → Prop} {first : Bool} {xs : List ι} {body : List Char}

/-- The items as they are written. -/
theorem Separated.texts (h : Separated item first xs body) :
    ∃ ts, Separated Eq first ts body ∧ ∀ t ∈ ts, ∃ x, item x t := by
  induction h with
  | nil h => exact ⟨[], .nil h, fun _ h => nomatch h⟩
  | cons hsep hx _ ih =>
    obtain ⟨ts, hts, hitems⟩ := ih
    exact ⟨_ :: ts, .cons hsep rfl hts, List.forall_mem_cons.mpr ⟨⟨_, hx⟩, hitems⟩⟩

/-- There are no more items than characters. -/
theorem Separated.length_le (hne : ∀ x, ¬ item x []) (h : Separated item first xs body) :
    xs.length ≤ body.length := by
  induction h with
  | nil => exact Nat.zero_le _
  | @cons _ x xs sep t more _ hx _ ih =>
    have ht : 0 < t.length := List.length_pos_iff.mpr fun h => hne x (h ▸ hx)
    rw [List.length_cons, List.length_append, List.length_append]
    omega

/-- Blanks may stand behind a number, if what follows them may. -/
theorem endsNumber_blanks {ws tail : List Char} (hws : IsBlanks ws) (h : EndsNumber tail) :
    EndsNumber (ws ++ tail) := by
  cases ws with
  | nil => exact h
  | cons c ws =>
    rintro _ ⟨⟩
    have hc := (isBlanks_cons.mp hws).1
    refine ⟨Bool.eq_false_iff.mpr fun hdigit => ?_, ?_⟩
    · rw [not_isBlank_of_isDigit hdigit] at hc
      cases hc
    · refine ⟨?_, ?_, ?_⟩ <;> rintro rfl <;> cases hc

/-- An item is followed by a comma, by blanks or by what follows all items. -/
theorem Separated.endsNumber {tail : List Char} (h : Separated item false xs body)
    (htail : EndsNumber tail) : EndsNumber (body ++ tail) := by
  cases h with
  | nil hws => exact endsNumber_blanks hws htail
  | cons hsep =>
    cases hsep with
    | comma hws =>
      rw [List.append_assoc, List.append_assoc]
      exact endsNumber_blanks hws (endsNumber_comma _)

end

-- ---------------------------------------------------------------------------
-- Values
-- ---------------------------------------------------------------------------

/-- The words that are values. -/
def words : List (List Char) :=
  [['n', 'u', 'l', 'l'], ['t', 'r', 'u', 'e'], ['f', 'a', 'l', 's', 'e']]

/-- A value without items. -/
inductive IsScalar : List Char → Prop where
  | word {v : List Char} (h : v ∈ words) : IsScalar v
  | number {v : List Char} (h : IsNumber v) : IsScalar v
  | text {body : List Char} (h : IsText body) : IsScalar ('"' :: (body ++ ['"']))

def startOf : Bracket → Char
  | .list => '['
  | .object => '\x7b'

mutual

/-- A value: a scalar, or items between brackets. -/
inductive IsValue : List Char → Prop where
  | scalar {v : List Char} (h : IsScalar v) : IsValue v
  | enclosed {b : Bracket} {ts : List (List Char)} {body : List Char}
    (h : Separated Eq true ts body) (hts : ∀ t ∈ ts, IsItem b t) : IsValue (startOf b :: (body ++ [endOf b]))

/-- What stands between brackets of this kind. -/
inductive IsItem : Bracket → List Char → Prop where
  | element {v : List Char} (h : IsValue v) : IsItem .list v
  | member {key ws ws' v : List Char} (hkey : IsText key) (hws : IsBlanks ws) (hws' : IsBlanks ws')
    (h : IsValue v) : IsItem .object ('"' :: (key ++ '"' :: (ws ++ ':' :: (ws' ++ v))))

end

/-- The first character of a scalar tells it from blanks and brackets. -/
theorem IsScalar.begins {v : List Char} (h : IsScalar v) :
    ∃ c cs, v = c :: cs ∧ isBlank c = false ∧ c ≠ '[' ∧ c ≠ '\x7b' ∧ c ≠ ']' := by
  cases h with
  | word h =>
    simp only [words, List.mem_cons, List.not_mem_nil, or_false] at h
    obtain rfl | rfl | rfl := h <;> exact ⟨_, _, rfl, by decide⟩
  | number h =>
    cases h with
    | positive h =>
      obtain ⟨c, cs, rfl, hc⟩ := h.begins
      refine ⟨c, cs, rfl, not_isBlank_of_isDigit hc, ?_, ?_, ?_⟩ <;> rintro rfl <;> cases hc
    | negative => exact ⟨'-', _, rfl, by decide⟩
  | text => exact ⟨'"', _, rfl, by decide⟩

/-- A value begins with no blank, and not with a closing bracket. -/
theorem IsValue.begins {v : List Char} (h : IsValue v) :
    ∃ c cs, v = c :: cs ∧ isBlank c = false ∧ c ≠ ']' := by
  cases h with
  | scalar h =>
    obtain ⟨c, cs, hv, hblank, -, -, hend⟩ := h.begins
    exact ⟨c, cs, hv, hblank, hend⟩
  | @enclosed b => cases b <;> exact ⟨_, _, rfl, by decide⟩

/-- The first character of an item tells it from the closing bracket. -/
theorem IsItem.begins {b : Bracket} {t : List Char} (h : IsItem b t) :
    ∃ c cs, t = c :: cs ∧ isBlank c = false ∧ c ≠ endOf b := by
  cases h with
  | element h => exact h.begins
  | member => exact ⟨'"', _, rfl, by decide⟩

-- ---------------------------------------------------------------------------
-- Objects and lists
-- ---------------------------------------------------------------------------

/-- A key with its value, the key spelled as a text of characters. -/
inductive IsMember : String × List Char → List Char → Prop where
  | mk {key : String} {v body ws ws' : List Char} (hkey : Spells key.toList body)
    (hws : IsBlanks ws) (hws' : IsBlanks ws') (hv : IsValue v) :
    IsMember (key, v) ('"' :: (body ++ '"' :: (ws ++ ':' :: (ws' ++ v))))

theorem not_isMember_nil (m : String × List Char) : ¬ IsMember m [] := by
  intro h
  cases h

inductive IsElement : List Char → List Char → Prop where
  | mk {v : List Char} (hv : IsValue v) : IsElement v v

/-- An object with these keys and values, in this order. -/
inductive IsObject (ms : List (String × List Char)) : List Char → Prop where
  | mk {body : List Char} (h : Separated IsMember true ms body) :
    IsObject ms ('\x7b' :: (body ++ ['\x7d']))

/-- A list of these values. -/
inductive IsList (vs : List (List Char)) : List Char → Prop where
  | mk {body : List Char} (h : Separated IsElement true vs body) :
    IsList vs ('[' :: (body ++ [']']))

/-- Objects are values. -/
theorem IsObject.isValue {ms : List (String × List Char)} {v : List Char} (h : IsObject ms v) :
    IsValue v := by
  obtain ⟨hbody⟩ := h
  obtain ⟨ts, hts, hitems⟩ := hbody.texts
  refine IsValue.enclosed (b := .object) hts fun t ht => ?_
  obtain ⟨_, hkey, hws, hws', hv⟩ := hitems t ht
  exact .member hkey.isText hws hws' hv

theorem IsList.isValue {vs : List (List Char)} {v : List Char} (h : IsList vs v) : IsValue v := by
  obtain ⟨hbody⟩ := h
  obtain ⟨ts, hts, hitems⟩ := hbody.texts
  refine IsValue.enclosed (b := .list) hts fun t ht => ?_
  obtain ⟨_, ⟨hv⟩⟩ := hitems t ht
  exact .element hv

end Courier.Json
