import Courier.Proofs.Json.Lossless
import Courier.Proofs.Json.Skipping
import Mathlib.Data.List.Forall2

/-!
# Courier — records read from objects and lists

A record whose fields have defaults is read just where an object gives some of its fields, or a list
the first of them. The members of an object are taken in one after the other; each field looks at
those of its own name only, so what all of them give is said field by field.

* `nextKey_eq_true`, `nextElement_eq_true` and their like — what stands between items;
* `Steps.members`, `Steps.readMembers` — members are read just where they stand;
* `isObject_iff`, `IsObject.unique` — the members of an object, read off from it;
* `Reads` — a reader and the forms of its values; `Reads.word64`, `Reads.record`;
* `Fields.ReadBy.nil`, `Fields.ReadBy.cons` — the fields of a record.
-/

namespace Courier

open Json

namespace Json

-- ---------------------------------------------------------------------------
-- Between members
-- ---------------------------------------------------------------------------

/-- Further blanks separate as well. -/
theorem Separates.append {first : Bool} {sep ws : List Char} (h : Separates first sep)
    (hws : IsBlanks ws) : Separates first (sep ++ ws) := by
  cases h with
  | first h => exact .first (isBlanks_append.mpr ⟨h, hws⟩)
  | comma h h' =>
    rw [List.append_assoc, List.cons_append]
    exact .comma h (isBlanks_append.mpr ⟨h', hws⟩)

/-- Skipping blanks stops at a character that is none. -/
theorem skipBlanks_close {ws more : List Char} {c : Char} (hws : IsBlanks ws)
    (hc : isBlank c = false) : skipBlanks (ws ++ c :: more) = c :: more := by
  rw [skipBlanks_append hws, skipBlanks_cons hc]

section

variable {close : Char} {atEnd : Cause} {goOn : Char → List Char → Reading Bool}
  {cs rest : List Char}

/-- `nextUnless` stops before the closing bracket, unless it goes on and stops elsewhere. -/
theorem nextUnless_eq_false (hclose : isBlank close = false)
    (hgo : ∀ c more rest, goOn c more ≠ .done false rest) :
    nextUnless close atEnd goOn cs = .done false rest ↔
      ∃ ws more, IsBlanks ws ∧ cs = ws ++ rest ∧ rest = close :: more := by
  constructor
  · intro h
    unfold nextUnless at h
    split at h
    · cases h
    · rename_i c more hmore
      split_ifs at h with hc
      · cases h
        subst hc
        obtain ⟨-, ws, hws, rfl⟩ := skipBlanks_eq_cons_iff.mp hmore
        exact ⟨ws, more, hws, rfl, rfl⟩
      · exact absurd h (hgo c more rest)
  · rintro ⟨ws, more, hws, rfl, rfl⟩
    rw [nextUnless, skipBlanks_close hws hclose]
    exact if_pos rfl

/-- `nextUnless` goes on with the first character that is no blank. -/
theorem nextUnless_eq_true :
    nextUnless close atEnd goOn cs = .done true rest ↔
      ∃ ws c more, IsBlanks ws ∧ isBlank c = false ∧ c ≠ close ∧ cs = ws ++ c :: more ∧
        goOn c more = .done true rest := by
  constructor
  · intro h
    unfold nextUnless at h
    split at h
    · cases h
    · rename_i c more hmore
      obtain ⟨hblank, ws, hws, rfl⟩ := skipBlanks_eq_cons_iff.mp hmore
      split_ifs at h with hc
      · cases h
      · exact ⟨ws, c, more, hws, hblank, hc, rfl, h⟩
  · rintro ⟨ws, c, more, hws, hblank, hc, rfl, hgo⟩
    rw [nextUnless, skipBlanks_close hws hblank]
    exact (if_neg hc).trans hgo

end

/-- `nextKey` goes on behind the quotation mark of a key, which a comma separates from the last
member. -/
theorem nextKey_eq_true {first : Bool} {cs rest : List Char} :
    nextKey first cs = .done true rest ↔
      ∃ sep, Separates first sep ∧ cs = sep ++ '"' :: rest := by
  constructor
  · intro h
    obtain ⟨ws, c, more, hws, -, -, rfl, hgo⟩ := nextUnless_eq_true.mp h
    split_ifs at hgo with hfirst hquote hcomma
    · cases hgo
      subst hfirst hquote
      exact ⟨ws, .first hws, rfl⟩
    · cases hgo
    · subst hcomma
      rw [Bool.not_eq_true] at hfirst
      subst hfirst
      split at hgo
      · rename_i hkey
        cases hgo
        obtain ⟨-, ws', hws', rfl⟩ := skipBlanks_eq_cons_iff.mp hkey
        exact ⟨_, .comma hws hws', by simp⟩
      · cases hgo
      · cases hgo
      · cases hgo
    · cases hgo
  · rintro ⟨sep, hsep, rfl⟩
    cases hsep with
    | first hws =>
      exact nextUnless_eq_true.mpr ⟨_, '"', rest, hws, by decide, by decide, rfl, rfl⟩
    | @comma ws ws' hws hws' =>
      have hquote : skipBlanks (ws' ++ '"' :: rest) = '"' :: rest := skipBlanks_close hws' (by decide)
      exact nextUnless_eq_true.mpr ⟨ws, ',', ws' ++ '"' :: rest, hws, by decide, by decide,
        by simp, by simp [hquote]⟩

/-- `nextKey` stops before the closing brace. -/
theorem nextKey_eq_false {first : Bool} {cs rest : List Char} :
    nextKey first cs = .done false rest ↔
      ∃ ws more, IsBlanks ws ∧ cs = ws ++ rest ∧ rest = '\x7d' :: more := by
  refine nextUnless_eq_false (by decide) fun c more rest h => ?_
  split_ifs at h
  · cases h
  · cases h
  · split at h <;> cases h
  · cases h

/-- A list ends at its closing bracket, behind any blanks. -/
theorem listEnd_eq_done {cs rest : List Char} :
    listEnd cs = .done () rest ↔ ∃ ws, IsBlanks ws ∧ cs = ws ++ ']' :: rest := by
  constructor
  · intro h
    unfold listEnd at h
    split at h
    · rename_i hmore
      cases h
      exact (skipBlanks_eq_cons_iff.mp hmore).2
    · split at h <;> cases h
    all_goals cases h
  · rintro ⟨ws, hws, rfl⟩
    rw [listEnd, skipBlanks_close hws (by decide)]
    rfl

/-- `nextElement` goes on before an element, which a comma separates from the last one. -/
theorem nextElement_eq_true {first : Bool} {cs rest : List Char} :
    nextElement first cs = .done true rest ↔ ∃ sep c more, Separates first sep ∧
      isBlank c = false ∧ c ≠ ']' ∧ rest = c :: more ∧ cs = sep ++ c :: more := by
  constructor
  · intro h
    obtain ⟨ws, c, more, hws, hblank, hend, rfl, hgo⟩ := nextUnless_eq_true.mp h
    split_ifs at hgo with hfirst hcomma
    · cases hgo
      subst hfirst
      exact ⟨ws, c, more, .first hws, hblank, hend, rfl, rfl⟩
    · subst hcomma
      rw [Bool.not_eq_true] at hfirst
      subst hfirst
      split at hgo
      · cases hgo
      · cases hgo
      · rename_i hend' hempty
        obtain ⟨ws', hws', heq, hhead⟩ := skipBlanks_spec more
        cases hskip : skipBlanks more with
        | nil => exact absurd hskip hempty
        | cons c' more' =>
          rw [hskip] at hgo heq hhead
          cases hgo
          exact ⟨_, c', more', .comma hws hws', hhead c' rfl,
            fun he => hend' more' (he ▸ hskip), rfl, by rw [heq]; simp⟩
    · cases hgo
  · rintro ⟨sep, c, more, hsep, hblank, hend, rfl, rfl⟩
    cases hsep with
    | first hws => exact nextUnless_eq_true.mpr ⟨_, c, more, hws, hblank, hend, rfl, rfl⟩
    | @comma ws ws' hws hws' =>
      refine nextUnless_eq_true.mpr ⟨ws, ',', ws' ++ c :: more, hws, by decide, by decide,
        by simp, ?_⟩
      rw [if_neg Bool.false_ne_true, if_pos rfl, skipBlanks_close hws' hblank]
      split
      · rename_i heq
        exact absurd (List.cons.inj heq).1 hend
      · cases ‹_ = _›
      · rfl

/-- `nextElement` stops before the closing bracket. -/
theorem nextElement_eq_false {first : Bool} {cs rest : List Char} :
    nextElement first cs = .done false rest ↔
      ∃ ws more, IsBlanks ws ∧ cs = ws ++ rest ∧ rest = ']' :: more := by
  refine nextUnless_eq_false (by decide) fun c more rest h => ?_
  split_ifs at h
  · cases h
  · split at h <;> cases h
  · cases h

-- ---------------------------------------------------------------------------
-- Members, one after the other
-- ---------------------------------------------------------------------------

section

variable {σ : Type} {step : σ → String → List Char → Reading σ}
  {takes : σ → String → List Char → σ → Prop}

/-- A reader for the value of a key, whose colon comes next, takes values into what was read so far
just in this way. -/
structure Steps (step : σ → String → List Char → Reading σ)
    (takes : σ → String → List Char → σ → Prop) : Prop where
  sound {s s' : σ} {key : String} {cs rest : List Char} (h : step s key cs = .done s' rest) :
    ∃ ws ws' v, IsBlanks ws ∧ IsBlanks ws' ∧ IsValue v ∧ takes s key v s' ∧
      cs = ws ++ ':' :: (ws' ++ (v ++ rest))
  complete {s s' : σ} {key : String} {ws ws' v rest : List Char} (hws : IsBlanks ws)
    (hws' : IsBlanks ws') (hv : IsValue v) (htakes : takes s key v s') (hrest : EndsNumber rest) :
    step s key (ws ++ ':' :: (ws' ++ (v ++ rest))) = .done s' rest

/-- All members are taken in, one after the other. -/
def TakesAll (takes : σ → String → List Char → σ → Prop) : σ → List (String × List Char) → σ → Prop
  | s, [], s' => s = s'
  | s, (key, v) :: ms, s' => ∃ s₁, takes s key v s₁ ∧ TakesAll takes s₁ ms s'

/-- The members that were read stand there. -/
theorem Steps.members (h : Steps step takes) {fuel : Nat} {first : Bool} {s s' : σ}
    {cs rest : List Char} (hread : readMembers step fuel first s cs = .done s' rest) :
    ∃ ms body more, Separated IsMember first ms body ∧ TakesAll takes s ms s' ∧
      cs = body ++ rest ∧ rest = '\x7d' :: more := by
  induction fuel generalizing first s cs with
  | zero => cases hread
  | succ fuel ih =>
    rw [readMembers_succ] at hread
    obtain ⟨more?, after, hnext, hafter⟩ := Reading.andThen_eq_done.mp hread
    cases more? with
    | false =>
      cases hafter
      obtain ⟨ws, more, hws, hcs, hrest⟩ := nextKey_eq_false.mp hnext
      exact ⟨[], ws, more, .nil hws, rfl, hcs, hrest⟩
    | true =>
      obtain ⟨sep, hsep, rfl⟩ := nextKey_eq_true.mp hnext
      obtain ⟨s₁, behind, hmember, hbehind⟩ := Reading.andThen_eq_done.mp hafter
      obtain ⟨key, value, hkey, hvalue⟩ := Reading.andThen_eq_done.mp hmember
      obtain ⟨text, htext, rfl⟩ := readText_eq_done.mp hkey
      obtain ⟨ws, ws', v, hws, hws', hv, htakes, rfl⟩ := h.sound hvalue
      obtain ⟨ms, body, more, hms, hall, rfl, hrest⟩ := ih hbehind
      exact ⟨_, _, more, .cons hsep (.mk htext hws hws' hv) hms, ⟨s₁, htakes, hall⟩, by simp, hrest⟩

/-- The members that stand there are read. -/
theorem Steps.readMembers (h : Steps step takes) {first : Bool} {ms : List (String × List Char)}
    {body : List Char} (hms : Separated IsMember first ms body) {fuel : Nat} {s s' : σ}
    (hfuel : ms.length < fuel) (hall : TakesAll takes s ms s') (more : List Char) :
    readMembers step fuel first s (body ++ '\x7d' :: more) = .done s' ('\x7d' :: more) := by
  induction hms generalizing fuel s with
  | nil hws =>
    obtain ⟨fuel, rfl⟩ : ∃ k, fuel = k + 1 := ⟨fuel - 1, by omega⟩
    cases hall
    rw [readMembers_succ, nextKey_eq_false.mpr ⟨_, more, hws, rfl, rfl⟩]
    rfl
  | @cons first m ms sep t body hsep hm hms ih =>
    obtain ⟨fuel, rfl⟩ : ∃ k, fuel = k + 1 := ⟨fuel - 1, by omega⟩
    obtain ⟨htext, hws, hws', hv⟩ := hm
    obtain ⟨s₁, htakes, hall⟩ := hall
    have hless : ms.length < fuel := Nat.lt_of_succ_lt_succ hfuel
    have hmore := ih hless hall
    have hstep := h.complete hws hws' hv htakes (hms.endsNumber (endsNumber_brace more))
    refine (readMembers_succ ..).trans (Reading.andThen_eq_done.mpr ⟨true, _,
      nextKey_eq_true.mpr ⟨sep, hsep, ?_⟩, Reading.andThen_eq_done.mpr ⟨s₁, _,
        Reading.andThen_eq_done.mpr ⟨_, _, readText_eq_done.mpr ⟨_, htext, rfl⟩, hstep⟩, hmore⟩⟩)
    simp

end

/-- Reads off the key and the value, as they stand there. -/
def collect (ms : List (String × List Char)) (key : String) (cs : List Char) :
    Reading (List (String × List Char)) :=
  (colon cs).andThen fun _ cs =>
    (skipValue cs).andThen fun _ rest =>
      .done (ms ++ [(key, (skipBlanks cs).take ((skipBlanks cs).length - rest.length))]) rest

/-- The collecting reader takes in each member as it stands. -/
theorem collect_steps : Steps collect fun ms key v ms' => ms' = ms ++ [(key, v)] := by
  have htake {ws v rest : List Char} (hws : IsBlanks ws) (hv : IsValue v) :
      (skipBlanks (ws ++ (v ++ rest))).take
        ((skipBlanks (ws ++ (v ++ rest))).length - rest.length) = v := by
    obtain ⟨c, cs, rfl, hc, -⟩ := hv.begins
    rw [skipBlanks_append hws, List.cons_append, skipBlanks_cons hc, ← List.cons_append,
      List.length_append, Nat.add_sub_cancel, List.take_left]
  constructor
  · intro ms ms' key cs rest h
    obtain ⟨⟨⟩, value, hcolon, hbehind⟩ := Reading.andThen_eq_done.mp h
    obtain ⟨⟨⟩, behind, hvalue, hdone⟩ := Reading.andThen_eq_done.mp hbehind
    obtain ⟨ws, hws, rfl⟩ := colon_eq_done.mp hcolon
    obtain ⟨ws', v, hws', hv, rfl⟩ := value_of_skipValue hvalue
    cases hdone
    exact ⟨ws, ws', v, hws, hws', hv, by rw [htake hws' hv], rfl⟩
  · rintro ms ms' key ws ws' v rest hws hws' hv rfl hrest
    refine Reading.andThen_eq_done.mpr ⟨(), _, colon_eq_done.mpr ⟨ws, hws, rfl⟩,
      Reading.andThen_eq_done.mpr ⟨(), rest, skipValue_append hws' hv fun _ => hrest, ?_⟩⟩
    rw [htake hws' hv]

/-- Collected members stand behind those that were there. -/
theorem takesAll_collect {ms ms' ms'' : List (String × List Char)} :
    TakesAll (fun ms key v ms' => ms' = ms ++ [(key, v)]) ms ms' ms'' ↔ ms ++ ms' = ms'' := by
  induction ms' generalizing ms with
  | nil => rw [TakesAll, List.append_nil]
  | cons m ms' ih =>
    rw [TakesAll]
    constructor
    · rintro ⟨_, rfl, h⟩
      rw [ih] at h
      simpa using h
    · intro h
      exact ⟨_, rfl, ih.mpr (by simpa using h)⟩

/-- Whether a text is an object, and of which members, is found by reading the members off. -/
theorem isObject_iff {ms : List (String × List Char)} {v : List Char} :
    IsObject ms v ↔ v.head? = some '\x7b' ∧
      readMembers collect v.length true [] v.tail = .done ms ['\x7d'] := by
  constructor
  · rintro ⟨hbody⟩
    have hlength := hbody.length_le not_isMember_nil
    refine ⟨rfl, collect_steps.readMembers hbody ?_ (takesAll_collect.mpr rfl) []⟩
    rw [List.length_cons, List.length_append]
    omega
  · rintro ⟨hhead, hread⟩
    obtain ⟨ms', body, more, hms, hall, htail, -⟩ := collect_steps.members hread
    obtain rfl := takesAll_collect.mp hall
    cases v with
    | nil => cases hhead
    | cons c cs =>
      cases hhead
      obtain rfl : cs = body ++ ['\x7d'] := htail
      exact .mk hms

instance (ms : List (String × List Char)) (v : List Char) : Decidable (IsObject ms v) :=
  decidable_of_iff _ isObject_iff.symm

/-- An object has its members in one way. -/
theorem IsObject.unique {ms ms' : List (String × List Char)} {v : List Char} (h : IsObject ms v)
    (h' : IsObject ms' v) : ms = ms' := by
  have hsame := (isObject_iff.mp h).2.symm.trans (isObject_iff.mp h').2
  exact (Reading.done.inj hsame).1

/-- An object is no number. -/
theorem IsObject.not_isNumber {ms : List (String × List Char)} {v : List Char}
    (h : IsObject ms v) : ¬ IsNumber v := by
  obtain ⟨-⟩ := h
  intro h
  cases h with
  | positive h =>
    obtain ⟨c, cs, heq, hc⟩ := h.begins
    cases heq
    cases hc

theorem IsObject.not_isList {ms : List (String × List Char)} {vs : List (List Char)} {v : List Char}
    (h : IsObject ms v) : ¬ IsList vs v := by
  obtain ⟨-⟩ := h
  nofun

-- ---------------------------------------------------------------------------
-- Readers of values
-- ---------------------------------------------------------------------------

/-- A reader takes a value off the front just where a form of it stands. -/
structure Reads {α : Type} (read : List Char → Reading α) (form : List Char → α → Prop) : Prop where
  isValue {v : List Char} {a : α} (h : form v a) : IsValue v
  sound {cs rest : List Char} {a : α} (h : read cs = .done a rest) :
    ∃ ws v, IsBlanks ws ∧ form v a ∧ cs = ws ++ (v ++ rest)
  complete {ws v rest : List Char} {a : α} (hws : IsBlanks ws) (h : form v a)
    (hrest : EndsNumber rest) : read (ws ++ (v ++ rest)) = .done a rest

/-- Forms may be told in another way. -/
theorem Reads.congr {α : Type} {read : List Char → Reading α}
    {form form' : List Char → α → Prop} (h : Reads read form) (heq : ∀ v a, form v a ↔ form' v a) :
    Reads read form' := by
  obtain rfl : form = form' := funext₂ fun v a => propext (heq v a)
  exact h

/-- Blanks before a value do not matter. -/
theorem expecting_blanks {α : Type} {expected : String} {accept : List Char → Option (Reading α)}
    {ws : List Char} (hws : IsBlanks ws) (cs : List Char) :
    expecting expected accept (ws ++ cs) = expecting expected accept cs := by
  rw [expecting, expecting, skipBlanks_append hws]

/-- The digits of a number are written without leading zeros. -/
theorem isWhole_digits (n : Nat) : IsWhole (digits n) := by
  obtain ⟨c, cs, hdigits, hc, hzero⟩ := digits_eq_cons n
  have hall : AreDigits (digits n) := fun d hd => isDigit_of_mem_digits hd
  rw [hdigits] at hall ⊢
  by_cases h : c = '0'
  · obtain ⟨-, rfl⟩ := hzero h
    rw [h]
    exact .zero
  · exact .digits hc h (List.forall_mem_cons.mp hall).2

instance (v : List Char) : Decidable (IsWhole v) :=
  decidable_of_iff (digits (Nat.ofDigitChars 10 v 0) = v)
    ⟨fun h => h ▸ isWhole_digits _, Number.digits_ofDigitChars⟩

/-- The digits of a natural number are a number of the grammar. -/
theorem isNumber_digits (n : Nat) : IsNumber (digits n) := by
  have h := IsUnsigned.mk (isWhole_digits n) .none .none
  rw [List.append_nil, List.append_nil] at h
  exact .positive h

/-- Numbers of up to 64 bits. -/
theorem Reads.word64 (name : String) :
    Reads (Schema.word64 name).read fun v n => v = digits n.toNat where
  isValue := by
    rintro _ n rfl
    exact .scalar (.number (isNumber_digits _))
  sound := by
    intro cs rest n h
    rw [Schema.read] at h
    obtain ⟨m, hm, rfl⟩ := Reading.map_eq_done.mp h
    obtain ⟨hlt, ws, hws, hcs⟩ := readNatural_eq_done hm
    exact ⟨ws, _, hws, rfl, by rw [hcs, UInt64.toNat_ofNat_of_lt' hlt]⟩
  complete := by
    rintro ws _ rest n hws rfl hrest
    have hlt := n.toNat_lt
    have hread : readNatural UInt64.size name (ws ++ (digits n.toNat ++ rest)) =
        .done n.toNat rest :=
      (expecting_blanks hws _).trans (readNatural_digits name hlt hlt hrest)
    rw [Schema.read, hread, Reading.map, Reading.andThen, UInt64.ofNat_toNat]

end Json

-- ---------------------------------------------------------------------------
-- Fields
-- ---------------------------------------------------------------------------

/-- How fields are given by the members of an object, which are taken in one after the other, and by
the elements of a list. -/
structure Fields.ReadBy {β : Type} (fields : Fields β)
    (takes : fields.Given → String → List Char → fields.Given → Prop)
    (gives : List (String × List Char) → fields.Given → Prop)
    (lists : List (List Char) → fields.Given → Prop) : Prop where
  steps : Steps (fun given key cs => fields.readMember given key cs) takes
  takesAll {ms : List (String × List Char)} {given : fields.Given} :
    TakesAll takes fields.noneGiven ms given ↔ gives ms given
  /-- Nothing is taken from a member of another name. -/
  other {given given' : fields.Given} {key : String} {v : List Char} (h : key ∉ fields.names) :
    takes given key v given' ↔ given = given'
  listed {expected : String} {index : Nat} {cs rest more : List Char} {b : β}
    (h : fields.readList expected true index cs = .done b rest)
    (hend : listEnd rest = .done () more) :
    ∃ vs body given, Separated IsElement (index == 0) vs body ∧ lists vs given ∧
      fields.complete given = .ok b ∧ cs = body ++ ']' :: more
  readList (expected : String) (index : Nat) {vs : List (List Char)} {body : List Char}
    {given : fields.Given} {b : β} (hvs : Separated IsElement (index == 0) vs body)
    (h : lists vs given) (hcomplete : fields.complete given = .ok b) (more : List Char) :
    ∃ rest, fields.readList expected true index (body ++ ']' :: more) = .done b rest ∧
      listEnd rest = .done () more

/-- A value gives something by the members of an object, or by the elements of a list. -/
inductive Json.GivenBy (gives : List (String × List Char) → Prop)
    (lists : List (List Char) → Prop) : List Char → Prop where
  | object {ms : List (String × List Char)} {v : List Char} (hms : IsObject ms v) (h : gives ms) :
    GivenBy gives lists v
  | list {vs : List (List Char)} {v : List Char} (hvs : IsList vs v) (h : lists vs) :
    GivenBy gives lists v

section

variable {gives : List (String × List Char) → Prop} {lists : List (List Char) → Prop} {v : List Char}

/-- What gives something is a value. -/
theorem Json.GivenBy.isValue (h : GivenBy gives lists v) : IsValue v := by
  cases h with
  | object hms => exact hms.isValue
  | list hvs => exact hvs.isValue

/-- What an object gives is up to its members. -/
theorem Json.GivenBy.object_iff {ms : List (String × List Char)} (hms : IsObject ms v) :
    GivenBy gives lists v ↔ gives ms := by
  constructor
  · intro h
    cases h with
    | object hms' h =>
      obtain rfl := hms.unique hms'
      exact h
    | list hvs => exact absurd hvs hms.not_isList
  · exact .object hms

end

section

variable {α β : Type} {name : String} {s : Schema α} {fields : Fields β}
  {takes : fields.Given → String → List Char → fields.Given → Prop}
  {gives : List (String × List Char) → fields.Given → Prop}
  {lists : List (List Char) → fields.Given → Prop} {form : List Char → α → Prop}

/-- The record that is read is that of the fields that are given. -/
theorem Json.Reads.record (h : fields.ReadBy takes gives lists) (name : String)
    (view : Bijection α β) :
    Reads (Schema.record name true fields view).read fun v a =>
      ∃ given, GivenBy (gives · given) (lists · given) v ∧
        fields.complete given = .ok (view.forth a) where
  isValue := fun ⟨_, hgiven, _⟩ => hgiven.isValue
  sound := by
    intro cs rest a hread
    rw [Schema.read] at hread
    obtain ⟨b, hb, rfl⟩ := Reading.map_eq_done.mp hread
    rw [view.forth_back]
    obtain ⟨-, haccept⟩ := expecting_eq_done.mp hb
    obtain ⟨ws, hws, hcs, -⟩ := skipBlanks_spec cs
    split at haccept
    · rename_i more heq
      obtain ⟨behind, hlist, hend⟩ := closeWith_eq_done.mp (Option.some.inj haccept)
      obtain ⟨vs, body, given, hvs, hlists, hcomplete, hmore⟩ := h.listed hlist hend
      exact ⟨ws, _, hws, ⟨given, .list (.mk hvs) hlists, hcomplete⟩, by rw [hcs, heq, hmore]; simp⟩
    · rename_i more heq
      obtain ⟨behind, hobject, hend⟩ := closeWith_eq_done.mp (Option.some.inj haccept)
      obtain ⟨given, _, hmembers, hfinish⟩ := Reading.andThen_eq_done.mp hobject
      obtain ⟨hcomplete, rfl⟩ := Fields.finish_eq_done.mp hfinish
      obtain ⟨ms, body, after, hms, hall, hmore, rfl⟩ := h.steps.members hmembers
      cases hend
      refine ⟨ws, _, hws, ⟨given, .object (.mk hms) (h.takesAll.mp hall), hcomplete⟩, ?_⟩
      rw [hcs, heq, hmore]
      simp
    · cases haccept
  complete := by
    rintro ws v rest a hws ⟨given, hgiven, hcomplete⟩ hrest
    rw [Schema.read, expecting_blanks hws]
    refine Reading.map_eq_done.mpr ⟨view.forth a, ?_, view.back_forth a⟩
    cases hgiven with
    | object hms hgives =>
      obtain ⟨hbody⟩ := hms
      have hlength := hbody.length_le not_isMember_nil
      rw [List.cons_append, List.append_assoc, List.singleton_append]
      refine expecting_cons _ _ (by decide) (congrArg some (closeWith_eq_done.mpr
        ⟨_, Reading.andThen_eq_done.mpr ⟨_, _, h.steps.readMembers hbody ?_
          (h.takesAll.mpr hgives) rest, Fields.finish_eq_done.mpr ⟨hcomplete, rfl⟩⟩, rfl⟩))
      rw [List.length_append]
      omega
    | list hvs hlists =>
      obtain ⟨hbody⟩ := hvs
      obtain ⟨behind, hlist, hend⟩ := h.readList (recordAsList name fields.size) 0
        hbody hlists hcomplete rest
      rw [List.cons_append, List.append_assoc, List.singleton_append]
      exact expecting_cons _ _ (by decide)
        (congrArg some (closeWith_eq_done.mpr ⟨behind, hlist, hend⟩))

/-- A record without fields takes nothing from any member. -/
theorem Json.takesAll_trivial (ms : List (String × List Char)) (u : Unit) :
    TakesAll (fun _ _ _ _ => True) () ms u := by
  induction ms with
  | nil => rfl
  | cons m ms ih => exact ⟨(), trivial, ih⟩

/-- A record without fields is read from any object, and from the empty list. -/
theorem Fields.ReadBy.nil :
    Fields.nil.ReadBy (fun _ _ _ _ => True) (fun _ _ => True) fun vs _ => vs = [] where
  steps := {
    sound := by
      intro s s' key cs rest h
      obtain ⟨⟨⟩, value, hcolon, hvalue⟩ := Reading.andThen_eq_done.mp h
      obtain ⟨⟨⟩, hskip, -⟩ := Reading.map_eq_done.mp hvalue
      obtain ⟨ws, hws, rfl⟩ := colon_eq_done.mp hcolon
      obtain ⟨ws', v, hws', hv, rfl⟩ := value_of_skipValue hskip
      exact ⟨ws, ws', v, hws, hws', hv, trivial, rfl⟩
    complete := by
      intro s s' key ws ws' v rest hws hws' hv _ hrest
      exact Reading.andThen_eq_done.mpr ⟨(), _, colon_eq_done.mpr ⟨ws, hws, rfl⟩,
        Reading.map_eq_done.mpr ⟨(), skipValue_append hws' hv fun _ => hrest, rfl⟩⟩ }
  takesAll {ms given} := iff_of_true (takesAll_trivial ms given) trivial
  other _ := iff_of_true trivial rfl
  listed := by
    intro expected index cs rest more b h hend
    cases h
    obtain ⟨ws, hws, rfl⟩ := listEnd_eq_done.mp hend
    exact ⟨[], ws, (), .nil hws, rfl, rfl, rfl⟩
  readList := by
    rintro expected index _ body ⟨⟩ ⟨⟩ hvs rfl - more
    cases hvs with
    | nil hws => exact ⟨_, rfl, listEnd_eq_done.mpr ⟨_, hws, rfl⟩⟩

/-- What a first field takes from a member: the value of its name, once. -/
def Json.TakesField (name : String) (form : List Char → α → Prop) (given? : Option α) (key : String)
    (v : List Char) (given?' : Option α) : Prop :=
  if key = name then given? = none ∧ ∃ a, form v a ∧ given?' = some a else given? = given?'

/-- The values of all members of this name. -/
def Json.valuesOf (name : String) (ms : List (String × List Char)) : List (List Char) :=
  (ms.filter fun m => m.1 = name).map Prod.snd

/-- The values of a name are those of its members, in order. -/
theorem Json.valuesOf_cons (name key : String) (v : List Char) (ms : List (String × List Char)) :
    valuesOf name ((key, v) :: ms) =
      if key = name then v :: valuesOf name ms else valuesOf name ms := by
  unfold valuesOf
  by_cases h : key = name
  · rw [List.filter_cons_of_pos (by simpa using h), if_pos h]
    rfl
  · rw [List.filter_cons_of_neg (by simpa using h), if_neg h]

/-- Nothing more is taken into a field that was given. -/
theorem Json.takesAll_field_some {a : α} {ms : List (String × List Char)} {given? : Option α} :
    TakesAll (TakesField name form) (some a) ms given? ↔
      valuesOf name ms = [] ∧ some a = given? := by
  induction ms with
  | nil => exact (and_iff_right rfl).symm
  | cons m ms ih =>
    obtain ⟨key, v⟩ := m
    rw [TakesAll, valuesOf_cons]
    by_cases hkey : key = name
    · rw [if_pos hkey]
      refine iff_of_false ?_ fun h => nomatch h.1
      rintro ⟨_, htakes, -⟩
      cases ((if_pos hkey).mp htakes).1
    · rw [if_neg hkey, ← ih]
      constructor
      · rintro ⟨_, htakes, hall⟩
        obtain rfl := (if_neg hkey).mp htakes
        exact hall
      · exact fun hall => ⟨_, (if_neg hkey).mpr rfl, hall⟩

/-- A field is given by the only member of its name, or there is none. -/
theorem Json.takesAll_field {ms : List (String × List Char)} {given? : Option α} :
    TakesAll (TakesField name form) none ms given? ↔
      List.Forall₂ form (valuesOf name ms) given?.toList := by
  induction ms with
  | nil => cases given? <;> simp [TakesAll, valuesOf]
  | cons m ms ih =>
    obtain ⟨key, v⟩ := m
    rw [TakesAll, valuesOf_cons]
    by_cases hkey : key = name
    · rw [if_pos hkey]
      constructor
      · rintro ⟨_, htakes, hall⟩
        obtain ⟨-, a, ha, rfl⟩ := (if_pos hkey).mp htakes
        obtain ⟨hnone, rfl⟩ := takesAll_field_some.mp hall
        rw [hnone]
        exact .cons ha .nil
      · intro h
        cases given? with
        | none => cases h
        | some a =>
          cases h with
          | cons ha hnone =>
            exact ⟨some a, (if_pos hkey).mpr ⟨rfl, a, ha, rfl⟩, takesAll_field_some.mpr
              ⟨List.forall₂_nil_right_iff.mp hnone, rfl⟩⟩
    · rw [if_neg hkey, ← ih]
      constructor
      · rintro ⟨_, htakes, hall⟩
        obtain rfl := (if_neg hkey).mp htakes
        exact hall
      · exact fun hall => ⟨_, (if_neg hkey).mpr rfl, hall⟩

/-- The fields are given independently of each other. -/
theorem Fields.takesAll_cons {value : α} {given?₀ given? : Option α} {given₀ given : fields.Given}
    {ms : List (String × List Char)} :
    TakesAll (σ := (Fields.cons name s (some value) fields).Given)
        (fun given key v given' => TakesField name form given.1 key v given'.1 ∧
          takes given.2 key v given'.2) (given?₀, given₀) ms (given?, given) ↔
      TakesAll (TakesField name form) given?₀ ms given? ∧ TakesAll takes given₀ ms given := by
  induction ms generalizing given?₀ given₀ with
  | nil => exact iff_of_eq (Prod.mk.injEq ..)
  | cons m ms ih =>
    constructor
    · rintro ⟨⟨given?₁, given₁⟩, ⟨hfield, hothers⟩, hall⟩
      obtain ⟨hfields, hall⟩ := ih.mp hall
      exact ⟨⟨given?₁, hfield, hfields⟩, ⟨given₁, hothers, hall⟩⟩
    · rintro ⟨⟨given?₁, hfield, hfields⟩, ⟨given₁, hothers, hall⟩⟩
      exact ⟨(given?₁, given₁), ⟨hfield, hothers⟩, ih.mpr ⟨hfields, hall⟩⟩

/-- A second value of a name is refused. -/
theorem Fields.readMember_again {absent : Option α} (a : α) (given : fields.Given)
    (cs : List Char) :
    (Fields.cons name s absent fields).readMember (giving (some a) given) name cs =
      .refused (.repeatedField name) cs :=
  (if_pos rfl : ite (name = name) _ _ = _)

/-- In front of a closing bracket stand no elements. -/
theorem Json.Separated.eq_nil_of_close {vs : List (List Char)} {body more more' : List Char}
    (h : Separated IsElement false vs body) (heq : ']' :: more = body ++ ']' :: more') :
    vs = [] ∧ more = more' := by
  have hskip := congrArg skipBlanks heq
  rw [skipBlanks_cons (by decide)] at hskip
  cases h with
  | nil hws =>
    rw [skipBlanks_close hws (by decide)] at hskip
    exact ⟨rfl, (List.cons.inj hskip).2⟩
  | cons hsep =>
    cases hsep with
    | comma hws =>
      rw [List.append_assoc, List.append_assoc, List.cons_append,
        skipBlanks_close hws (by decide)] at hskip
      exact absurd (List.cons.inj hskip).1 (by decide)

/-- A field that is not given has its default. -/
theorem Fields.complete_withDefault (value : α) (given? : Option α) (given : fields.Given) (a : α)
    (b : β) : (Fields.cons name s (some value) fields).complete (given?, given) = .ok (a, b) ↔
      given?.getD value = a ∧ fields.complete given = .ok b := by
  have hvalue : given?.or (some value) = some a ↔ given?.getD value = a := by
    rw [Option.or_some, Option.some.injEq]
  exact (Fields.complete_cons given? given a b).trans (and_congr_left' hvalue)

/-- A member is taken in by the field of its name. -/
theorem Fields.ReadBy.steps_cons (value : α) (hs : Reads s.read form)
    (h : fields.ReadBy takes gives lists) (hname : name ∉ fields.names) :
    Steps (fun given key cs => (Fields.cons name s (some value) fields).readMember given key cs)
      fun given key v given' => TakesField name form given.1 key v given'.1 ∧
        takes given.2 key v given'.2 where
  sound := by
    rintro ⟨given?, given⟩ given' key cs rest hread
    by_cases hkey : key = name
    · subst hkey
      cases given? with
      | some a =>
        have hrefused := (Fields.readMember_again a given cs).symm.trans hread
        cases hrefused
      | none =>
        have hfield := (Fields.readMember_self given cs).symm.trans hread
        obtain ⟨⟨⟩, value, hcolon, hvalue⟩ := Reading.andThen_eq_done.mp hfield
        obtain ⟨a, ha, rfl⟩ := Reading.map_eq_done.mp hvalue
        obtain ⟨ws, hws, rfl⟩ := colon_eq_done.mp hcolon
        obtain ⟨ws', v, hws', hv, rfl⟩ := hs.sound ha
        exact ⟨ws, ws', v, hws, hws', hs.isValue hv, ⟨(if_pos rfl).mpr ⟨rfl, a, hv, rfl⟩,
          (h.other hname).mpr rfl⟩, rfl⟩
    · have hothers := (Fields.readMember_of_ne given? given hkey cs).symm.trans hread
      obtain ⟨more, hmore, rfl⟩ := Reading.map_eq_done.mp hothers
      obtain ⟨ws, ws', v, hws, hws', hv, htakes, hcs⟩ := h.steps.sound hmore
      exact ⟨ws, ws', v, hws, hws', hv, ⟨(if_neg hkey).mpr rfl, htakes⟩, hcs⟩
  complete := by
    rintro ⟨given?, given⟩ ⟨given?', given'⟩ key ws ws' v rest hws hws' hv ⟨hfield, hothers⟩ hrest
    by_cases hkey : key = name
    · subst hkey
      obtain ⟨rfl, a, ha, rfl⟩ := (if_pos rfl).mp hfield
      obtain rfl := (h.other hname).mp hothers
      exact (Fields.readMember_self given _).trans (Reading.andThen_eq_done.mpr
        ⟨(), _, colon_eq_done.mpr ⟨ws, hws, rfl⟩,
          Reading.map_eq_done.mpr ⟨a, hs.complete hws' ha hrest, rfl⟩⟩)
    · obtain rfl := (if_neg hkey).mp hfield
      exact (Fields.readMember_of_ne given? given hkey _).trans (Reading.map_eq_done.mpr
        ⟨given', h.steps.complete hws hws' hv hothers hrest, rfl⟩)

/-- The first element of a list is the value of the first field, if there is one. -/
theorem Fields.ReadBy.listed_cons {value : α} {expected : String} {index : Nat}
    {cs rest more : List Char} {b : α × β} (hs : Reads s.read form)
    (h : fields.ReadBy takes gives lists)
    (hread : (Fields.cons name s (some value) fields).readList expected true index cs =
      .done b rest)
    (hend : listEnd rest = .done () more) :
    ∃ vs body given, Separated IsElement (index == 0) vs body ∧
      (List.Forall₂ form vs.head?.toList given.1.toList ∧ lists vs.tail given.2) ∧
      (Fields.cons name s (some value) fields).complete given = .ok b ∧
      cs = body ++ ']' :: more := by
  rw [Fields.readList] at hread
  obtain ⟨a, behind, hfirst, hrest⟩ := Reading.andThen_eq_done.mp hread
  obtain ⟨b, hothers, rfl⟩ := Reading.map_eq_done.mp hrest
  obtain ⟨vs, body, given, hvs, hlists, hcomplete, rfl⟩ := h.listed hothers hend
  obtain ⟨more?, after, hnext, helement⟩ := Reading.andThen_eq_done.mp hfirst
  cases more? with
  | true =>
    obtain ⟨sep, c, cs', hsep, -, -, rfl, rfl⟩ := nextElement_eq_true.mp hnext
    obtain ⟨ws, v, hws, hv, heq⟩ := hs.sound helement
    exact ⟨v :: vs, _, (some a, given), .cons (hsep.append hws) (.mk (hs.isValue hv)) hvs,
      ⟨.cons hv .nil, hlists⟩, (Fields.complete_withDefault ..).mpr ⟨rfl, hcomplete⟩,
      by rw [heq]; simp⟩
  | false =>
    obtain ⟨ws, more', hws, rfl, rfl⟩ := nextElement_eq_false.mp hnext
    obtain ⟨rfl, heq⟩ := Reading.done.inj helement
    obtain ⟨rfl, rfl⟩ := hvs.eq_nil_of_close heq
    exact ⟨[], ws, (none, given), .nil hws, ⟨.nil, hlists⟩,
      (Fields.complete_withDefault ..).mpr ⟨rfl, hcomplete⟩, rfl⟩

/-- A list gives the first field by its first element, and the others by the rest. -/
theorem Fields.ReadBy.readList_cons {value : α} (hs : Reads s.read form)
    (h : fields.ReadBy takes gives lists) (expected : String) (index : Nat)
    {vs : List (List Char)} {body : List Char}
    {given : (Fields.cons name s (some value) fields).Given} {b : α × β}
    (hvs : Separated IsElement (index == 0) vs body)
    (hlists : List.Forall₂ form vs.head?.toList given.1.toList ∧ lists vs.tail given.2)
    (hgiven : (Fields.cons name s (some value) fields).complete given = .ok b) (more : List Char) :
    ∃ rest, (Fields.cons name s (some value) fields).readList expected true index
      (body ++ ']' :: more) = .done b rest ∧ listEnd rest = .done () more := by
  obtain ⟨given?, given⟩ := given
  obtain ⟨a, b⟩ := b
  obtain ⟨hfirst, hlists⟩ := hlists
  obtain ⟨rfl, hcomplete⟩ := (Fields.complete_withDefault ..).mp hgiven
  cases hvs with
  | nil hws =>
    obtain ⟨behind, hothers, hend⟩ := h.readList expected (index + 1)
      (.nil isBlanks_nil) hlists hcomplete more
    refine ⟨behind, ?_, hend⟩
    cases given? with
    | some a => cases hfirst
    | none =>
      rw [Fields.readList]
      exact Reading.andThen_eq_done.mpr ⟨value, _, Reading.andThen_eq_done.mpr ⟨false, _,
        nextElement_eq_false.mpr ⟨_, more, hws, rfl, rfl⟩, rfl⟩,
        Reading.map_eq_done.mpr ⟨b, hothers, rfl⟩⟩
  | @cons _ v vs sep _ body hsep hitem hvs =>
    obtain ⟨hvalue⟩ := hitem
    obtain ⟨behind, hothers, hend⟩ := h.readList expected (index + 1)
      hvs hlists hcomplete more
    refine ⟨behind, ?_, hend⟩
    cases given? with
    | none => cases hfirst
    | some a =>
      cases hfirst with
      | cons hv =>
        have helement := hs.complete isBlanks_nil hv (hvs.endsNumber (endsNumber_bracket more))
        obtain ⟨c, cs, rfl, hblank, hc⟩ := hvalue.begins
        rw [Fields.readList]
        refine Reading.andThen_eq_done.mpr ⟨a, _, Reading.andThen_eq_done.mpr ⟨true, _,
          nextElement_eq_true.mpr ⟨sep, c, _, hsep, hblank, hc, rfl, ?_⟩, helement⟩,
          Reading.map_eq_done.mpr ⟨b, hothers, rfl⟩⟩
        simp

/-- A further field is read by the member of its name, which may be missing. -/
theorem Fields.ReadBy.cons (name : String) (value : α) (hs : Reads s.read form)
    (h : fields.ReadBy takes gives lists) (hname : name ∉ fields.names) :
    (Fields.cons name s (some value) fields).ReadBy
      (fun given key v given' => TakesField name form given.1 key v given'.1 ∧
        takes given.2 key v given'.2)
      (fun ms given => List.Forall₂ form (valuesOf name ms) given.1.toList ∧ gives ms given.2)
      (fun vs given => List.Forall₂ form vs.head?.toList given.1.toList ∧
        lists vs.tail given.2) where
  steps := steps_cons value hs h hname
  takesAll {_ given} :=
    match given with
    | (_, _) => Fields.takesAll_cons.trans (and_congr takesAll_field h.takesAll)
  other := by
    rintro ⟨given?, given⟩ ⟨given?', given'⟩ key v hkey
    rw [Fields.names, List.mem_cons, not_or] at hkey
    have hfield : TakesField name form given? key v given?' ↔ given? = given?' :=
      iff_of_eq (if_neg hkey.1)
    exact (and_congr hfield (h.other hkey.2)).trans (iff_of_eq (Prod.mk.injEq ..)).symm
  listed := listed_cons hs h
  readList := readList_cons hs h

end

end Courier
