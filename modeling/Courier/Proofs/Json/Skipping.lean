import Courier.Proofs.Json.Tokens

/-!
# Courier — values that are passed over

A value that nobody asked for is passed over just where one stands, of any kind and any depth. The
reader keeps the brackets that are open in a list, so what is said of it is said of everything up to
the last closing bracket (`Closes`, `After`).

* `IsValue.skips` — a value is passed over, however much is open around it;
* `Turn`, `goes` — what the reader may do next;
* `after_of_skipOn` — what was passed over are values and closing brackets;
* `skipOn_eq_of_lt` — more fuel than the text can use up changes nothing;
* `skipValue_append`, `value_of_skipValue` — values on their own;
* `IsValue.append_inj` — no text begins with two values.
-/

namespace Courier.Json

-- ---------------------------------------------------------------------------
-- Words, scalars and keys
-- ---------------------------------------------------------------------------

/-- A word is skipped if it stands there letter by letter. -/
theorem keyword_eq_done {word cs rest : List Char} :
    keyword word cs = .done () rest ↔ cs = word ++ rest := by
  induction word generalizing cs with
  | nil =>
    rw [keyword, List.nil_append, Reading.done.injEq]
    exact and_iff_right rfl
  | cons w word ih =>
    cases cs with
    | nil => exact iff_of_false (fun h => nomatch h) fun h => nomatch h
    | cons c cs =>
      rw [keyword, List.cons_append, List.cons.injEq]
      by_cases hc : c = w
      · rw [if_pos hc, ih]
        exact (and_iff_right hc).symm
      · rw [if_neg hc]
        exact iff_of_false (fun h => nomatch h) fun h => hc h.1

/-- What is skipped as a scalar is one. -/
theorem scalar_of_skipScalar {cs rest : List Char} (h : skipScalar cs = .done () rest) :
    ∃ v, IsScalar v ∧ cs = v ++ rest := by
  unfold skipScalar at h
  split at h
  · exact ⟨_, .word (.head _), by rw [keyword_eq_done.mp h]; rfl⟩
  · exact ⟨_, .word (.tail _ (.head _)), by rw [keyword_eq_done.mp h]; rfl⟩
  · exact ⟨_, .word (.tail _ (.tail _ (.head _))), by rw [keyword_eq_done.mp h]; rfl⟩
  · obtain ⟨v, hv, rfl⟩ := Number.unsigned_of_skipUnsigned h
    exact ⟨_, .number (.negative hv), rfl⟩
  · obtain ⟨body, hbody, rfl⟩ := skipText_eq_done.mp h
    exact ⟨_, .text hbody, by simp⟩
  · split at h
    · obtain ⟨v, hv, hcs⟩ := Number.unsigned_of_skipUnsigned h
      exact ⟨v, .number (.positive hv), hcs⟩
    · cases h
  · cases h

/-- A digit begins a number without a sign. -/
theorem skipScalar_digit {c : Char} (hc : isDigit c = true) (cs : List Char) :
    skipScalar (c :: cs) = Number.skipUnsigned (c :: cs) := by
  have hne {d : Char} (hd : isDigit d = false) : c ≠ d := by
    rintro rfl
    rw [hc] at hd
    cases hd
  simp [skipScalar, hne (d := 'n') rfl, hne (d := 't') rfl, hne (d := 'f') rfl,
    hne (d := '-') rfl, hne (d := '"') rfl, hc]

/-- A scalar is skipped, and what follows is left. -/
theorem skipScalar_append {v rest : List Char} (hv : IsScalar v)
    (hends : IsNumber v → EndsNumber rest) : skipScalar (v ++ rest) = .done () rest := by
  cases hv with
  | word h =>
    simp only [words, List.mem_cons, List.not_mem_nil, or_false] at h
    obtain rfl | rfl | rfl := h <;> exact keyword_eq_done.mpr rfl
  | number h =>
    have hrest := hends h
    cases h with
    | positive h =>
      have hskip := Number.skipUnsigned_unsigned h hrest
      obtain ⟨c, cs, rfl, hc⟩ := h.begins
      rwa [List.cons_append, skipScalar_digit hc]
    | negative h => exact Number.skipUnsigned_unsigned h hrest
  | text h =>
    rw [List.cons_append, List.append_assoc]
    exact skipText_eq_done.mpr ⟨_, h, rfl⟩

/-- The colon may stand behind blanks. -/
theorem colon_eq_done {cs rest : List Char} :
    colon cs = .done () rest ↔ ∃ ws, IsBlanks ws ∧ cs = ws ++ ':' :: rest := by
  have hcolon : colon cs = .done () rest ↔ skipBlanks cs = ':' :: rest := by
    unfold colon
    split
    · rename_i heq
      rw [heq]
      simp
    · rename_i heq
      rw [heq]
      exact iff_of_false (fun h => nomatch h) fun h => nomatch h
    · rename_i hne _
      exact iff_of_false (fun h => nomatch h) fun h => hne _ h
  rw [hcolon, skipBlanks_eq_cons_iff]
  exact and_iff_right rfl

/-- A key is skipped with the colon behind it. -/
theorem skipKey_eq_done {cs rest : List Char} :
    skipKey cs = .done () rest ↔ ∃ key ws, IsText key ∧ IsBlanks ws ∧
      cs = '"' :: (key ++ '"' :: (ws ++ ':' :: rest)) := by
  constructor
  · intro h
    unfold skipKey at h
    split at h
    · obtain ⟨⟨⟩, more, htext, hcolon⟩ := Reading.andThen_eq_done.mp h
      obtain ⟨key, hkey, rfl⟩ := skipText_eq_done.mp htext
      obtain ⟨ws, hws, rfl⟩ := colon_eq_done.mp hcolon
      exact ⟨key, ws, hkey, hws, rfl⟩
    · cases h
    · cases h
  · rintro ⟨key, ws, hkey, hws, rfl⟩
    exact Reading.andThen_eq_done.mpr ⟨(), _, skipText_eq_done.mpr ⟨key, hkey, rfl⟩,
      colon_eq_done.mpr ⟨ws, hws, rfl⟩⟩

-- ---------------------------------------------------------------------------
-- Values are passed over
-- ---------------------------------------------------------------------------

/-- With enough fuel, all is passed over that stands before `rest`. -/
def Skips (e : Expecting) (opened : List Bracket) (cs rest : List Char) : Prop :=
  ∃ enough, ∀ fuel, enough ≤ fuel → skipOn fuel e opened cs = .done () rest

/-- What the reader looks for first among the items of a bracket, and behind an item. -/
def awaiting : Bool → Expecting
  | true => .member
  | false => .comma

/-- What the reader looks for as an item. -/
def itemIn : Bracket → Expecting
  | .list => .value
  | .object => .key

namespace Skips

variable {e e' : Expecting} {opened opened' : List Bracket} {b : Bracket}
  {cs cs' ws tail rest : List Char}

/-- One turn of the reader, and what it comes to then. -/
theorem step (h : Skips e' opened' cs' rest)
    (hstep : ∀ fuel, skipOn (fuel + 1) e opened cs = skipOn fuel e' opened' cs') :
    Skips e opened cs rest := by
  obtain ⟨enough, h⟩ := h
  refine ⟨enough + 1, fun fuel hfuel => ?_⟩
  obtain ⟨fuel, rfl⟩ : ∃ k, fuel = k + 1 := ⟨fuel - 1, by omega⟩
  rw [hstep]
  exact h fuel (by omega)

/-- Behind the last closing bracket the reader is done. -/
theorem done : Skips .comma [] rest rest :=
  ⟨1, fun fuel hfuel => by
    obtain ⟨fuel, rfl⟩ : ∃ k, fuel = k + 1 := ⟨fuel - 1, by omega⟩
    rw [skipOn]⟩

/-- An opening bracket is put on those that are open. -/
theorem start (hws : IsBlanks ws) (h : Skips .member (b :: opened) tail rest) :
    Skips .value opened (ws ++ startOf b :: tail) rest :=
  h.step fun fuel => by cases b <;> rw [skipOn, skipBlanks_append hws] <;> rfl

/-- A scalar is skipped, and a comma or a bracket comes next. -/
theorem scalar {v : List Char} (hws : IsBlanks ws) (hv : IsScalar v)
    (hends : IsNumber v → EndsNumber tail) (h : Skips .comma opened tail rest) :
    Skips .value opened (ws ++ (v ++ tail)) rest :=
  h.step fun fuel => by
    have hskip := skipScalar_append hv hends
    obtain ⟨c, cs, rfl, hblank, hlist, hobject, -⟩ := hv.begins
    rw [List.cons_append] at hskip
    rw [skipOn, skipBlanks_append hws, List.cons_append, skipBlanks_cons hblank]
    split
    · exact absurd (List.cons.inj ‹_›).1 hlist
    · exact absurd (List.cons.inj ‹_›).1 hobject
    · rw [hskip]

/-- A closing bracket closes the last one that is open. -/
theorem finish (first : Bool) (hws : IsBlanks ws) (h : Skips .comma opened tail rest) :
    Skips (awaiting first) (b :: opened) (ws ++ endOf b :: tail) rest := by
  have hblank : isBlank (endOf b) = false := by cases b <;> rfl
  refine h.step fun fuel => ?_
  cases first <;> rw [awaiting, skipOn, skipBlanks_append hws, skipBlanks_cons hblank] <;>
    exact if_pos rfl

/-- Before an item stands a comma, unless it is the first. -/
theorem item {first : Bool} {sep : List Char} {c : Char} (hsep : Separates first sep)
    (hblank : isBlank c = false) (hend : c ≠ endOf b)
    (h : ∀ ws, IsBlanks ws → Skips (itemIn b) (b :: opened) (ws ++ c :: cs) rest) :
    Skips (awaiting first) (b :: opened) (sep ++ c :: cs) rest := by
  cases hsep with
  | first hws =>
    refine (h [] isBlanks_nil).step fun fuel => ?_
    rw [awaiting, skipOn, skipBlanks_append hws, skipBlanks_cons hblank]
    dsimp only
    rw [if_neg hend]
    cases b <;> rfl
  | comma hws hws' =>
    have hcomma : (',' : Char) ≠ endOf b := by cases b <;> decide
    refine (h _ hws').step fun fuel => ?_
    rw [awaiting, skipOn, List.append_assoc, skipBlanks_append hws, List.cons_append,
      skipBlanks_cons (by decide)]
    dsimp only
    rw [if_neg hcomma, if_pos rfl]
    cases b <;> rfl

/-- A key is skipped, and its value comes next. -/
theorem key {text ws' : List Char} (hws : IsBlanks ws) (htext : IsText text) (hws' : IsBlanks ws')
    (h : Skips .value opened tail rest) :
    Skips .key opened (ws ++ '"' :: (text ++ '"' :: (ws' ++ ':' :: tail))) rest :=
  h.step fun fuel => by
    have hkey : skipKey ('"' :: (text ++ '"' :: (ws' ++ ':' :: tail))) = .done () tail :=
      skipKey_eq_done.mpr ⟨text, ws', htext, hws', rfl⟩
    rw [skipOn, skipBlanks_append hws, skipBlanks_cons (by decide), hkey]

end Skips

/-- Items between brackets are skipped if each of them is. -/
theorem Separated.skips {b : Bracket} {opened : List Bracket} {first : Bool}
    {ts : List (List Char)} {body tail rest : List Char} (h : Separated Eq first ts body)
    (hts : ∀ t ∈ ts, IsItem b t)
    (hskips : ∀ t ∈ ts, ∀ ws tail, IsBlanks ws → EndsNumber tail →
      Skips .comma (b :: opened) tail rest →
        Skips (itemIn b) (b :: opened) (ws ++ (t ++ tail)) rest)
    (hmore : Skips .comma opened tail rest) :
    Skips (awaiting first) (b :: opened) (body ++ endOf b :: tail) rest := by
  induction h with
  | nil hws => exact .finish _ hws hmore
  | @cons first t ts sep t' more hsep heq hbody ih =>
    subst heq
    obtain ⟨ht, hts⟩ := List.forall_mem_cons.mp hts
    obtain ⟨hskip, hskips⟩ := List.forall_mem_cons.mp hskips
    have hend : EndsNumber (endOf b :: tail) := by
      cases b
      · exact endsNumber_bracket tail
      · exact endsNumber_brace tail
    have htail := fun ws hws => hskip ws _ hws (hbody.endsNumber hend) (ih hts hskips)
    obtain ⟨c, cs, rfl, hblank, hc⟩ := ht.begins
    rw [List.append_assoc, List.append_assoc]
    exact .item hsep hblank hc htail

mutual

/-- A value is passed over, whatever brackets are open around it. -/
theorem IsValue.skips {v : List Char} : IsValue v → ∀ {opened ws tail rest}, IsBlanks ws →
    (IsNumber v → EndsNumber tail) → Skips .comma opened tail rest →
    Skips .value opened (ws ++ (v ++ tail)) rest
  | .scalar h, _, _, _, _, hws, hends, hmore => .scalar hws h hends hmore
  | .enclosed (b := b) h hts, opened, ws, tail, rest, hws, _, hmore => by
    have hbody := h.skips hts (fun t ht _ _ hws hends hmore => (hts t ht).skips hws hends hmore)
      hmore
    rw [List.cons_append, List.append_assoc]
    exact .start hws hbody

/-- Items are skipped, with or without a key. -/
theorem IsItem.skips {b : Bracket} {t : List Char} : IsItem b t → ∀ {opened ws tail rest},
    IsBlanks ws → EndsNumber tail → Skips .comma (b :: opened) tail rest →
    Skips (itemIn b) (b :: opened) (ws ++ (t ++ tail)) rest
  | .element h, _, _, _, _, hws, hends, hmore => h.skips hws (fun _ => hends) hmore
  | .member hkey hws₁ hws₂ h, _, _, _, _, hws, hends, hmore => by
    have hvalue := h.skips hws₂ (fun _ => hends) hmore
    have hmember := Skips.key hws hkey hws₁ hvalue
    simpa [itemIn] using hmember

end

-- ---------------------------------------------------------------------------
-- What was passed over are values
-- ---------------------------------------------------------------------------

/-- Up to the closing brackets of all that is open stand items. The first mark says whether none of
the innermost bracket was read yet. -/
inductive Closes : Bool → List Bracket → List Char → List Char → Prop where
  | nil {first : Bool} {rest : List Char} : Closes first [] rest rest
  | cons {first : Bool} {b : Bracket} {opened : List Bracket} {ts : List (List Char)}
    {body more rest : List Char} (h : Separated Eq first ts body) (hts : ∀ t ∈ ts, IsItem b t)
    (hmore : Closes false opened more rest) :
    Closes first (b :: opened) (body ++ endOf b :: more) rest

/-- What stands up to the closing brackets where the reader looks for this. -/
inductive After : Expecting → List Bracket → List Char → List Char → Prop where
  | value {opened : List Bracket} {ws v more rest : List Char} (hws : IsBlanks ws) (hv : IsValue v)
    (h : Closes false opened more rest) : After .value opened (ws ++ (v ++ more)) rest
  | key {opened : List Bracket} {ws t more rest : List Char} (hws : IsBlanks ws)
    (ht : IsItem .object t) (h : Closes false opened more rest) :
    After .key opened (ws ++ (t ++ more)) rest
  | member {opened : List Bracket} {cs rest : List Char} (h : Closes true opened cs rest) :
    After .member opened cs rest
  | comma {opened : List Bracket} {cs rest : List Char} (h : Closes false opened cs rest) :
    After .comma opened cs rest

/-- Blanks put together are blanks. -/
theorem isBlanks_append {ws ws' : List Char} :
    IsBlanks (ws ++ ws') ↔ IsBlanks ws ∧ IsBlanks ws' := List.forall_mem_append

/-- A further item may stand before what closes the brackets. -/
theorem Closes.item {first : Bool} {b : Bracket} {opened : List Bracket}
    {sep t more rest : List Char} (hsep : Separates first sep) (ht : IsItem b t)
    (h : Closes false (b :: opened) more rest) :
    Closes first (b :: opened) (sep ++ (t ++ more)) rest := by
  cases h with
  | cons hbody hts hmore =>
    have hcons := Closes.cons (.cons hsep rfl hbody) (List.forall_mem_cons.mpr ⟨ht, hts⟩) hmore
    simpa using hcons

/-- Behind an item stands what its bracket needs. -/
theorem After.item {b : Bracket} {opened : List Bracket} {cs rest : List Char}
    (h : After (itemIn b) (b :: opened) cs rest) :
    ∃ ws t more, IsBlanks ws ∧ IsItem b t ∧ cs = ws ++ (t ++ more) ∧
      Closes false (b :: opened) more rest := by
  cases b with
  | list =>
    cases h with
    | value hws hv h => exact ⟨_, _, _, hws, .element hv, rfl, h⟩
  | object =>
    cases h with
    | key hws ht h => exact ⟨_, _, _, hws, ht, rfl, h⟩

/-- One turn of the reader: what it looked for, in which brackets and in front of what, and the same
after the turn. -/
inductive Turn : Expecting → List Bracket → List Char →
    Expecting → List Bracket → List Char → Prop where
  | start {b : Bracket} {opened : List Bracket} {ws more : List Char} (hws : IsBlanks ws) :
    Turn .value opened (ws ++ startOf b :: more) .member (b :: opened) more
  | scalar {opened : List Bracket} {ws v more : List Char} (hws : IsBlanks ws) (hv : IsScalar v) :
    Turn .value opened (ws ++ (v ++ more)) .comma opened more
  | key {opened : List Bracket} {ws key ws' more : List Char} (hws : IsBlanks ws)
    (hkey : IsText key) (hws' : IsBlanks ws') :
    Turn .key opened (ws ++ '"' :: (key ++ '"' :: (ws' ++ ':' :: more))) .value opened more
  | finish {first : Bool} {b : Bracket} {opened : List Bracket} {ws more : List Char}
    (hws : IsBlanks ws) :
    Turn (awaiting first) (b :: opened) (ws ++ endOf b :: more) .comma opened more
  | first {b : Bracket} {opened : List Bracket} {ws more : List Char} {c : Char}
    (hws : IsBlanks ws) :
    Turn .member (b :: opened) (ws ++ c :: more) (itemIn b) (b :: opened) (c :: more)
  | comma {b : Bracket} {opened : List Bracket} {ws more : List Char} (hws : IsBlanks ws) :
    Turn .comma (b :: opened) (ws ++ ',' :: more) (itemIn b) (b :: opened) more

theorem Turn.after {e e' : Expecting} {opened opened' : List Bracket} {cs cs' rest : List Char}
    (h : Turn e opened cs e' opened' cs') (hafter : After e' opened' cs' rest) :
    After e opened cs rest := by
  cases h with
  | start hws =>
    cases hafter with
    | member h =>
      cases h with
      | cons hbody hts hopened =>
        have hvalue := After.value hws (.enclosed hbody hts) hopened
        simpa using hvalue
  | scalar hws hv =>
    cases hafter with
    | comma h => exact .value hws (.scalar hv) h
  | key hws hkey hws' =>
    cases hafter with
    | value hws'' hv h =>
      have hmember := After.key hws (.member hkey hws' hws'' hv) h
      simpa using hmember
  | @finish first b _ _ _ hws =>
    cases hafter with
    | comma h =>
      have hcloses : Closes first (b :: opened') _ rest := .cons (.nil hws) (fun _ h => nomatch h) h
      cases first
      · exact .comma hcloses
      · exact .member hcloses
  | first hws =>
    obtain ⟨ws', t, more, hws', ht, hcs, hmore⟩ := hafter.item
    rw [hcs, ← List.append_assoc]
    exact .member (hmore.item (.first (isBlanks_append.mpr ⟨hws, hws'⟩)) ht)
  | comma hws =>
    obtain ⟨ws', t, more, hws', ht, rfl, hmore⟩ := hafter.item
    have hitem := hmore.item (.comma hws hws') ht
    simpa using After.comma hitem

/-- What the reader does, whatever fuel is left: it takes a turn, or ends. -/
inductive Goes (e : Expecting) (opened : List Bracket) (cs : List Char) : Prop where
  | on {e' : Expecting} {opened' : List Bracket} {cs' : List Char}
    (hturn : Turn e opened cs e' opened' cs')
    (h : ∀ fuel, skipOn (fuel + 1) e opened cs = skipOn fuel e' opened' cs')
  | ends {r : Reading Unit} (h : ∀ fuel, skipOn (fuel + 1) e opened cs = r)
    (hr : ∀ rest, r = .done () rest → After e opened cs rest)

/-- What the reader does where a value is expected. -/
theorem goes_value (opened : List Bracket) (cs : List Char) : Goes .value opened cs := by
  obtain ⟨ws, hws, hcs, -⟩ := skipBlanks_spec cs
  by_cases hstart : ∃ b more, skipBlanks cs = startOf b :: more
  · obtain ⟨b, more, hmore⟩ := hstart
    have hturn : Turn .value opened cs .member (b :: opened) more := by
      rw [hcs, hmore]
      exact .start hws
    exact .on hturn fun fuel => by cases b <;> rw [skipOn, hmore] <;> rfl
  · have hvalue (fuel : Nat) : skipOn (fuel + 1) .value opened cs =
        (skipScalar (skipBlanks cs)).andThen fun _ rest => skipOn fuel .comma opened rest := by
      rw [skipOn]
      split
      · exact absurd ⟨.list, _, ‹_›⟩ hstart
      · exact absurd ⟨.object, _, ‹_›⟩ hstart
      · cases skipScalar (skipBlanks cs) <;> rfl
    cases hscalar : skipScalar (skipBlanks cs) with
    | done _ more =>
      obtain ⟨v, hv, hmore⟩ := scalar_of_skipScalar hscalar
      have hturn : Turn .value opened cs .comma opened more := by
        rw [hcs, hmore]
        exact .scalar hws hv
      exact .on hturn fun fuel => by rw [hvalue, hscalar]; rfl
    | refused cause more =>
      exact .ends (fun fuel => by rw [hvalue, hscalar]; rfl) fun _ h => by cases h
    | failed cause left =>
      exact .ends (fun fuel => by rw [hvalue, hscalar]; rfl) fun _ h => by cases h

theorem goes_key (opened : List Bracket) (cs : List Char) : Goes .key opened cs := by
  obtain ⟨ws, hws, hcs, -⟩ := skipBlanks_spec cs
  cases hkey : skipKey (skipBlanks cs) with
  | done _ more =>
    obtain ⟨key, ws', hkey', hws', hmore⟩ := skipKey_eq_done.mp hkey
    have hturn : Turn .key opened cs .value opened more := by
      rw [hcs, hmore]
      exact .key hws hkey' hws'
    exact .on hturn fun fuel => by rw [skipOn, hkey]
  | refused cause more => exact .ends (fun fuel => by rw [skipOn, hkey]) fun _ h => by cases h
  | failed cause left => exact .ends (fun fuel => by rw [skipOn, hkey]) fun _ h => by cases h

theorem goes_member (opened : List Bracket) (cs : List Char) : Goes .member opened cs := by
  obtain ⟨ws, hws, hcs, -⟩ := skipBlanks_spec cs
  cases opened with
  | nil => exact .ends (fun _ => rfl) fun rest h => by cases h; exact .member .nil
  | cons b opened =>
    cases hmore : skipBlanks cs with
    | nil => exact .ends (fun fuel => by rw [skipOn, hmore]) fun _ h => by cases h
    | cons c more =>
      rw [hmore] at hcs
      by_cases hend : c = endOf b
      · have hturn : Turn (awaiting true) (b :: opened) cs .comma opened more := by
          rw [hcs, hend]
          exact .finish hws
        refine .on hturn fun fuel => ?_
        rw [skipOn, hmore]
        exact if_pos hend
      · have hturn : Turn .member (b :: opened) cs (itemIn b) (b :: opened) (c :: more) := by
          rw [hcs]
          exact .first hws
        refine .on hturn fun fuel => ?_
        rw [skipOn, hmore]
        cases b <;> exact if_neg hend

theorem goes_comma (opened : List Bracket) (cs : List Char) : Goes .comma opened cs := by
  obtain ⟨ws, hws, hcs, -⟩ := skipBlanks_spec cs
  cases opened with
  | nil => exact .ends (fun _ => rfl) fun rest h => by cases h; exact .comma .nil
  | cons b opened =>
    cases hmore : skipBlanks cs with
    | nil => exact .ends (fun fuel => by rw [skipOn, hmore]) fun _ h => by cases h
    | cons c more =>
      rw [hmore] at hcs
      by_cases hend : c = endOf b
      · have hturn : Turn (awaiting false) (b :: opened) cs .comma opened more := by
          rw [hcs, hend]
          exact .finish hws
        refine .on hturn fun fuel => ?_
        rw [skipOn, hmore]
        exact if_pos hend
      · by_cases hcomma : c = ','
        · have hturn : Turn .comma (b :: opened) cs (itemIn b) (b :: opened) more := by
            rw [hcs, hcomma]
            exact .comma hws
          refine .on hturn fun fuel => ?_
          rw [skipOn, hmore]
          cases b <;> exact (if_neg hend).trans (if_pos hcomma)
        · refine .ends (r := failNext (commaMissing b) (c :: more)) (fun fuel => ?_) fun _ h => ?_
          · rw [skipOn, hmore]
            exact (if_neg hend).trans (if_neg hcomma)
          · cases h

/-- One turn of `skipOn`, wherever it stands. -/
theorem goes (e : Expecting) (opened : List Bracket) (cs : List Char) : Goes e opened cs :=
  match e with
  | .value => goes_value opened cs
  | .key => goes_key opened cs
  | .member => goes_member opened cs
  | .comma => goes_comma opened cs

/-- What was skipped is what may be expected there, with all brackets closed. -/
theorem after_of_skipOn {fuel : Nat} {e : Expecting} {opened : List Bracket} {cs rest : List Char}
    (h : skipOn fuel e opened cs = .done () rest) : After e opened cs rest := by
  induction fuel generalizing e opened cs with
  | zero => cases h
  | succ fuel ih =>
    cases goes e opened cs with
    | on hturn hskip => exact hturn.after (ih ((hskip fuel).symm.trans h))
    | ends hskip hr => exact hr rest ((hskip fuel).symm.trans h)

-- ---------------------------------------------------------------------------
-- Fuel
-- ---------------------------------------------------------------------------

/-- A bound for the steps to come. Only a turn from a bracket to its first item takes no
character. -/
def weight : Expecting → List Char → Nat
  | .member, cs => 2 * cs.length + 1
  | _, cs => 2 * cs.length

/-- Each turn leaves less to read. -/
theorem Turn.weight_lt {e e' : Expecting} {opened opened' : List Bracket} {cs cs' : List Char}
    (h : Turn e opened cs e' opened' cs') : weight e' cs' < weight e cs := by
  cases h with
  | start hws =>
    simp only [weight, List.length_append, List.length_cons]
    omega
  | scalar hws hv =>
    obtain ⟨c, v, rfl, -⟩ := hv.begins
    simp only [weight, List.length_append, List.length_cons]
    omega
  | key hws hkey hws' =>
    simp only [weight, List.length_append, List.length_cons]
    omega
  | @finish first _ _ _ _ hws =>
    cases first <;> simp only [awaiting, weight, List.length_append, List.length_cons] <;> omega
  | @first b _ _ _ _ hws =>
    cases b <;> simp only [itemIn, weight, List.length_append, List.length_cons] <;> omega
  | @comma b _ _ _ hws =>
    cases b <;> simp only [itemIn, weight, List.length_append, List.length_cons] <;> omega

/-- More fuel than the text can use up changes nothing. -/
theorem skipOn_eq_of_lt {fuel fuel' : Nat} {e : Expecting} {opened : List Bracket} {cs : List Char}
    (h : weight e cs < fuel) (h' : weight e cs < fuel') :
    skipOn fuel e opened cs = skipOn fuel' e opened cs := by
  induction fuel generalizing fuel' e opened cs with
  | zero => exact absurd h (Nat.not_lt_zero _)
  | succ fuel ih =>
    obtain ⟨fuel', rfl⟩ : ∃ k, fuel' = k + 1 := ⟨fuel' - 1, by omega⟩
    cases goes e opened cs with
    | on hturn hskip =>
      have hless := hturn.weight_lt
      rw [hskip, hskip]
      exact ih (by omega) (by omega)
    | ends hskip => rw [hskip, hskip]

/-- A value of the grammar is skipped, and what follows is left. -/
theorem skipValue_append {ws v rest : List Char} (hws : IsBlanks ws) (hv : IsValue v)
    (hends : IsNumber v → EndsNumber rest) : skipValue (ws ++ (v ++ rest)) = .done () rest := by
  have hvalue : Skips .value [] (ws ++ (v ++ rest)) rest := hv.skips hws hends .done
  obtain ⟨enough, hskips⟩ := hvalue
  let cs := ws ++ (v ++ rest)
  have hfuel : weight .value cs < 2 * cs.length + 2 := Nat.lt_add_of_pos_right (by decide)
  have hmax : weight .value cs < max enough (2 * cs.length + 2) :=
    Nat.lt_of_lt_of_le hfuel (Nat.le_max_right ..)
  exact (skipOn_eq_of_lt hfuel hmax).trans (hskips _ (Nat.le_max_left ..))

/-- What is skipped is a value of the grammar. -/
theorem value_of_skipValue {cs rest : List Char} (h : skipValue cs = .done () rest) :
    ∃ ws v, IsBlanks ws ∧ IsValue v ∧ cs = ws ++ (v ++ rest) := by
  cases after_of_skipOn h with
  | value hws hv hmore =>
    cases hmore
    exact ⟨_, _, hws, hv, rfl⟩

/-- No text begins with two values. -/
theorem IsValue.append_inj {ws v rest ws' v' rest' : List Char} (hv : IsValue v) (hv' : IsValue v')
    (hws : IsBlanks ws) (hws' : IsBlanks ws') (hends : IsNumber v → EndsNumber rest)
    (hends' : IsNumber v' → EndsNumber rest')
    (h : ws ++ (v ++ rest) = ws' ++ (v' ++ rest')) : v = v' ∧ rest = rest' := by
  have hskip := skipValue_append hws hv hends
  rw [h, skipValue_append hws' hv' hends'] at hskip
  obtain rfl := (Reading.done.inj hskip).2
  rw [← List.append_assoc, ← List.append_assoc, List.append_cancel_right_eq] at h
  have hvalue := congrArg skipBlanks h
  obtain ⟨c, cs, rfl, hc, -⟩ := hv.begins
  obtain ⟨c', cs', rfl, hc', -⟩ := hv'.begins
  rw [skipBlanks_append hws, skipBlanks_append hws', skipBlanks_cons hc,
    skipBlanks_cons hc'] at hvalue
  exact ⟨hvalue, rfl⟩

end Courier.Json
