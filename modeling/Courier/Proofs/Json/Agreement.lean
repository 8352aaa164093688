import Courier.Proofs.Base64
import Courier.Proofs.Json.Readings
import Mathlib.Data.Prod.Basic
import Mathlib.Data.Sum.Basic

/-!
# Courier — schemas that agree

Two schemas may ask for the same but in one place, where one of them takes only part of what the
other one takes. A reader by the one then yields a value just when a reader by the other one yields
what is written for it, whatever the text looks like around that place: order of fields, blanks,
unknown fields. This holds of a schema if it holds of its parts.

* `Reading.Agrees` — two readings, and how they go on;
* `Schema.AgreesBy`, `Fields.AgreesBy`, `Cases.AgreesBy` — two schemas;
* `AgreesBy.base64` — a block in Base64 and any text;
* `AgreesBy.optional`, `record`, `choice`, `cons` — what is made of schemas that agree.
-/

namespace Courier

open Json

/-- A type and itself. -/
def Bijection.refl (α : Type) : Bijection α α :=
  ⟨fun a => a, fun a => a, fun _ => rfl, fun _ => rfl⟩

-- ---------------------------------------------------------------------------
-- Readings that agree
-- ---------------------------------------------------------------------------

namespace Json.Reading

variable {α β γ δ : Type}

/-- One reading yields a value just when the other one yields what is written for it. -/
def Agrees (f : α → β) (r : Reading α) (r' : Reading β) : Prop :=
  ∀ a rest, r = .done a rest ↔ r' = .done (f a) rest

/-- A reader agrees with itself. -/
theorem Agrees.same (r : Reading α) : Agrees (fun a => a) r r := fun _ _ => Iff.rfl

/-- Readers that both refuse agree, whatever their reasons. -/
theorem Agrees.refused {f : α → β} {c c' : Cause} {cs cs' : List Char} :
    Agrees f (.refused c cs) (.refused c' cs') :=
  fun _ _ => iff_of_false (fun h => nomatch h) fun h => nomatch h

theorem Agrees.failed {f : α → β} {c c' : Cause} {n n' : Nat} :
    Agrees f (.failed c n) (.failed c' n') :=
  fun _ _ => iff_of_false (fun h => nomatch h) fun h => nomatch h

/-- Readers that have read values that belong together agree. -/
theorem Agrees.done {f : α → β} (hf : Function.Injective f) (a : α) (rest : List Char) :
    Agrees f (.done a rest) (.done (f a) rest) := fun a' rest' => by
  simp [hf.eq_iff]

/-- What goes on with both values. Where the loosened reader went astray, it does not find back. -/
theorem Agrees.andThen {f : α → β} {g : γ → δ} {r : Reading α} {r' : Reading β}
    {k : α → List Char → Reading γ} {k' : β → List Char → Reading δ} (h : Agrees f r r')
    (hk : ∀ a rest, Agrees g (k a rest) (k' (f a) rest))
    (hback : ∀ b rest c more, k' b rest = .done (g c) more → ∃ a, f a = b) :
    Agrees g (r.andThen k) (r'.andThen k') := by
  intro c more
  rw [andThen_eq_done, andThen_eq_done]
  constructor
  · rintro ⟨a, rest, hr, hc⟩
    exact ⟨f a, rest, (h a rest).mp hr, (hk a rest c more).mp hc⟩
  · rintro ⟨b, rest, hr, hc⟩
    obtain ⟨a, rfl⟩ := hback b rest c more hc
    exact ⟨a, rest, (h a rest).mpr hr, (hk a rest c more).mpr hc⟩

/-- What goes on behind the same value. -/
theorem Agrees.behind {g : γ → δ} (r : Reading α) {k : α → List Char → Reading γ}
    {k' : α → List Char → Reading δ} (hk : ∀ a rest, Agrees g (k a rest) (k' a rest)) :
    Agrees g (r.andThen k) (r.andThen k') :=
  (Agrees.same r).andThen hk fun b _ _ _ _ => ⟨b, rfl⟩

/-- Readers agree after both values are made into something else that belongs together. -/
theorem Agrees.map {f : α → β} {g : γ → δ} {r : Reading α} {r' : Reading β} {k : α → γ}
    {k' : β → δ} (h : Agrees f r r') (hk : ∀ a, k' (f a) = g (k a))
    (hg : Function.Injective g) (hback : ∀ b c, k' b = g c → ∃ a, f a = b) :
    Agrees g (r.map k) (r'.map k') := by
  refine h.andThen (fun a rest => ?_) fun b rest c more hc => ?_
  · rw [hk]
    exact .done hg _ _
  · exact hback b c (Reading.done.inj hc).1

/-- Settling where a refusal stands changes no value. -/
theorem Agrees.settle {f : α → β} {r : Reading α} {r' : Reading β} (h : Agrees f r r') :
    Agrees f r.settle r'.settle := fun a rest => by
  rw [settle_eq_done, settle_eq_done]
  exact h a rest

end Json.Reading

/-- Readers of loosened members agree as their steps do. -/
theorem Json.readMembers_agrees {σ τ : Type} {f : σ → τ} {step : σ → String → List Char → Reading σ}
    {step' : τ → String → List Char → Reading τ} (hf : Function.Injective f)
    (hstep : ∀ s key cs, Reading.Agrees f (step s key cs) (step' (f s) key cs))
    (hback : ∀ t key cs s rest, step' t key cs = .done (f s) rest → ∃ s₀, f s₀ = t)
    (fuel : Nat) (first : Bool) (cs : List Char) :
    (∀ s, Reading.Agrees f (readMembers step fuel first s cs)
        (readMembers step' fuel first (f s) cs)) ∧
      ∀ t s rest, readMembers step' fuel first t cs = .done (f s) rest → ∃ s₀, f s₀ = t := by
  induction fuel generalizing first cs with
  | zero => exact ⟨fun s => .failed, fun t s rest h => nomatch h⟩
  | succ fuel ih =>
    have hmember (t : τ) (cs : List Char) (s : σ) (rest : List Char)
        (h : (readText cs).andThen (step' t) = .done (f s) rest) : ∃ s₀, f s₀ = t := by
      obtain ⟨key, more, -, hdone⟩ := Reading.andThen_eq_done.mp h
      exact hback t key more s rest hdone
    constructor
    · intro s
      rw [readMembers_succ, readMembers_succ]
      refine .behind _ fun more rest => ?_
      cases more
      · exact .done hf s rest
      · exact ((Reading.Agrees.same _).andThen (fun key cs => hstep s key cs)
          fun b _ _ _ _ => ⟨b, rfl⟩).andThen (fun s rest => (ih false rest).1 s)
          fun t rest s more h => (ih false rest).2 t s more h
    · intro t s rest h
      rw [readMembers_succ] at h
      obtain ⟨more, cs', -, h⟩ := Reading.andThen_eq_done.mp h
      cases more
      · cases h
        exact ⟨s, rfl⟩
      · obtain ⟨t', cs'', hfirst, h⟩ := Reading.andThen_eq_done.mp h
        obtain ⟨s', rfl⟩ := (ih false cs'').2 t' s rest h
        exact hmember t cs' s' cs'' hfirst

/-- Readers that expect something agree if they accept the same. -/
theorem Json.expecting_agrees {α β : Type} {f : α → β} {expected expected' : String}
    {accept : List Char → Option (Reading α)} {accept' : List Char → Option (Reading β)}
    (h : ∀ cs a rest, accept cs = some (.done a rest) ↔ accept' cs = some (.done (f a) rest))
    (cs : List Char) :
    Reading.Agrees f (expecting expected accept cs) (expecting expected' accept' cs) := by
  intro a rest
  rw [expecting_eq_done, expecting_eq_done, h]

/-- Readers of what stands in brackets agree if those of the inside do. -/
theorem Json.closeWith_agrees {α β : Type} {ends : List Char → Reading Unit}
    {past : List Char → List Char} {f : α → β} {r : Reading α} {r' : Reading β}
    (h : Reading.Agrees f r r') :
    Reading.Agrees f (closeWith ends past r) (closeWith ends past r') := by
  intro a rest
  rw [closeWith_eq_done, closeWith_eq_done]
  simp only [h a]

/-- Readers of alternatives agree if those of their values do. -/
theorem Json.readChoice_agrees {α β : Type} {f : α → β} (hf : Function.Injective f)
    {bare keyed : List Char → Reading α} {bare' keyed' : List Char → Reading β}
    (hbare : ∀ cs, Reading.Agrees f (bare cs) (bare' cs))
    (hkeyed : ∀ cs, Reading.Agrees f (keyed cs) (keyed' cs)) (cs : List Char) :
    Reading.Agrees f (readChoice bare keyed cs) (readChoice bare' keyed' cs) := by
  unfold readChoice
  split
  · exact .failed
  · exact hbare _
  · refine (hkeyed _).andThen (fun a rest => ?_) fun b rest c more h => ?_
    · split
      · exact .done hf _ _
      · exact .failed
      · exact .failed
    · split at h
      · cases h
        exact ⟨c, rfl⟩
      · cases h
      · cases h
  · exact .failed

/-- The value behind one of the same names. -/
theorem Json.keyed_agrees {α β : Type} {f : α → β} {known known' : List String}
    (h : known' = known) {k : Nat → List Char → Reading α} {k' : Nat → List Char → Reading β}
    (hk : ∀ n cs, Reading.Agrees f (k n cs) (k' n cs)) (cs : List Char) :
    Reading.Agrees f
      ((readName known cs).andThen fun i rest =>
        (colon rest).andThen fun _ rest => k i.val rest)
      ((readName known' cs).andThen fun i rest =>
        (colon rest).andThen fun _ rest => k' i.val rest) := by
  subst h
  exact .behind _ fun i rest => .behind _ fun _ rest => hk i.val rest

/-- A bare name is no value of a type with data, for either reader. -/
theorem Json.bare_agrees {α β : Type} {f : α → β} {known known' : List String}
    (h : known' = known) {c c' : Cause} (cs : List Char) :
    Reading.Agrees f ((readName known cs).andThen fun _ rest => .refused c rest)
      ((readName known' cs).andThen fun _ rest => .refused c' rest) := by
  subst h
  exact .behind _ fun i rest => .refused

-- ---------------------------------------------------------------------------
-- Schemas that agree
-- ---------------------------------------------------------------------------

/-- A schema reads a value just when another one reads what is written for it. -/
structure Schema.AgreesBy {α β : Type} (f : α → β) (s : Schema α) (s' : Schema β) : Prop where
  injective : Function.Injective f
  read : ∀ cs, Reading.Agrees f (s.read cs) (s'.read cs)

/-- Fields agree in a list and one by one; `g` takes along those that were given so far. -/
structure Fields.AgreesBy {β γ : Type} (f : β → γ) (fields : Fields β) (fields' : Fields γ)
    (g : fields.Given → fields'.Given) : Prop where
  injective : Function.Injective f
  injective_given : Function.Injective g
  noneGiven : g fields.noneGiven = fields'.noneGiven
  complete : ∀ given b, fields.complete given = .ok b ↔ fields'.complete (g given) = .ok (f b)
  complete_back : ∀ given' b, fields'.complete given' = .ok (f b) → ∃ given, g given = given'
  readList : ∀ expected expected' lenient index cs,
    Reading.Agrees f (fields.readList expected lenient index cs)
      (fields'.readList expected' lenient index cs)
  readMember : ∀ given key cs,
    Reading.Agrees g (fields.readMember given key cs) (fields'.readMember (g given) key cs)
  readMember_back : ∀ given' key cs given rest,
    fields'.readMember given' key cs = .done (g given) rest → ∃ given₀, g given₀ = given'

structure Cases.AgreesBy {β γ : Type} (f : β → γ) (cases : Cases β) (cases' : Cases γ) : Prop where
  injective : Function.Injective f
  names : cases'.names = cases.names
  read : ∀ index cs, Reading.Agrees f (cases.read index cs) (cases'.read index cs)

/-- A schema agrees with itself. -/
theorem Schema.AgreesBy.same {α : Type} (s : Schema α) : s.AgreesBy (fun a => a) s :=
  ⟨fun _ _ h => h, fun _ => .same _⟩

section

variable {α α' β β' : Type} {name : String} {s : Schema α} {s' : Schema α'} {f : α → α'}
  {fields : Fields β} {fields' : Fields β'} {h : β → β'} {g : fields.Given → fields'.Given}

/-- Blocks are known by their bytes. -/
theorem Block.ext_bytes {n : Nat} {b b' : Block n} (h : b.bytes = b'.bytes) : b = b' := by
  cases b
  cases b'
  cases h
  rfl

/-- A block in Base64 and any text. -/
theorem Schema.AgreesBy.base64 (n : Nat) :
    (Schema.base64 n).AgreesBy (fun b => Base64.encode b.bytes) .text where
  injective b b' heq := Block.ext_bytes (Base64.encode_injective heq)
  read cs := by
    intro b rest
    show (readString "a string" cs).andThen _ = _ ↔ readString "a string" cs = _
    rw [Reading.andThen_eq_done]
    constructor
    · rintro ⟨text, more, htext, h⟩
      split at h
      · rename_i bs hdecode
        unfold asBlock at h
        split at h
        · cases h
          rw [htext, Base64.decode_eq_ok_iff.mp hdecode]
        · cases h
      · cases h
    · intro htext
      refine ⟨_, rest, htext, ?_⟩
      rw [Base64.decode_eq_ok_iff.mpr rfl]
      exact dif_pos b.length_bytes

/-- Optional values agree if the values do. -/
theorem Schema.AgreesBy.optional (hs : s.AgreesBy f s') :
    (Schema.optional s).AgreesBy (Option.map f) (.optional s') where
  injective := Option.map_injective hs.injective
  read cs := by
    rw [Schema.read, Schema.read]
    split
    · exact .behind _ fun _ rest => .done (Option.map_injective hs.injective) none rest
    · refine (hs.read _).map (fun _ => rfl) (Option.map_injective hs.injective) fun b c h => ?_
      obtain ⟨a, -, ha⟩ := Option.map_eq_some_iff.mp h.symm
      exact ⟨a, ha⟩

/-- The members of an object up to its closing brace. -/
theorem Fields.AgreesBy.readObject (hfields : fields.AgreesBy h fields' g) (cs : List Char) :
    Reading.Agrees h
      (closeObject ((readMembers (fun given key cs => fields.readMember given key cs)
        (cs.length + 1) true fields.noneGiven cs).andThen fields.finish))
      (closeObject ((readMembers (fun given key cs => fields'.readMember given key cs)
        (cs.length + 1) true fields'.noneGiven cs).andThen fields'.finish)) := by
  obtain ⟨hmembers, -⟩ := readMembers_agrees hfields.injective_given hfields.readMember
    hfields.readMember_back (cs.length + 1) true cs
  rw [← hfields.noneGiven]
  refine closeWith_agrees ((hmembers _).andThen (fun given rest b more => ?_)
    fun given' rest b more hdone => ?_)
  · rw [finish_eq_done, finish_eq_done, hfields.complete given b]
  · exact hfields.complete_back given' b (finish_eq_done.mp hdone).1

/-- Records agree if their fields do. -/
theorem Schema.AgreesBy.record (hfields : fields.AgreesBy h fields' g) (name : String)
    (lenient : Bool) (view : Bijection α β) :
    (Schema.record name lenient fields view).AgreesBy (fun a => h (view.forth a))
      (.record name lenient fields' (.refl β')) := by
  have hinjective : Function.Injective fun a => h (view.forth a) := fun a a' heq => by
    rw [← view.back_forth a, hfields.injective heq, view.back_forth]
  refine ⟨hinjective, fun cs => ?_⟩
  rw [Schema.read, Schema.read]
  refine Reading.Agrees.map (f := h) ?_ (fun b => ?_) hinjective fun b c heq => ⟨_, heq.symm⟩
  · refine expecting_agrees (fun cs b rest => ?_) cs
    split
    · rw [Option.some.injEq, Option.some.injEq]
      exact closeWith_agrees (hfields.readList _ _ lenient 0 _) b rest
    · rw [Option.some.injEq, Option.some.injEq]
      exact hfields.readObject _ b rest
    · exact iff_of_false (fun h => nomatch h) fun h => nomatch h
  · show h b = h (view.forth (view.back b))
    rw [view.forth_back]

/-- Types of alternatives agree if their alternatives do. -/
theorem Schema.AgreesBy.choice {cases : Cases β} {cases' : Cases β'}
    (hcases : cases.AgreesBy h cases') (view : Bijection α β) :
    (Schema.choice cases view).AgreesBy (fun a => h (view.forth a))
      (.choice cases' (.refl β')) := by
  have hinjective : Function.Injective fun a => h (view.forth a) := fun a a' heq => by
    rw [← view.back_forth a, hcases.injective heq, view.back_forth]
  refine ⟨hinjective, fun cs => ?_⟩
  rw [Schema.read, Schema.read]
  refine Reading.Agrees.map (f := h) ?_ (fun b => ?_) hinjective fun b c heq => ⟨_, heq.symm⟩
  · exact readChoice_agrees hcases.injective (bare_agrees hcases.names)
      (keyed_agrees hcases.names hcases.read) cs
  · show h b = h (view.forth (view.back b))
    rw [view.forth_back]

/-- A name is the same in both. -/
theorem Cases.AgreesBy.nil : Cases.nil.AgreesBy (fun b => b) .nil :=
  ⟨fun _ _ h => h, rfl, fun _ _ => .failed⟩

/-- A further alternative agrees if its values do. -/
theorem Cases.AgreesBy.cons {cases : Cases β} {cases' : Cases β'} (hs : s.AgreesBy f s')
    (hcases : cases.AgreesBy h cases') (name : String) :
    (Cases.cons name s cases).AgreesBy (Sum.map f h) (.cons name s' cases') where
  injective := hs.injective.sumMap hcases.injective
  names := congrArg (name :: ·) hcases.names
  read index cs := by
    have hinjective : Function.Injective (Sum.map f h) := hs.injective.sumMap hcases.injective
    cases index with
    | zero =>
      rw [Cases.read, Cases.read]
      refine (hs.read cs).map (fun _ => rfl) hinjective fun b c heq => ?_
      cases c with
      | inl a => exact ⟨a, (Sum.inl.inj heq).symm⟩
      | inr b => cases heq
    | succ index =>
      rw [Cases.read, Cases.read]
      refine (hcases.read index cs).map (fun _ => rfl) hinjective fun b c heq => ?_
      cases c with
      | inl a => cases heq
      | inr b => exact ⟨b, (Sum.inr.inj heq).symm⟩

/-- Records without fields agree. -/
theorem Fields.AgreesBy.nil : Fields.nil.AgreesBy (fun b => b) .nil (fun given => given) where
  injective := fun _ _ h => h
  injective_given := fun _ _ h => h
  noneGiven := rfl
  complete _ _ := Iff.rfl
  complete_back given' _ _ := ⟨given', rfl⟩
  readList _ _ _ _ _ := .same _
  readMember _ _ _ := .same _
  readMember_back given' _ _ _ _ _ := ⟨given', rfl⟩

/-- What was given of a first field and of the others, taken along. -/
def Fields.givenAlong (f : α → α') (g : fields.Given → fields'.Given) {absent : Option α} :
    (Fields.cons name s absent fields).Given →
      (Fields.cons name s' (absent.map f) fields').Given :=
  fun given => (given.1.map f, g given.2)

theorem Fields.givenAlong_injective (hf : Function.Injective f) (hg : Function.Injective g)
    {absent : Option α} : Function.Injective (Fields.givenAlong f g : (Fields.cons name s absent
      fields).Given → (Fields.cons name s' (absent.map f) fields').Given) :=
  (Option.map_injective hf).prodMap hg

/-- A further field agrees if its values do. -/
theorem Fields.AgreesBy.cons (hs : s.AgreesBy f s') (hfields : fields.AgreesBy h fields' g)
    (name : String) (absent : Option α) :
    (Fields.cons name s absent fields).AgreesBy (fun b => (f b.1, h b.2))
      (.cons name s' (absent.map f) fields') (Fields.givenAlong f g) where
  injective := hs.injective.prodMap hfields.injective
  injective_given := Fields.givenAlong_injective hs.injective hfields.injective_given
  noneGiven := Prod.ext rfl hfields.noneGiven
  complete := fun (given?, given) (a, b) => by
    have hfirst : given?.or absent = some a ↔ (given?.map f).or (absent.map f) = some (f a) := by
      rw [← Option.map_or, Option.map_eq_some_iff]
      refine ⟨fun h => ⟨a, h, rfl⟩, ?_⟩
      rintro ⟨a', h, heq⟩
      rwa [hs.injective heq] at h
    refine (Fields.complete_cons given? given a b).trans ?_
    rw [hfirst, hfields.complete given b]
    exact (Fields.complete_cons _ _ _ _).symm
  complete_back := fun (given?, given') (a, b) h => by
    obtain ⟨hfirst, hrest⟩ := (Fields.complete_cons _ _ _ _).mp h
    obtain ⟨given, rfl⟩ := hfields.complete_back given' b hrest
    cases given? with
    | none => exact ⟨(none, given), rfl⟩
    | some a' =>
      obtain rfl : a' = f a := Option.some.inj hfirst
      exact ⟨(some a, given), rfl⟩
  readList expected expected' lenient index cs := by
    rw [Fields.readList, Fields.readList]
    refine Reading.Agrees.andThen (f := f) (.behind _ fun more cs => ?_) (fun a cs => ?_)
      fun b cs c rest heq => ?_
    · cases more
      · rw [if_neg Bool.false_ne_true, if_neg Bool.false_ne_true]
        cases lenient <;> cases absent
        all_goals first | exact .refused | exact .done hs.injective _ _
      · exact hs.read cs
    · exact (hfields.readList _ _ lenient (index + 1) cs).map (fun _ => rfl)
        (hs.injective.prodMap hfields.injective) fun b c heq => ⟨c.2, (Prod.mk.inj heq).2.symm⟩
    · obtain ⟨b', -, hb⟩ := Reading.map_eq_done.mp heq
      exact ⟨c.1, (Prod.mk.inj hb).1.symm⟩
  readMember := fun (given?, given) key cs => by
    show Reading.Agrees _ (ite (key = name) _ _) (ite (key = name) _ _)
    by_cases hkey : key = name
    · rw [if_pos hkey, if_pos hkey]
      cases given? with
      | some a => exact .refused
      | none =>
        refine .behind _ fun _ cs => (hs.read cs).map (fun _ => rfl)
          (Fields.givenAlong_injective hs.injective hfields.injective_given) fun b c heq => ?_
        obtain ⟨a, -, ha⟩ := Option.map_eq_some_iff.mp (Prod.mk.inj heq).1.symm
        exact ⟨a, ha⟩
    · rw [if_neg hkey, if_neg hkey]
      exact (hfields.readMember given key cs).map (fun _ => rfl)
          (Fields.givenAlong_injective hs.injective hfields.injective_given)
        fun b c heq => ⟨c.2, (Prod.mk.inj heq).2.symm⟩
  readMember_back := fun (given?, given') key cs (given'?, given) rest heq => by
    change ite (key = name) _ _ = _ at heq
    by_cases hkey : key = name
    · rw [if_pos hkey] at heq
      cases given? with
      | some a => cases heq
      | none =>
        obtain ⟨_, more, -, hread⟩ := Reading.andThen_eq_done.mp heq
        obtain ⟨a, -, ha⟩ := Reading.map_eq_done.mp hread
        exact ⟨(none, given), Prod.ext rfl (Prod.mk.inj ha).2.symm⟩
    · rw [if_neg hkey] at heq
      obtain ⟨more, hread, hmore⟩ := Reading.map_eq_done.mp heq
      obtain ⟨hfirst, rfl⟩ := Prod.mk.inj hmore
      obtain ⟨given₀, rfl⟩ := hfields.readMember_back given' key cs given rest hread
      exact ⟨(given'?, given₀), Prod.ext hfirst.symm rfl⟩

end

end Courier
