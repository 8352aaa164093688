import Courier.Schema.Read
import Mathlib.Logic.Basic

/-!
# Courier — what a reader has read

A reader that yields a value has gone through all its parts. Here is what each way of putting readers
together says of its parts then.

* `Reading.andThen_eq_done`, `map_eq_done`, `settle_eq_done` — one after the other;
* `closeWith_eq_done` — what stands in brackets;
* `expecting_eq_done` — a value of the expected kind;
* `parse_eq_ok` — a whole text;
* `readMembers_succ` — the members of an object, one after the other;
* `Fields.finish_eq_done`, `Fields.complete_cons` — the record of the fields that were given.
-/

namespace Courier

open Json

namespace Json

namespace Reading

variable {α β : Type}

/-- A second reader goes on where the first one has stopped. -/
theorem andThen_eq_done {r : Reading α} {k : α → List Char → Reading β} {b : β}
    {rest : List Char} :
    r.andThen k = .done b rest ↔ ∃ a more, r = .done a more ∧ k a more = .done b rest := by
  cases r with
  | done a more =>
    refine ⟨fun h => ⟨a, more, rfl, h⟩, ?_⟩
    rintro ⟨_, _, ⟨⟩, h⟩
    exact h
  | refused cause more => exact iff_of_false (fun h => nomatch h) fun ⟨_, _, h, _⟩ => nomatch h
  | failed cause left => exact iff_of_false (fun h => nomatch h) fun ⟨_, _, h, _⟩ => nomatch h

/-- What is made of a value stands where the value stood. -/
theorem map_eq_done {r : Reading α} {f : α → β} {b : β} {rest : List Char} :
    r.map f = .done b rest ↔ ∃ a, r = .done a rest ∧ f a = b := by
  rw [map, andThen_eq_done]
  constructor
  · rintro ⟨a, _, hr, ⟨⟩⟩
    exact ⟨a, hr, rfl⟩
  · rintro ⟨a, hr, rfl⟩
    exact ⟨a, rest, hr, rfl⟩

/-- Settling where a refusal stands changes no value. -/
theorem settle_eq_done {r : Reading α} {a : α} {rest : List Char} :
    r.settle = .done a rest ↔ r = .done a rest := by
  cases r <;> simp [settle, failHere]

end Reading

variable {α : Type}

/-- `closeWith` yields what was read, if the bracket is found behind it. -/
theorem closeWith_eq_done {ends : List Char → Reading Unit} {past : List Char → List Char}
    {r : Reading α} {a : α} {rest : List Char} :
    closeWith ends past r = .done a rest ↔ ∃ more, r = .done a more ∧ ends more = .done () rest := by
  cases r with
  | done b more =>
    rw [closeWith, Reading.map_eq_done]
    constructor
    · rintro ⟨_, hend, rfl⟩
      exact ⟨more, rfl, hend⟩
    · rintro ⟨_, ⟨⟩, hend⟩
      exact ⟨(), hend, rfl⟩
  | refused cause more => exact iff_of_false (fun h => nomatch h) fun ⟨_, h, _⟩ => nomatch h
  | failed cause left => exact iff_of_false (fun h => nomatch h) fun ⟨_, h, _⟩ => nomatch h

/-- A value that was not expected is refused, whatever it is. -/
theorem refuseValue_ne_done (expected : String) (cs : List Char) (a : α) (rest : List Char) :
    refuseValue expected cs ≠ .done a rest := by
  intro h
  unfold refuseValue at h
  split at h
  · cases h
  · obtain ⟨_, _, -, hk⟩ := Reading.andThen_eq_done.mp h
    cases hk
  · obtain ⟨_, _, -, hk⟩ := Reading.andThen_eq_done.mp h
    cases hk
  · obtain ⟨_, _, -, hk⟩ := Reading.andThen_eq_done.mp h
    cases hk
  · obtain ⟨_, _, -, hk⟩ := Reading.andThen_eq_done.mp h
    cases hk
  · cases h
  · cases h
  · split at h
    · obtain ⟨_, _, -, hk⟩ := Reading.andThen_eq_done.mp h
      cases hk
    · cases h

/-- A value is read that is expected, behind any blanks. -/
theorem expecting_eq_done {expected : String} {accept : List Char → Option (Reading α)}
    {cs : List Char} {a : α} {rest : List Char} :
    expecting expected accept cs = .done a rest ↔
      skipBlanks cs ≠ [] ∧ accept (skipBlanks cs) = some (.done a rest) := by
  unfold expecting
  split
  · rename_i heq
    rw [heq]
    exact iff_of_false (fun h => nomatch h) fun h => h.1 rfl
  · rename_i hne
    cases haccept : accept (skipBlanks cs) with
    | none =>
      exact iff_of_false (refuseValue_ne_done expected (skipBlanks cs) a rest) fun h => nomatch h.2
    | some r =>
      dsimp only
      rw [Reading.settle_eq_done, Option.some.injEq]
      exact (and_iff_right hne).symm

/-- Nothing but blanks stands behind the value of a whole text. -/
theorem parse_eq_ok {read : List Char → Reading α} {text : String} {a : α} :
    parse read text = .ok a ↔ ∃ rest, read text.toList = .done a rest ∧ skipBlanks rest = [] := by
  have hfinish (r : Reading α) (rest : List Char) :
      finish r = .done a rest ↔ rest = [] ∧ ∃ more, r = .done a more ∧ skipBlanks more = [] := by
    rw [finish, Reading.andThen_eq_done]
    constructor
    · rintro ⟨b, more, hr, h⟩
      split at h
      · rename_i hblank
        cases h
        exact ⟨rfl, more, hr, hblank⟩
      · cases h
    · rintro ⟨rfl, more, hr, hblank⟩
      exact ⟨a, more, hr, by rw [hblank]⟩
  unfold parse
  split
  · rename_i b rest h
    constructor
    · rintro ⟨⟩
      exact ((hfinish _ _).mp h).2
    · intro hread
      rw [(hfinish _ []).mpr ⟨rfl, hread⟩] at h
      cases h
      rfl
  all_goals
    rename_i h
    refine iff_of_false (fun h => nomatch h) fun hread => ?_
    rw [(hfinish _ []).mpr ⟨rfl, hread⟩] at h
    cases h

/-- One member, and then the others. -/
theorem readMembers_succ {σ : Type} (step : σ → String → List Char → Reading σ) (fuel : Nat)
    (first : Bool) (s : σ) (cs : List Char) :
    readMembers step (fuel + 1) first s cs = (nextKey first cs).andThen fun more rest =>
      if more then
        ((readText rest).andThen (step s)).andThen fun s rest => readMembers step fuel false s rest
      else .done s rest := by
  rw [readMembers]
  cases nextKey first cs with
  | done more rest =>
    cases more
    · rfl
    · show _ = ite (true = true) (((readText rest).andThen (step s)).andThen
        fun s rest => readMembers step fuel false s rest) (.done s rest)
      rw [if_pos rfl]
      dsimp only
      cases (readText rest).andThen (step s) <;> rfl
  | refused cause rest => rfl
  | failed cause left => rfl

end Json

/-! ## Records -/

variable {α β : Type} {name : String} {s : Schema α} {fields : Fields β}

/-- A record is read if the fields that were given make it complete. -/
theorem Fields.finish_eq_done {given : fields.Given} {cs rest : List Char} {b : β} :
    fields.finish given cs = .done b rest ↔ fields.complete given = .ok b ∧ cs = rest := by
  unfold Fields.finish
  cases fields.complete given with
  | ok b' => simp
  | error missed => exact iff_of_false (fun h => nomatch h) fun h => nomatch h.1

/-- A record is complete if its first field is given or stands for itself, and the others are. -/
theorem Fields.complete_cons {absent : Option α} (given? : Option α) (given : fields.Given) (a : α)
    (b : β) : (Fields.cons name s absent fields).complete (given?, given) = .ok (a, b) ↔
      given?.or absent = some a ∧ fields.complete given = .ok b := by
  refine (Eq.congr_left
    (Fields.complete.eq_def _ (Fields.cons name s absent fields) (given?, given))).trans ?_
  dsimp only
  cases given?.or absent with
  | none => exact iff_of_false (fun h => nomatch h) fun h => nomatch h.1
  | some a' =>
    cases fields.complete given with
    | error missed => exact iff_of_false (fun h => nomatch h) fun h => nomatch h.2
    | ok b' => simp

end Courier
