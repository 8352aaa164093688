import Courier.Link.Table

/-!
# Courier — sound tables of connections

The index of a table never leads astray: it has one connection for an address, and that connection
is in the table under that address. So a connection that has left the table is not found any more,
however many others there are to the same address.

* `ConnectionTable.Sound` — the index agrees with the entries;
* `ConnectionTable.Sound.insert`, `Sound.remove` — both operations keep it so;
* `ConnectionTable.indexed?_insert`, `indexed?_remove` — what each makes of the index;
* `ConnectionTable.not_mem_index` — what is not in the table is not in the index.
-/

namespace Courier.ConnectionTable

/-- The index agrees with the entries. -/
structure Sound (t : ConnectionTable) : Prop where
  entries : ∀ e ∈ t.index, (e.2, e.1) ∈ t.entries
  keys : (t.index.map (·.1)).Nodup

theorem Sound.empty : empty.Sound := ⟨fun _ h => absurd h List.not_mem_nil, List.nodup_nil⟩

theorem contains_iff {c : ConnectionRef} {t : ConnectionTable} :
    t.contains c = true ↔ ∃ a, (c, a) ∈ t.entries := by
  rw [contains, List.any_eq_true]
  constructor
  · rintro ⟨⟨d, a⟩, hmem, hd⟩
    rw [← of_decide_eq_true hd]
    exact ⟨a, hmem⟩
  · rintro ⟨a, hmem⟩
    exact ⟨(c, a), hmem, decide_eq_true rfl⟩

theorem contains_eq_false_iff {c : ConnectionRef} {t : ConnectionTable} :
    t.contains c = false ↔ ∀ a, (c, a) ∉ t.entries := by
  rw [← Bool.not_eq_true, contains_iff, not_exists]

theorem mem_toList_iff {c : ConnectionRef} {t : ConnectionTable} :
    c ∈ t.toList ↔ t.contains c = true := by
  rw [contains_iff, toList, List.mem_map]
  constructor
  · rintro ⟨⟨d, a⟩, hmem, rfl⟩
    exact ⟨a, hmem⟩
  · rintro ⟨a, hmem⟩
    exact ⟨(c, a), hmem, rfl⟩

theorem toList_eq_nil_iff {t : ConnectionTable} :
    t.toList = [] ↔ ∀ c, t.contains c = false := by
  simp only [List.eq_nil_iff_forall_not_mem, mem_toList_iff, Bool.not_eq_true]

/-- What is not in the table is not in the index. -/
theorem not_mem_index {c : ConnectionRef} {t : ConnectionTable} (ht : t.Sound)
    (h : t.contains c = false) (a : Address) : (a, c) ∉ t.index :=
  fun hmem => contains_eq_false_iff.mp h a (ht.entries _ hmem)

/-- Where keys do not come twice, each leads to what it stands with. -/
theorem lookup_of_mem {α β : Type} [BEq α] [LawfulBEq α] {entries : List (α × β)} {e : α × β}
    (hkeys : (entries.map (·.1)).Nodup) (he : e ∈ entries) : entries.lookup e.1 = some e.2 := by
  induction entries with
  | nil => exact absurd he List.not_mem_nil
  | cons e' entries ih =>
    rw [List.map_cons, List.nodup_cons] at hkeys
    rcases List.mem_cons.mp he with rfl | he
    · rw [List.lookup_cons, beq_self_eq_true]
    · have hne : (e.1 == e'.1) = false :=
        beq_eq_false_iff_ne.mpr fun h => hkeys.1 (List.mem_map.mpr ⟨e, he, h⟩)
      rw [List.lookup_cons, hne]
      exact ih hkeys.2 he

/-- The index has just one connection for an address. -/
theorem indexed?_of_mem {e : Address × ConnectionRef} {t : ConnectionTable} (ht : t.Sound)
    (he : e ∈ t.index) : t.indexed? e.1 = some e.2 :=
  lookup_of_mem ht.keys he

theorem Sound.mem_of_indexed? {a : Address} {c : ConnectionRef} {t : ConnectionTable}
    (ht : t.Sound) (h : t.indexed? a = some c) : (c, a) ∈ t.entries := by
  obtain ⟨before, after, hsplit, -⟩ := List.lookup_eq_some_iff.mp h
  refine ht.entries (a, c) ?_
  rw [hsplit]
  exact List.mem_append_right _ (List.mem_cons_self ..)

theorem indexed?_forget (a b : Address) (t : ConnectionTable) :
    (t.forget a).indexed? b = if b = a then none else t.indexed? b := by
  unfold forget indexed?
  dsimp only
  induction t.index with
  | nil => rw [List.filter_nil, List.lookup_nil, ite_self]
  | cons e index ih =>
    by_cases hea : e.1 = a
    · rw [List.filter_cons_of_neg (by simpa using hea), ih, List.lookup_cons, hea]
      by_cases hb : b = a
      · rw [if_pos hb, if_pos hb]
      · rw [if_neg hb, if_neg hb, beq_eq_false_iff_ne.mpr hb]
    · rw [List.filter_cons_of_pos (by simpa using hea), List.lookup_cons, List.lookup_cons, ih]
      by_cases hb : b = a
      · rw [if_pos hb, if_pos hb, hb, beq_eq_false_iff_ne.mpr (Ne.symm hea)]
      · rw [if_neg hb, if_neg hb]

theorem indexed?_pointTo (a b : Address) (c : ConnectionRef) (t : ConnectionTable) :
    (t.pointTo a c).indexed? b = if b = a then some c else t.indexed? b := by
  have hforget := indexed?_forget a b t
  unfold pointTo
  unfold forget at hforget
  unfold indexed? at hforget ⊢
  dsimp only at hforget ⊢
  rw [List.lookup_cons, hforget]
  by_cases hb : b = a
  · rw [if_pos hb, if_pos hb, beq_iff_eq.mpr hb]
  · rw [if_neg hb, if_neg hb, beq_eq_false_iff_ne.mpr hb]

/-- The index without an address agrees with the entries, and without that address. -/
theorem Sound.forget {t : ConnectionTable} (ht : t.Sound) (a : Address) : (t.forget a).Sound where
  entries e he := ht.entries e (List.mem_filter.mp he).1
  keys := (List.filter_sublist.map _).nodup ht.keys

/-- The index may lead from an address to any connection that the table has for it. -/
theorem Sound.pointTo {t : ConnectionTable} {a : Address} {c : ConnectionRef}
    (ht : (t.forget a).Sound) (h : (c, a) ∈ t.entries) : (t.pointTo a c).Sound where
  entries e he := by
    rcases List.mem_cons.mp he with rfl | he
    · exact h
    · exact ht.entries e he
  keys := by
    refine List.nodup_cons.mpr ⟨fun hmem => ?_, ht.keys⟩
    obtain ⟨e, he, hea⟩ := List.mem_map.mp hmem
    exact of_decide_eq_true (List.mem_filter.mp he).2 hea

-- ---------------------------------------------------------------------------
-- Adding
-- ---------------------------------------------------------------------------

variable (isOpen : ConnectionRef → Bool)

theorem entries_insert (c : ConnectionRef) (a : Address) (t : ConnectionTable) :
    (t.insert isOpen c a).entries = (t.entries.filter fun e => e.1 ≠ c) ++ [(c, a)] := by
  unfold insert
  dsimp only
  split <;> rfl

theorem contains_insert (c d : ConnectionRef) (a : Address) (t : ConnectionTable) :
    (t.insert isOpen c a).contains d = (decide (d = c) || t.contains d) := by
  rw [Bool.eq_iff_iff, Bool.or_eq_true, decide_eq_true_eq, contains_iff, contains_iff,
    entries_insert]
  by_cases hd : d = c <;> simp [hd]

theorem indexed?_insert (c : ConnectionRef) (a b : Address) (t : ConnectionTable) :
    (t.insert isOpen c a).indexed? b =
      if b = a ∧ t.find isOpen a = none then some c else t.indexed? b := by
  unfold insert
  dsimp only
  split
  · rename_i hfound
    rw [if_neg fun h => Option.isSome_iff_ne_none.mp hfound h.2]
    rfl
  · rename_i hfound
    rw [indexed?_pointTo, Option.not_isSome_iff_eq_none.mp hfound]
    simp only [and_true]
    rfl

/-- A connection may be added once more, to the same address. -/
theorem Sound.insert {t : ConnectionTable} (ht : t.Sound) {c : ConnectionRef} {a : Address}
    (ha : ∀ b, (c, b) ∈ t.entries → b = a) : (t.insert isOpen c a).Sound := by
  have hadded : ({ t with entries := (t.entries.filter fun e => e.1 ≠ c) ++ [(c, a)] } :
      ConnectionTable).Sound := by
    refine ⟨fun e he => List.mem_append.mpr ?_, ht.keys⟩
    have hmem := ht.entries e he
    by_cases hec : e.2 = c
    · right
      rw [hec] at hmem ⊢
      rw [ha _ hmem]
      exact List.mem_singleton_self _
    · exact .inl (List.mem_filter.mpr ⟨hmem, decide_eq_true hec⟩)
  unfold ConnectionTable.insert
  dsimp only
  split
  · exact hadded
  · exact (hadded.forget a).pointTo (List.mem_append_right _ (List.mem_singleton_self _))

-- ---------------------------------------------------------------------------
-- Removing
-- ---------------------------------------------------------------------------

theorem fst_remove (c : ConnectionRef) (a : Address) (t : ConnectionTable) :
    (t.remove isOpen c a).1 = t.contains c := by
  unfold remove
  dsimp only
  split
  · split <;> rfl
  · rfl

theorem entries_remove (c : ConnectionRef) (a : Address) (t : ConnectionTable) :
    (t.remove isOpen c a).2.entries = t.entries.filter fun e => e.1 ≠ c := by
  unfold remove
  dsimp only
  split
  · split <;> rfl
  · rfl

theorem contains_remove (c d : ConnectionRef) (a : Address) (t : ConnectionTable) :
    (t.remove isOpen c a).2.contains d = (!decide (d = c) && t.contains d) := by
  rw [Bool.eq_iff_iff, Bool.and_eq_true, Bool.not_eq_true', decide_eq_false_iff_not, contains_iff,
    contains_iff, entries_remove]
  by_cases hd : d = c <;> simp [hd]

theorem openTo?_eq_some {a : Address} {d : ConnectionRef} {t : ConnectionTable}
    (h : t.openTo? isOpen a = some d) : (d, a) ∈ t.entries ∧ isOpen d = true := by
  obtain ⟨⟨d', a'⟩, he, rfl⟩ := Option.map_eq_some_iff.mp h
  have hfits := List.find?_some he
  rw [Bool.and_eq_true, decide_eq_true_eq] at hfits
  rw [← hfits.1]
  exact ⟨List.mem_of_find?_eq_some he, hfits.2⟩

theorem openTo?_eq_none_iff {a : Address} {t : ConnectionTable} :
    t.openTo? isOpen a = none ↔ ∀ d, (d, a) ∈ t.entries → isOpen d = false := by
  rw [openTo?, Option.map_eq_none_iff, List.find?_eq_none]
  constructor
  · exact fun h d hd => by simpa using h (d, a) hd
  · rintro h ⟨d, b⟩ hd
    simp only [Bool.and_eq_true, decide_eq_true_eq, not_and, Bool.not_eq_true]
    rintro rfl
    exact h d hd

theorem indexed?_remove (c : ConnectionRef) (a b : Address) (t : ConnectionTable) :
    (t.remove isOpen c a).2.indexed? b =
      if b = a ∧ t.indexed? a = some c then (t.remove isOpen c a).2.openTo? isOpen a
      else t.indexed? b := by
  have hentries : (t.remove isOpen c a).2.openTo? isOpen a =
      openTo? isOpen a { t with entries := t.entries.filter fun e => e.1 ≠ c } :=
    congrArg (fun entries => (entries.find? fun e => e.2 = a && isOpen e.1).map (·.1))
      (entries_remove isOpen c a t)
  rw [hentries]
  unfold remove
  dsimp only
  split
  · rename_i hindexed
    replace hindexed : t.indexed? a = some c := hindexed
    simp only [hindexed, and_true]
    split
    · rename_i d hd
      rw [indexed?_pointTo, hd]
      rfl
    · rename_i hd
      rw [indexed?_forget, hd]
      rfl
  · rename_i hindexed
    rw [if_neg fun h => hindexed h.2]
    rfl

/-- Where a connection is removed, the index goes on to an open one to the same address. -/
theorem Sound.remove {t : ConnectionTable} (ht : t.Sound) {c : ConnectionRef} {a : Address}
    (ha : ∀ b, (c, b) ∈ t.entries → b = a) : (t.remove isOpen c a).2.Sound := by
  -- only this address can lead to the connection
  have hkept {e : Address × ConnectionRef} (he : e ∈ t.index) (hne : e.2 = c → e.1 ≠ a) :
      (e.2, e.1) ∈ t.entries.filter fun e => e.1 ≠ c := by
    refine List.mem_filter.mpr ⟨ht.entries e he, decide_eq_true fun h => hne h (ha _ ?_)⟩
    rw [← h]
    exact ht.entries e he
  have hforget : (ConnectionTable.forget a
      { t with entries := t.entries.filter fun e => e.1 ≠ c }).Sound := by
    refine ⟨fun e he => ?_, (ht.forget a).keys⟩
    obtain ⟨he, hne⟩ := List.mem_filter.mp he
    exact hkept he fun _ => of_decide_eq_true hne
  unfold ConnectionTable.remove indexed?
  dsimp only
  split
  · split
    · rename_i d hd
      exact hforget.pointTo (openTo?_eq_some isOpen hd).1
    · exact hforget
  · rename_i hc
    refine ⟨fun e he => hkept he fun hec hea => hc ?_, ht.keys⟩
    rw [← hea, ← hec]
    exact indexed?_of_mem ht he

/-- Removing what is not in the table changes nothing. -/
theorem remove_of_not_contains {t : ConnectionTable} (ht : t.Sound) {c : ConnectionRef}
    (h : t.contains c = false) (a : Address) : t.remove isOpen c a = (false, t) := by
  have hentries : (t.entries.filter fun e => e.1 ≠ c) = t.entries := by
    refine List.filter_eq_self.mpr fun e he => decide_eq_true fun hec => ?_
    rw [← hec] at h
    exact contains_eq_false_iff.mp h e.2 he
  have hindex : t.index.lookup a ≠ some c := fun hlookup =>
    contains_eq_false_iff.mp h a (ht.mem_of_indexed? hlookup)
  unfold ConnectionTable.remove indexed?
  dsimp only
  rw [hentries, if_neg hindex, h]

-- ---------------------------------------------------------------------------
-- Finding
-- ---------------------------------------------------------------------------

theorem find_eq_some_iff {a : Address} {c : ConnectionRef} {t : ConnectionTable} :
    t.find isOpen a = some c ↔
      t.indexed? a = some c ∧ t.contains c = true ∧ isOpen c = true := by
  rw [find, Option.filter_eq_some_iff, Bool.and_eq_true]

/-- What is found is in the table and open. -/
theorem find_eq_some {a : Address} {c : ConnectionRef} {t : ConnectionTable}
    (h : t.find isOpen a = some c) : t.contains c = true ∧ isOpen c = true :=
  ((find_eq_some_iff isOpen).mp h).2

end Courier.ConnectionTable
