import Courier.Link.Directory
import Courier.Proofs.Worlds.Lives

/-!
# Courier — looking up connections by address

Several connections to one address stand under a single entry of the index, and a connection is
closed before it leaves the table. Whatever was put in, taken out and closed in between, and in
whatever order the entries lie, the index leads to connections in the table only, each under the
address of its peer, and an address without an entry has no open connection.

So all that is found is open and leads where it should. What is open is found, too, unless the entry
of its address leads to a connection that was closed and has not left the table yet: nothing is
found then, until it leaves or one more is put in.

* `Directory.Sound` — the invariant, kept by each step;
* `Directory.Standing` — who was put in and not taken out since, read off the steps;
* `Directory.Reached.reliable` — **what a directory answers** after any steps;
* `Directory.Reached.found_or_leaving` — **what is open is found**, or else a closed connection
  stands in its way;
* `World.directory` — the directory of a node of a world, which changes by these steps.
-/

namespace Courier

namespace Directory

-- ---------------------------------------------------------------------------
-- The invariant
-- ---------------------------------------------------------------------------

/-- The table says of each connection what the connection says, and the index has an entry for
whoever is open. -/
structure Sound (d : Directory) : Prop where
  filed : ∀ e ∈ d.table.entries, e.2 = d.peer e.1
  once : (d.table.entries.map (·.1)).Nodup
  table : d.table.Sound
  indexed : ∀ c, d.table.contains c = true → d.isOpen c = true →
    ∃ e, d.table.indexed? (d.peer c) = some e

variable {d : Directory} {a : Address} {c : ConnectionRef}

/-- The table lists a connection under the address of its peer. -/
theorem Sound.mem_entries_iff (h : d.Sound) :
    (c, a) ∈ d.table.entries ↔ d.table.contains c = true ∧ d.peer c = a := by
  constructor
  · intro hmem
    exact ⟨ConnectionTable.contains_iff.mpr ⟨a, hmem⟩, (h.filed _ hmem).symm⟩
  · rintro ⟨hcontains, rfl⟩
    obtain ⟨b, hmem⟩ := ConnectionTable.contains_iff.mp hcontains
    rwa [← show b = d.peer c from h.filed _ hmem]

/-- The index leads to a connection in the table, under the address of its peer. -/
theorem Sound.of_indexed? (h : d.Sound) (hc : d.table.indexed? a = some c) :
    d.table.contains c = true ∧ d.peer c = a :=
  h.mem_entries_iff.mp (h.table.mem_of_indexed? hc)

/-- `find` looks at the connection that the index names, and gives it out if it is open. -/
theorem find_eq_some_iff (h : d.Sound) :
    d.find a = some c ↔ d.table.indexed? a = some c ∧ d.isOpen c = true := by
  rw [find, ConnectionTable.find_eq_some_iff]
  constructor
  · exact fun ⟨hindexed, _, hopen⟩ => ⟨hindexed, hopen⟩
  · exact fun ⟨hindexed, hopen⟩ => ⟨hindexed, (h.of_indexed? hindexed).1, hopen⟩

/-- A new table is sound. -/
theorem Sound.start (connection : ConnectionRef → Connection) : (start connection).Sound where
  filed _ he := absurd he List.not_mem_nil
  once := List.nodup_nil
  table := .empty
  indexed _ hcontains := absurd hcontains Bool.false_ne_true

-- ---------------------------------------------------------------------------
-- What each step changes
-- ---------------------------------------------------------------------------

/-- `insert` puts a connection behind all others, once. -/
theorem entries_insert :
    (d.insert c).table.entries = (d.table.entries.filter fun e => e.1 ≠ c) ++ [(c, d.peer c)] :=
  ConnectionTable.entries_insert ..

/-- `remove` takes a connection out, wherever it stands. -/
theorem entries_remove :
    (d.remove c).2.table.entries = d.table.entries.filter fun e => e.1 ≠ c :=
  ConnectionTable.entries_remove ..

/-- After `insert` the table holds the connection, and what it held before. -/
theorem contains_insert (e : ConnectionRef) :
    (d.insert c).table.contains e = (decide (e = c) || d.table.contains e) :=
  ConnectionTable.contains_insert ..

/-- After `remove` the table holds the connection no more, and the others as before. -/
theorem contains_remove (e : ConnectionRef) :
    (d.remove c).2.table.contains e = (!decide (e = c) && d.table.contains e) :=
  ConnectionTable.contains_remove ..

/-- `remove` tells whether the connection was there. -/
theorem fst_remove : (d.remove c).1 = d.table.contains c :=
  ConnectionTable.fst_remove ..

/-- Closing a connection does not change who its peer is. -/
theorem peer_markClosed (reason : CloseReason) (e : ConnectionRef) :
    (d.markClosed c reason).peer e = d.peer e := by
  unfold peer markClosed Connection.markClosed
  dsimp only
  split
  · split <;> rfl
  · rfl

/-- A connection that is closed stays so, and no other one is closed. -/
theorem isOpen_markClosed (reason : CloseReason) (e : ConnectionRef) :
    (d.markClosed c reason).isOpen e = (!decide (e = c) && d.isOpen e) := by
  unfold isOpen markClosed Connection.markClosed
  dsimp only
  by_cases he : e = c
  · rw [if_pos he, decide_eq_true he]
    split
    · rename_i hclosed
      rw [hclosed]
      rfl
    · rfl
  · rw [if_neg he, decide_eq_false he]
    rfl

theorem Sound.insert (h : d.Sound) (c : ConnectionRef) : (d.insert c).Sound where
  filed e he := by
    rw [entries_insert] at he
    rcases List.mem_append.mp he with he | he
    · exact h.filed e (List.mem_filter.mp he).1
    · rw [List.mem_singleton.mp he]
      rfl
  once := by
    rw [entries_insert, List.map_append, List.nodup_append]
    refine ⟨(List.filter_sublist.map _).nodup h.once,
      List.nodup_cons.mpr ⟨List.not_mem_nil, List.nodup_nil⟩, fun x hx y hy hxy => ?_⟩
    obtain ⟨e, he, rfl⟩ := List.mem_map.mp hx
    exact of_decide_eq_true (List.mem_filter.mp he).2 (hxy.trans (List.mem_singleton.mp hy))
  table := h.table.insert _ fun b hb => h.filed (c, b) hb
  indexed e hcontains hopen := by
    rw [contains_insert, Bool.or_eq_true, decide_eq_true_eq] at hcontains
    show ∃ x, (d.table.insert d.isOpen c (d.peer c)).indexed? (d.peer e) = some x
    rw [ConnectionTable.indexed?_insert]
    split
    · exact ⟨c, rfl⟩
    · rename_i hkept
      rcases hcontains with rfl | hcontains
      · -- the entry of this address leads to an open connection already
        obtain ⟨x, hx⟩ := Option.ne_none_iff_exists'.mp fun hnone => hkept ⟨rfl, hnone⟩
        exact ⟨x, ((ConnectionTable.find_eq_some_iff _).mp hx).1⟩
      · exact h.indexed e hcontains hopen

theorem Sound.remove (h : d.Sound) (c : ConnectionRef) : (d.remove c).2.Sound where
  filed e he := by
    rw [entries_remove] at he
    exact h.filed e (List.mem_filter.mp he).1
  once := by
    rw [entries_remove]
    exact (List.filter_sublist.map _).nodup h.once
  table := h.table.remove _ fun b hb => h.filed (c, b) hb
  indexed e hcontains hopen := by
    rw [contains_remove, Bool.and_eq_true] at hcontains
    show ∃ x, (d.table.remove d.isOpen c (d.peer c)).2.indexed? (d.peer e) = some x
    rw [ConnectionTable.indexed?_remove]
    split
    · rename_i hpeer
      -- this one is left, so the index goes on to it or to another one
      have hleft : (e, d.peer c) ∈ (d.remove c).2.table.entries := by
        rw [entries_remove]
        refine List.mem_filter.mpr ⟨h.mem_entries_iff.mpr ⟨hcontains.2, hpeer.1⟩, ?_⟩
        simpa using hcontains.1
      refine Option.ne_none_iff_exists'.mp fun hnone => ?_
      have hclosed := (ConnectionTable.openTo?_eq_none_iff _).mp hnone e hleft
      exact Bool.false_ne_true (hclosed.symm.trans hopen)
    · exact h.indexed e hcontains.2 hopen

/-- Closing a connection changes neither the table nor the index. -/
theorem Sound.markClosed (h : d.Sound) (c : ConnectionRef) (reason : CloseReason) :
    (d.markClosed c reason).Sound where
  filed e he := (h.filed e he).trans (peer_markClosed reason e.1).symm
  once := h.once
  table := h.table
  indexed e hcontains hopen := by
    rw [isOpen_markClosed, Bool.and_eq_true] at hopen
    rw [peer_markClosed]
    exact h.indexed e hcontains hopen.2

/-- So every step keeps the table sound. -/
theorem Sound.step (h : d.Sound) : (s : Step) → (d.step s).Sound
  | .insert c => h.insert c
  | .remove c => h.remove c
  | .markClosed c reason => h.markClosed c reason

/-- What a table holds does not depend on the order of its entries. -/
theorem contains_reorder {entries : List (ConnectionRef × Address)}
    (hperm : entries.Perm d.table.entries) :
    ({ d.table with entries } : ConnectionTable).contains c = d.table.contains c := by
  rw [Bool.eq_iff_iff, ConnectionTable.contains_iff, ConnectionTable.contains_iff]
  exact exists_congr fun _ => hperm.mem_iff

/-- Nor does its soundness. -/
theorem Sound.reorder (h : d.Sound) {entries : List (ConnectionRef × Address)}
    (hperm : entries.Perm d.table.entries) :
    ({ d with table := { d.table with entries } } : Directory).Sound where
  filed e he := h.filed e (hperm.mem_iff.mp he)
  once := (hperm.map _).nodup_iff.mpr h.once
  table := ⟨fun e he => hperm.mem_iff.mpr (h.table.entries e he), h.table.keys⟩
  indexed c hcontains hopen := h.indexed c ((contains_reorder hperm).symm.trans hcontains) hopen

-- ---------------------------------------------------------------------------
-- After any steps
-- ---------------------------------------------------------------------------

/-- Put in, and not taken out since. -/
def Standing (c : ConnectionRef) (steps : List Step) : Prop :=
  ∃ before after : List Step, steps = before ++ .insert c :: after ∧ .remove c ∉ after

/-- Before any step nothing is in the table. -/
theorem not_standing_nil : ¬ Standing c [] :=
  fun ⟨_, _, h, _⟩ => List.append_ne_nil_of_right_ne_nil _ (List.cons_ne_nil _ _) h.symm

/-- A step puts a connection in, takes it out, or leaves it where it is. -/
theorem standing_concat {steps : List Step} {s : Step} :
    Standing c (steps ++ [s]) ↔ s = .insert c ∨ s ≠ .remove c ∧ Standing c steps := by
  constructor
  · rintro ⟨before, after, heq, hafter⟩
    rcases List.eq_nil_or_concat after with rfl | ⟨after, last, rfl⟩
    · exact .inl (List.append_inj_right' heq rfl |> List.singleton_inj.mp)
    · rw [List.concat_eq_append, ← List.cons_append, ← List.append_assoc] at heq
      obtain ⟨hsteps, hlast⟩ := List.append_inj' heq rfl
      rw [List.concat_eq_append, List.mem_append, not_or, List.mem_singleton] at hafter
      rw [List.singleton_inj.mp hlast]
      exact .inr ⟨Ne.symm hafter.2, before, after, hsteps, hafter.1⟩
  · rintro (rfl | ⟨hs, before, after, rfl, hafter⟩)
    · exact ⟨steps, [], rfl, List.not_mem_nil⟩
    · refine ⟨before, after ++ [s], by rw [List.append_assoc, List.cons_append], ?_⟩
      rw [List.mem_append, not_or, List.mem_singleton]
      exact ⟨hafter, Ne.symm hs⟩

/-- Whatever was done to a new table, it is sound. -/
theorem Reached.sound {steps : List Step} (h : Reached steps d) : d.Sound := by
  induction h with
  | start connection => exact .start connection
  | step s _ ih => exact ih.step s
  | reorder _ hperm ih => exact ih.reorder hperm

/-- In the table are those who were put in and not taken out since. -/
theorem Reached.contains_iff {steps : List Step} (h : Reached steps d) :
    d.table.contains c = true ↔ Standing c steps := by
  induction h with
  | start connection => exact iff_of_false Bool.false_ne_true not_standing_nil
  | @step steps d s _ ih =>
    rw [standing_concat, ← ih]
    cases s with
    | insert e =>
      rw [Directory.step, contains_insert, Step.insert.injEq, @eq_comm _ e c]
      simp
    | remove e =>
      rw [Directory.step, contains_remove, ne_eq, Step.remove.injEq, @eq_comm _ e c]
      simp
    | markClosed e reason =>
      show d.table.contains c = true ↔ _
      simp
  | reorder _ hperm ih => rw [← ih, contains_reorder hperm]

theorem Reached.more {steps : List Step} (h : Reached steps d) (more : List Step) :
    Reached (steps ++ more) (run more d) := by
  induction more generalizing steps d with
  | nil =>
    rw [List.append_nil]
    exact h
  | cons s more ih =>
    rw [List.append_cons]
    exact ih (.step s h)

-- ---------------------------------------------------------------------------
-- What is found
-- ---------------------------------------------------------------------------

/-- An open connection is found where no closed one to the same address is left in the table. -/
theorem Sound.find_of_open (h : d.Sound) (hcontains : d.table.contains c = true)
    (hopen : ∀ e, d.table.contains e = true → d.peer e = d.peer c → d.isOpen e = true) :
    ∃ e, d.find (d.peer c) = some e := by
  obtain ⟨e, he⟩ := h.indexed c hcontains (hopen c hcontains rfl)
  obtain ⟨hcontains, hpeer⟩ := h.of_indexed? he
  exact ⟨e, (find_eq_some_iff h).mpr ⟨he, hopen e hcontains hpeer⟩⟩

/-- When the connection that the index has for an address leaves the table, an open one to the same
address is found. -/
theorem Sound.find_remove (h : d.Sound) {e : ConnectionRef} (hcontains : d.table.contains c = true)
    (hopen : d.isOpen c = true) (hne : c ≠ e) (he : d.table.indexed? (d.peer c) = some e) :
    ∃ o, (d.remove e).2.find (d.peer c) = some o ∧ d.isOpen o = true ∧ d.peer o = d.peer c := by
  have hpeer : d.peer c = d.peer e := (h.of_indexed? he).2.symm
  have hremoved := h.remove e
  have hleft : (d.remove e).2.table.contains c = true := by
    rw [contains_remove, hcontains, decide_eq_false hne]
    rfl
  obtain ⟨o, ho⟩ := hremoved.indexed c hleft hopen
  replace ho : (d.remove e).2.table.indexed? (d.peer c) = some o := ho
  have hoOpen : d.isOpen o = true := by
    have hindexed : (d.table.remove d.isOpen e (d.peer e)).2.indexed? (d.peer c) = some o := ho
    rw [ConnectionTable.indexed?_remove, if_pos ⟨hpeer, by rw [← hpeer]; exact he⟩] at hindexed
    exact (ConnectionTable.openTo?_eq_some _ hindexed).2
  exact ⟨o, (find_eq_some_iff hremoved).mpr ⟨ho, hoOpen⟩, hoOpen, (hremoved.of_indexed? ho).2⟩

/-- What holds of a directory after these steps. -/
structure Reliable (steps : List Step) (d : Directory) : Prop where
  /-- No connection is in the table twice. -/
  once : (d.table.entries.map (·.1)).Nodup
  /-- Each entry of the index is the one for its address, and leads to a connection in the table to
  just this address. -/
  led : ∀ e ∈ d.table.index, d.table.indexed? e.1 = some e.2 ∧ d.table.contains e.2 = true ∧
    d.peer e.2 = e.1
  /-- To an address without an entry there is no open connection. -/
  missed : ∀ a, d.table.indexed? a = none → ∀ c, d.table.contains c = true → d.peer c = a →
    d.isOpen c = false
  /-- What is found is in the table, open, and to the address that was looked up. -/
  found : ∀ a c, d.find a = some c →
    d.table.contains c = true ∧ d.isOpen c = true ∧ d.peer c = a
  /-- Taking out tells whether the connection was put in and not taken out since. -/
  removed : ∀ c, (d.remove c).1 = true ↔ Standing c steps
  /-- As long as nobody in the table is closed, all addresses that connections lead to, and no
  others, have an entry, and are found. -/
  complete : (∀ c, d.table.contains c = true → d.isOpen c = true) → ∀ a,
    ((∃ c, d.table.indexed? a = some c) ↔ ∃ c, d.table.contains c = true ∧ d.peer c = a) ∧
      ((∃ c, d.table.contains c = true ∧ d.peer c = a) → ∃ c, d.find a = some c)

/-- **A directory is reliable**, whichever connections were put in, taken out and closed, however
often and in whatever order, and in whatever order the table keeps its entries. -/
theorem Reached.reliable {steps : List Step} (h : Reached steps d) : Reliable steps d where
  once := h.sound.once
  led e he := by
    have hindexed := ConnectionTable.indexed?_of_mem h.sound.table he
    exact ⟨hindexed, h.sound.of_indexed? hindexed⟩
  missed a hnone c hcontains hpeer := by
    refine Bool.eq_false_iff.mpr fun hopen => ?_
    obtain ⟨e, he⟩ := h.sound.indexed c hcontains hopen
    rw [hpeer, hnone] at he
    cases he
  found a c hfound := by
    obtain ⟨hindexed, hopen⟩ := (find_eq_some_iff h.sound).mp hfound
    obtain ⟨hcontains, hpeer⟩ := h.sound.of_indexed? hindexed
    exact ⟨hcontains, hopen, hpeer⟩
  removed c := by rw [fst_remove, h.contains_iff]
  complete hopen a := by
    refine ⟨⟨fun ⟨c, hc⟩ => ⟨c, h.sound.of_indexed? hc⟩, ?_⟩, ?_⟩
    · rintro ⟨c, hcontains, rfl⟩
      exact h.sound.indexed c hcontains (hopen c hcontains)
    · rintro ⟨c, hcontains, rfl⟩
      exact h.sound.find_of_open hcontains fun e he _ => hopen e he

/-- Two connections to one address and one to another. The first one is closed and leaves. -/
theorem Reached.reliable_sample :
    let connection (c : ConnectionRef) : Connection :=
      { (default : Connection) with peerAddress := .localhost (if c.number < 2 then 1 else 2) }
    let steps : List Step :=
      [.insert ⟨0⟩, .insert ⟨1⟩, .insert ⟨2⟩, .markClosed ⟨0⟩ .explicit, .remove ⟨0⟩]
    let d := run steps (Directory.start connection)
    Reliable steps d ∧ d.find (.localhost 1) = some ⟨1⟩ ∧ d.find (.localhost 2) = some ⟨2⟩ ∧
      (d.remove ⟨0⟩).1 = false ∧ Standing ⟨1⟩ steps := by
  intro connection steps d
  have hreliable : Reliable steps d := Reached.reliable ((Reached.start connection).more steps)
  refine ⟨hreliable, by decide +kernel, by decide +kernel, by decide +kernel, ?_⟩
  exact (hreliable.removed ⟨1⟩).mp (by decide +kernel)

/-- **An open connection is found**, or else the index has a closed one for its address, which has
not left the table yet. Then nothing is found, and once it leaves an open one is. -/
theorem Reached.found_or_leaving {steps : List Step} (h : Reached steps d)
    (hcontains : d.table.contains c = true) (hopen : d.isOpen c = true) :
    (∃ e, d.find (d.peer c) = some e ∧ d.isOpen e = true ∧ d.peer e = d.peer c) ∨
      d.find (d.peer c) = none ∧ ∃ e, d.table.indexed? (d.peer c) = some e ∧
        Standing e steps ∧ d.isOpen e = false ∧ d.peer e = d.peer c ∧
        ∃ o, (d.remove e).2.find (d.peer c) = some o ∧ d.isOpen o = true ∧ d.peer o = d.peer c := by
  obtain ⟨e, he⟩ := h.sound.indexed c hcontains hopen
  obtain ⟨hstands, hpeer⟩ := h.sound.of_indexed? he
  cases heOpen : d.isOpen e with
  | true => exact .inl ⟨e, (find_eq_some_iff h.sound).mpr ⟨he, heOpen⟩, heOpen, hpeer⟩
  | false =>
    have hne : c ≠ e := fun hce => Bool.false_ne_true (heOpen.symm.trans (hce ▸ hopen))
    refine .inr ⟨?_, e, he, h.contains_iff.mp hstands, heOpen, hpeer,
      h.sound.find_remove hcontains hopen hne he⟩
    refine Option.eq_none_iff_forall_ne_some.mpr fun x hx => ?_
    obtain ⟨hindexed, hxOpen⟩ := (find_eq_some_iff h.sound).mp hx
    rw [he] at hindexed
    cases hindexed
    exact Bool.false_ne_true (heOpen.symm.trans hxOpen)

/-- Two connections to one address, of which the second one is closed. The first one is found. -/
theorem Reached.found_or_leaving_sample :
    let connection (_ : ConnectionRef) : Connection :=
      { (default : Connection) with peerAddress := .localhost 1 }
    let d := run [.insert ⟨0⟩, .insert ⟨1⟩, .markClosed ⟨1⟩ .explicit] (Directory.start connection)
    d.table.contains ⟨0⟩ = true ∧ d.isOpen ⟨0⟩ = true ∧
      ∃ e, d.find (d.peer ⟨0⟩) = some e ∧ d.isOpen e = true ∧ d.peer e = d.peer ⟨0⟩ := by
  intro connection d
  have hcontains : d.table.contains ⟨0⟩ = true := by decide +kernel
  have hopen : d.isOpen ⟨0⟩ = true := by decide +kernel
  have hfound : d.find (d.peer ⟨0⟩) ≠ none := by decide +kernel
  have h := Reached.found_or_leaving ((Reached.start connection).more _) hcontains hopen
  exact ⟨hcontains, hopen, h.resolve_right fun hleaving => hfound hleaving.1⟩

/-- Whoever is closed is taken out later. -/
def allLeave : List Step → Bool
  | [] => true
  | .markClosed c _ :: later => later.contains (.remove c) && allLeave later
  | _ :: later => allLeave later

/-- What is open is not always found, though all are put in once, and each that is closed is taken
out later. Of two connections to one address the first one is closed: until it leaves, the second
one is in the table and open, and nothing is found. -/
theorem not_found_while_leaving :
    let connection (_ : ConnectionRef) : Connection :=
      { (default : Connection) with peerAddress := .localhost 1 }
    let steps : List Step :=
      [.insert ⟨0⟩, .insert ⟨1⟩, .markClosed ⟨0⟩ .explicit, .remove ⟨0⟩]
    let d := run (steps.take 3) (start connection)
    ¬ (∀ (connection : ConnectionRef → Connection) (steps : List Step) (n : Nat),
        (∀ c, (connection c).isClosed = false) → steps.Nodup → allLeave steps = true →
        let d := run (steps.take n) (start connection)
        ∀ c, d.table.contains c = true → d.isOpen c = true →
          ∃ e, d.find (d.peer c) = some e ∧ d.isOpen e = true ∧ d.peer e = d.peer c) ∧
      d.table.contains ⟨1⟩ = true ∧ d.isOpen ⟨1⟩ = true ∧ d.peer ⟨1⟩ = .localhost 1 ∧
      d.find (.localhost 1) = none ∧
      (run steps (start connection)).find (.localhost 1) = some ⟨1⟩ := by
  intro connection steps d
  have hcontains : d.table.contains ⟨1⟩ = true := by decide +kernel
  have hopen : d.isOpen ⟨1⟩ = true := by decide +kernel
  have hnone : d.find (d.peer ⟨1⟩) = none := by decide +kernel
  refine ⟨fun h => ?_, hcontains, hopen, by decide +kernel, by decide +kernel, by decide +kernel⟩
  obtain ⟨e, he, -⟩ :=
    h connection steps 3 (fun _ => rfl) (by decide) (by decide) ⟨1⟩ hcontains hopen
  rw [hnone] at he
  cases he

end Directory

-- ---------------------------------------------------------------------------
-- The directory of a node
-- ---------------------------------------------------------------------------

namespace World

variable {L S : Type} {n : NodeRef} {c : ConnectionRef} {w : World L S}

/-- The table of a node with the connections of the world. -/
def directory (n : NodeRef) (w : World L S) : Directory := ⟨(w.node n).table, w.connection⟩

/-- `find_connection` is a lookup in the table of the node. -/
theorem findConnection_eq (a : Address) : w.findConnection n a = (w.directory n).find a := rfl

/-- Taking up a connection is one step of the directory. -/
theorem directory_takeIn (hn : n.number < w.nodes.length) :
    (w.takeIn n c).directory n = (w.directory n).insert c := by
  have htable := table_takeIn (c := c) n hn
  rw [if_pos rfl] at htable
  exact congrArg (Directory.mk · w.connection) htable

/-- Closing a connection is two steps with nothing in between. -/
theorem directory_takeOut (reason : CloseReason) (hc : c.number < w.connections.length) :
    ((w.takeOut n c reason).1, (w.takeOut n c reason).2.directory n) =
      ((w.directory n).markClosed c reason).remove c := by
  have hconnection (d : ConnectionRef) : (w.takeOut n c reason).2.connection d =
      ((w.directory n).markClosed c reason).connection d :=
    connection_takeOut n c reason d hc
  have hopen : (w.takeOut n c reason).2.isOpen = ((w.directory n).markClosed c reason).isOpen :=
    funext fun d => congrArg (fun conn : Connection => !conn.isClosed) (hconnection d)
  have htable := table_takeOut n c reason n w
  rw [if_pos rfl, hopen, hconnection] at htable
  refine Prod.ext ?_ ?_
  · rw [Directory.fst_remove]
    exact fst_takeOut n c reason w
  · unfold directory
    rw [htable, funext hconnection]
    rfl

end World

end Courier
