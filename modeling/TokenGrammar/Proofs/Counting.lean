import TokenGrammar.Proofs.Sealing

namespace TokenGrammar

namespace Workspace

/-- How often a table is held while the tables of `kept` are not released: by grammars, by matchers
and by rules of kept tables, each time that they own it. -/
def holds (w : Workspace) (kept : List Nat) (id : Nat) : Nat :=
  w.roots.count id + (kept.flatMap fun owner => (w.table owner).owned).count id

/-- A table that is held no more is released. -/
inductive Releases (w : Workspace) : List Nat → List Nat → Prop where
  | release {kept id} : id ∈ kept → w.holds kept id = 0 → Releases w kept (kept.filter (· ≠ id))

/-- Tables are released one after the other, until each that is kept is held. -/
def Settles (w : Workspace) (kept kept' : List Nat) : Prop :=
  Relation.ReflTransGen w.Releases kept kept' ∧ ∀ id ∈ kept', w.holds kept' id ≠ 0

/-- The tables that a call opens. -/
def openedBy (w : Workspace) (c : Call) : List Nat :=
  List.range' w.tables.length ((w.perform c).tables.length - w.tables.length)

/-- The workspace is one that calls lead to, and `kept` are the tables left when after each call the
tables that are held no more are released. -/
inductive Counted : Workspace → List Nat → Prop where
  | start : Counted empty []
  | call {w kept kept'} (c : Call) : Counted w kept →
      (w.perform c).Settles (kept ++ w.openedBy c) kept' → Counted (w.perform c) kept'

variable {w : Workspace} {kept kept' : List Nat} {id : Nat}

theorem holds_eq_zero_iff : w.holds kept id = 0 ↔
    id ∉ w.roots ∧ ∀ owner ∈ kept, ¬ w.Owns owner id := by
  simp only [holds, Nat.add_eq_zero_iff, List.count_eq_zero, List.mem_flatMap, owns_iff,
    not_exists, not_and]

section Releasing

/-- What is held only by tables out of use is out of use. -/
theorem not_inUse_of_holds (hkept : ∀ id, w.InUse id → id ∈ kept) (hzero : w.holds kept id = 0) :
    ¬ w.InUse id := by
  obtain ⟨hroot, howner⟩ := holds_eq_zero_iff.mp hzero
  intro huse
  cases huse with
  | opened hx => exact hroot (mem_roots.mpr (.inl ⟨_, hx, rfl⟩))
  | compiled hx => exact hroot (mem_roots.mpr (.inr (.inl ⟨_, hx, rfl⟩)))
  | kept hx hid => exact hroot (mem_roots.mpr (.inr (.inr ⟨_, hx, hid⟩)))
  | owned huse hid => exact howner _ (hkept _ huse) hid

/-- No table in use is released, at no moment between two calls. -/
theorem inUse_kept (h : Relation.ReflTransGen w.Releases kept kept')
    (hkept : ∀ id, w.InUse id → id ∈ kept) : ∀ id, w.InUse id → id ∈ kept' := by
  induction h with
  | refl => exact hkept
  | tail _ hrelease ih =>
    cases hrelease with
    | @release released hmem hzero =>
      have hout := not_inUse_of_holds ih hzero
      intro id huse
      refine List.mem_filter.mpr ⟨ih id huse, ?_⟩
      have hne : id ≠ released := fun he => hout (he ▸ huse)
      simpa using hne

/-- Each release leaves fewer tables, so that at last each one left is held. -/
theorem exists_settles (w : Workspace) (kept : List Nat) : ∃ kept', w.Settles kept kept' := by
  generalize hn : kept.length = n
  induction n using Nat.strongRecOn generalizing kept with
  | ind n ih =>
    by_cases hheld : ∀ id ∈ kept, w.holds kept id ≠ 0
    · exact ⟨kept, .refl, hheld⟩
    · push Not at hheld
      obtain ⟨id, hid, hzero⟩ := hheld
      have hlt : (kept.filter (· ≠ id)).length < n := by
        rw [← hn, List.length_filter_lt_length_iff_exists]
        exact ⟨id, hid, by simp⟩
      obtain ⟨kept', hrest, hheld'⟩ := ih _ hlt _ rfl
      exact ⟨kept', .head (.release hid hzero) hrest, hheld'⟩

/-- Where no table comes back to itself, going from owner to owner ends at something that holds a
table by itself. -/
theorem inUse_of_held (hw : w.Orderly) (acyclic : ∀ id, ¬ Relation.TransGen w.Owns id id)
    (hheld : ∀ id ∈ kept, w.holds kept id ≠ 0) : ∀ id ∈ kept, w.InUse id := by
  have hwf : WellFounded w.Owns := by
    refine wellFounded_of_acyclic acyclic (s := Finset.range w.tables.length) ?_
    intro owner id hid
    exact Finset.mem_range.mpr (hw.owns_sealed owner id hid).1
  intro id
  induction id using hwf.induction with
  | _ id ih =>
    intro hid
    by_contra hout
    apply hheld id hid
    refine holds_eq_zero_iff.mpr ⟨?_, ?_⟩
    · intro hroot
      exact hout (inUse_of_root hroot)
    · intro owner howner howns
      exact hout (.owned (ih owner howns howner) howns)

end Releasing

theorem mem_openedBy {c : Call} : id ∈ w.openedBy c ↔
    w.tables.length ≤ id ∧ id < (w.perform c).tables.length := by
  simp only [openedBy, List.mem_range'_1]
  omega

/-- A call uses only tables that were in use before it and those that it opens. -/
theorem inUse_perform (hw : w.Orderly) (hkept : ∀ id, w.InUse id → id ∈ kept) (c : Call) :
    ∀ id, (w.perform c).InUse id → id ∈ kept ++ w.openedBy c := by
  have hshift := perform_shift hw c
  intro id huse
  rcases hshift.inUse huse with hbefore | rfl
  · exact List.mem_append_left _ (hkept id hbefore)
  · exact List.mem_append_right _ (mem_openedBy.mpr ⟨Nat.le_refl _, huse.known (hshift.orderly hw)⟩)

theorem Counted.becomes (h : Counted w kept) : empty.Becomes w := by
  induction h with
  | start => exact .refl _
  | call c _ _ ih => exact ih.trans ⟨[c], rfl⟩

theorem Counted.mem_iff (h : Counted w kept) (id : Nat) : id ∈ kept ↔ w.InUse id := by
  induction h generalizing id with
  | start =>
    constructor
    · exact nofun
    · intro huse
      exact absurd (huse.known orderly_empty) (Nat.not_lt_zero id)
  | @call w kept kept' c hcounted hsettles ih =>
    have hbefore := hcounted.becomes
    have hafter : empty.Becomes (w.perform c) := hbefore.trans ⟨[c], rfl⟩
    have hw := hbefore.orderly orderly_empty
    have hw' := hafter.orderly orderly_empty
    constructor
    · exact inUse_of_held hw' (acyclic_of_becomes hafter) hsettles.2 id
    · exact inUse_kept hsettles.1 (inUse_perform hw (fun id => (ih id).mpr) c) id

theorem exists_counted (h : empty.Becomes w) : ∃ kept, Counted w kept := by
  refine h.keeps (P := fun w => ∃ kept, Counted w kept) ?_ ⟨[], .start⟩
  rintro w c ⟨kept, hcounted⟩
  obtain ⟨kept', hsettles⟩ := exists_settles (w.perform c) (kept ++ w.openedBy c)
  exact ⟨kept', .call c hcounted hsettles⟩

/-- No table owns itself by way of others, so the tables left when those that are held no more are
released, in whatever order, are exactly those in use. While they are released one after the other,
no table in use goes, and wherever that stands it can go on until all that are left are held. -/
theorem counting_exact (h : empty.Becomes w) :
    (∀ id, ¬ Relation.TransGen w.Owns id id) ∧
    (∃ kept, Counted w kept) ∧
    ∀ kept, Counted w kept →
      (∀ id, (id ∈ kept ↔ w.InUse id) ∧ (w.isAlive id = true ↔ id ∈ kept)) ∧
      ∀ c mid, Relation.ReflTransGen (w.perform c).Releases (kept ++ w.openedBy c) mid →
        (∀ id, (w.perform c).InUse id → id ∈ mid) ∧ ∃ kept', (w.perform c).Settles mid kept' := by
  refine ⟨acyclic_of_becomes h, exists_counted h, ?_⟩
  intro kept hcounted
  have hmem := hcounted.mem_iff
  refine ⟨?_, ?_⟩
  · intro id
    exact ⟨hmem id, isAlive_iff_inUse.trans (hmem id).symm⟩
  · intro c mid hmid
    have hw := h.orderly orderly_empty
    have hstart := inUse_perform hw (fun id => (hmem id).mpr) c
    exact ⟨inUse_kept hmid hstart, exists_settles (w.perform c) mid⟩

end Workspace

section Lists

open Workspace

/-- The rules of lists stay while a rule of another grammar holds them, and go with that grammar. -/
theorem counting_exact_on_lists :
    listsEmbedded.Owns 1 0 ∧ ¬ Relation.TransGen listsEmbedded.Owns 0 0 ∧
    ∃ kept, Counted listsEmbedded kept ∧ 0 ∈ kept ∧
      ∀ kept', (listsEmbedded.perform (.drop "outer")).Settles
        (kept ++ listsEmbedded.openedBy (.drop "outer")) kept' → 0 ∉ kept' := by
  obtain ⟨acyclic, ⟨kept, hcounted⟩, hexact⟩ := counting_exact becomes_listsEmbedded
  have halive : listsEmbedded.isAlive 0 = true := by decide +kernel
  have howns : listsEmbedded.Owns 1 0 := owns_iff.mpr (by decide +kernel)
  refine ⟨howns, acyclic 0, kept, hcounted, ((hexact kept hcounted).1 0).2.mp halive, ?_⟩
  intro kept' hsettles hmem
  have hdropped : empty.Becomes (listsEmbedded.perform (.drop "outer")) :=
    becomes_listsEmbedded.trans ⟨[.drop "outer"], rfl⟩
  obtain ⟨_, _, hexact'⟩ := counting_exact hdropped
  have hgone := ((hexact' kept' (.call _ hcounted hsettles)).1 0).2.mpr hmem
  have hdead : (listsEmbedded.perform (.drop "outer")).isAlive 0 = false := by decide +kernel
  exact Bool.false_ne_true (hdead.symm.trans hgone)

end Lists

end TokenGrammar
