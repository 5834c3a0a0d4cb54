import Mathlib.Data.Fintype.Card
import TokenGrammar.Proofs.Tables

namespace TokenGrammar

theorem RuleTable.mem_owned {t : RuleTable} {id : Nat} :
    id ∈ t.owned ↔ ∃ name m, (name, some m) ∈ t.slots ∧ id ∈ m.owned := by
  simp only [owned, List.mem_flatMap]
  constructor
  · rintro ⟨⟨name, old⟩, hmem, hid⟩
    cases old with
    | none => cases hid
    | some m => exact ⟨name, m, hmem, hid⟩
  · rintro ⟨name, m, hmem, hid⟩
    exact ⟨(name, some m), hmem, hid⟩

namespace Workspace

variable {w w' : Workspace}

/-- In both workspaces the same tables lead to each other. -/
def SameOwners (w w' : Workspace) : Prop :=
  ∀ id owner, id ∈ (w.table owner).owned ↔ id ∈ (w'.table owner).owned

theorem SameOwners.reaches_eq (h : w.SameOwners w') (id steps : Nat) {held held' : List Nat}
    (hheld : ∀ t, t ∈ held ↔ t ∈ held') : w.reaches id steps held = w'.reaches id steps held' := by
  have hcontains {xs ys : List Nat} (hxy : ∀ t, t ∈ xs ↔ t ∈ ys) :
      xs.contains id = ys.contains id := by
    rw [Bool.eq_iff_iff, List.contains_iff_mem, List.contains_iff_mem, hxy]
  induction steps generalizing held held' with
  | zero => exact hcontains hheld
  | succ steps ih =>
    have hnext (t : Nat) : t ∈ (held.flatMap fun t => (w.table t).owned).eraseDups ↔
        t ∈ (held'.flatMap fun t => (w'.table t).owned).eraseDups := by
      simp only [List.mem_eraseDups, List.mem_flatMap, hheld, h _ _]
    rw [reaches, reaches, hcontains hheld, ih hnext]

theorem SameOwners.alive_eq (h : w.SameOwners w') (hlen : w.tables.length = w'.tables.length)
    (hroots : ∀ t, t ∈ w.roots ↔ t ∈ w'.roots) : w.alive = w'.alive := by
  have hsame : w.isAlive = w'.isAlive := by
    funext id
    rw [isAlive, isAlive, hlen]
    exact h.reaches_eq id _ hroots
  rw [alive, alive, hlen, hsame]

/-- A rule of table `owner` holds a matcher that keeps table `id` alive. -/
def Owns (w : Workspace) (owner id : Nat) : Prop :=
  ∃ rule m, (rule, some m) ∈ (w.table owner).slots ∧ id ∈ m.owned

/-- The tables that something holds: an open grammar, a compiled one, a matcher that is kept, or a
rule of a table in use. -/
inductive InUse (w : Workspace) : Nat → Prop where
  | opened {name g} : (name, g) ∈ w.opened → InUse w g.table
  | compiled {name g} : (name, g) ∈ w.compiled → InUse w g.table
  | kept {name m id} : (name, m) ∈ w.matchers → id ∈ m.owned → InUse w id
  | owned {owner id} : InUse w owner → w.Owns owner id → InUse w id

variable {id owner : Nat}

theorem owns_iff : w.Owns owner id ↔ id ∈ (w.table owner).owned := RuleTable.mem_owned.symm

theorem Owns.owner_lt (h : w.Owns owner id) : owner < w.tables.length := by
  obtain ⟨rule, m, hm, _⟩ := h
  by_contra hge
  rw [table, List.getElem?_eq_none (Nat.le_of_not_lt hge)] at hm
  cases hm

theorem mem_roots : id ∈ w.roots ↔ (∃ x ∈ w.opened, x.2.table = id) ∨
    (∃ x ∈ w.compiled, x.2.table = id) ∨ ∃ x ∈ w.matchers, id ∈ x.2.owned := by
  simp only [roots, List.mem_append, List.mem_map, List.mem_flatMap, or_assoc]

theorem inUse_of_root (h : id ∈ w.roots) : w.InUse id := by
  rcases mem_roots.mp h with ⟨x, hx, rfl⟩ | ⟨x, hx, rfl⟩ | ⟨x, hx, hid⟩
  · exact .opened hx
  · exact .compiled hx
  · exact .kept hx hid

/-- The search reaches a table in one more step by way of an owner that it reaches in fewer. -/
theorem reaches_succ_iff {steps : Nat} {held : List Nat} :
    w.reaches id (steps + 1) held = true ↔
      id ∈ held ∨ ∃ owner, w.reaches owner steps held = true ∧ w.Owns owner id := by
  induction steps generalizing held with
  | zero => simp [reaches, owns_iff]
  | succ steps ih =>
    rw [reaches, Bool.or_eq_true, List.contains_iff_mem, ih]
    simp only [List.mem_eraseDups, List.mem_flatMap, ← owns_iff]
    have hfirst (t : Nat) : w.reaches t (steps + 1) held = true ↔
        t ∈ held ∨
          w.reaches t steps (held.flatMap fun t => (w.table t).owned).eraseDups = true := by
      rw [reaches, Bool.or_eq_true, List.contains_iff_mem]
    simp only [hfirst]
    constructor
    · rintro (h | ⟨t, ht, hid⟩ | ⟨t, ht, hid⟩)
      · exact .inl h
      · exact .inr ⟨t, .inl ht, hid⟩
      · exact .inr ⟨t, .inr ht, hid⟩
    · rintro (h | ⟨t, ht | ht, hid⟩)
      · exact .inl h
      · exact .inr (.inl ⟨t, ht, hid⟩)
      · exact .inr (.inr ⟨t, ht, hid⟩)

theorem reaches_mono {held : List Nat} {steps steps' : Nat} (le : steps ≤ steps')
    (h : w.reaches id steps held = true) : w.reaches id steps' held = true := by
  have one (steps : Nat) : ∀ id, w.reaches id steps held = true →
      w.reaches id (steps + 1) held = true := by
    induction steps with
    | zero =>
      intro id h
      exact reaches_succ_iff.mpr (.inl (List.contains_iff_mem.mp h))
    | succ steps ih =>
      intro id h
      rcases reaches_succ_iff.mp h with h | ⟨owner, ho, hid⟩
      · exact reaches_succ_iff.mpr (.inl h)
      · exact reaches_succ_iff.mpr (.inr ⟨owner, ih owner ho, hid⟩)
  induction le with
  | refl => exact h
  | step _ ih => exact one _ id ih

theorem inUse_iff_reaches : w.InUse id ↔ ∃ steps, w.reaches id steps w.roots = true := by
  constructor
  · have root {id : Nat} (h : id ∈ w.roots) : ∃ steps, w.reaches id steps w.roots = true :=
      ⟨0, List.contains_iff_mem.mpr h⟩
    intro h
    induction h with
    | opened hg => exact root (mem_roots.mpr (.inl ⟨_, hg, rfl⟩))
    | compiled hg => exact root (mem_roots.mpr (.inr (.inl ⟨_, hg, rfl⟩)))
    | kept hm hid => exact root (mem_roots.mpr (.inr (.inr ⟨_, hm, hid⟩)))
    | owned _ hid ih =>
      obtain ⟨steps, ho⟩ := ih
      exact ⟨steps + 1, reaches_succ_iff.mpr (.inr ⟨_, ho, hid⟩)⟩
  · rintro ⟨steps, h⟩
    induction steps generalizing id with
    | zero => exact inUse_of_root (List.contains_iff_mem.mp h)
    | succ steps ih =>
      rcases reaches_succ_iff.mp h with h | ⟨owner, ho, hid⟩
      · exact inUse_of_root h
      · exact .owned (ih ho) hid

/-- The search from what is held needs exactly `steps` steps to reach table `id`. A shortest way
meets every table at most once. -/
def FirstReached (w : Workspace) (id steps : Nat) : Prop :=
  w.reaches id steps w.roots = true ∧ ∀ fewer < steps, w.reaches id fewer w.roots = false

theorem FirstReached.unique {steps steps' : Nat} (h : w.FirstReached id steps)
    (h' : w.FirstReached id steps') : steps = steps' := by
  rcases Nat.lt_trichotomy steps steps' with hlt | he | hlt
  · exact absurd h.1 (by simp [h'.2 steps hlt])
  · exact he
  · exact absurd h'.1 (by simp [h.2 steps' hlt])

theorem FirstReached.by_owner {steps : Nat} (h : w.FirstReached id (steps + 1)) :
    ∃ owner, w.FirstReached owner steps ∧ w.Owns owner id := by
  have hno (fewer : Nat) (hlt : fewer < steps + 1) : ¬ w.reaches id fewer w.roots = true := by
    simp [h.2 fewer hlt]
  rcases reaches_succ_iff.mp h.1 with hroot | ⟨owner, ho, hid⟩
  · exact absurd (List.contains_iff_mem.mpr hroot) (hno 0 (by omega))
  · refine ⟨owner, ⟨ho, ?_⟩, hid⟩
    intro fewer hlt
    by_contra hyes
    have hyes : w.reaches owner fewer w.roots = true := by simpa using hyes
    exact hno (fewer + 1) (by omega) (reaches_succ_iff.mpr (.inr ⟨owner, hyes, hid⟩))

/-- On a shortest way there is an owner at every distance before the last. -/
theorem FirstReached.owner_at {steps : Nat} (h : w.FirstReached id steps) :
    ∀ k < steps, ∃ owner < w.tables.length, w.FirstReached owner k := by
  induction steps generalizing id with
  | zero => exact fun k hk => absurd hk (Nat.not_lt_zero k)
  | succ steps ih =>
    obtain ⟨owner, ho, hid⟩ := h.by_owner
    intro k hk
    rcases Nat.lt_succ_iff_lt_or_eq.mp hk with hlt | rfl
    · exact ih ho k hlt
    · exact ⟨owner, hid.owner_lt, ho⟩

theorem FirstReached.steps_le {steps : Nat} (h : w.FirstReached id steps) :
    steps ≤ w.tables.length := by
  choose owner hlt hfirst using h.owner_at
  let at_ (k : Fin steps) : Fin w.tables.length := ⟨owner k k.2, hlt k k.2⟩
  have hinj : Function.Injective at_ := by
    intro k k' he
    have he : owner k k.2 = owner k' k'.2 := congrArg Fin.val he
    have hk := hfirst k k.2
    rw [he] at hk
    exact Fin.ext (hk.unique (hfirst k' k'.2))
  simpa using Fintype.card_le_of_injective at_ hinj

theorem exists_firstReached {steps : Nat} (h : w.reaches id steps w.roots = true) :
    ∃ least, w.FirstReached id least := by
  have hex : ∃ steps, w.reaches id steps w.roots = true := ⟨steps, h⟩
  refine ⟨Nat.find hex, Nat.find_spec hex, ?_⟩
  intro fewer hlt
  simpa using Nat.find_min hex hlt

/-- As many steps as there are tables are enough, so the search finds exactly the tables in use. -/
theorem isAlive_iff_inUse : w.isAlive id = true ↔ w.InUse id := by
  rw [inUse_iff_reaches]
  constructor
  · intro h
    exact ⟨_, h⟩
  · rintro ⟨steps, h⟩
    obtain ⟨least, hleast⟩ := exists_firstReached h
    exact reaches_mono hleast.steps_le hleast.1

end Workspace

end TokenGrammar
