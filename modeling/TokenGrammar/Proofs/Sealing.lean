import TokenGrammar.Proofs.Cycles
import TokenGrammar.Proofs.History
import TokenGrammar.Proofs.Ownership

namespace TokenGrammar

namespace Named

variable {α : Type} {xs : Named α} {name : String} {a : α} {x : String × α}

theorem mem_of_lookup (h : xs.lookup name = some a) : (name, a) ∈ xs := by
  obtain ⟨before, after, he, _⟩ := List.lookup_eq_some_iff.mp h
  rw [he]
  exact List.mem_append_right _ List.mem_cons_self

theorem mem_erase : x ∈ erase xs name ↔ x ∈ xs ∧ x.1 ≠ name := by
  simp [erase]

theorem mem_put : x ∈ put xs name a ↔ x = (name, a) ∨ x ∈ xs ∧ x.1 ≠ name := by
  simp [put, mem_erase]

end Named

namespace Workspace

/-- No open grammar has the table, so no call changes it. -/
def Sealed (w : Workspace) (id : Nat) : Prop :=
  id < w.tables.length ∧ ∀ x ∈ w.opened, x.2.table ≠ id

/-- A matcher that is made next may own the table: one that is kept does already, or a compiled
grammar has it and may hand out one that does. -/
def Offers (w : Workspace) (id : Nat) : Prop :=
  (∃ x ∈ w.matchers, id ∈ x.2.owned) ∨ ∃ x ∈ w.compiled, x.2.table = id

/-- Each open grammar has a table of its own, which no matcher and no rule owns. -/
structure Orderly (w : Workspace) : Prop where
  opened_known : ∀ x ∈ w.opened, x.2.table < w.tables.length
  opened_apart : ∀ x ∈ w.opened, ∀ y ∈ w.opened, x.2.table = y.2.table → x.1 = y.1
  offers_sealed : ∀ id, w.Offers id → w.Sealed id
  owns_sealed : ∀ owner id, w.Owns owner id → w.Sealed id

/-- What one call may change about who holds what. A table that is opened is a new one. What a
grammar or a matcher comes to hold was on offer before, or is the table of a grammar that was open
and is not any more. Only the table of an open grammar comes to own others, and only what is on
offer. -/
structure Shift (w w' : Workspace) : Prop where
  grows : w.tables.length ≤ w'.tables.length
  unchanged : ∀ id, w.Sealed id → w'.table id = w.table id
  opened : ∃ name, ∀ x ∈ w'.opened, x ∈ w.opened ∨
    (x.1 = name ∧ x.2.table = w.tables.length ∧ w.tables.length < w'.tables.length)
  offers : ∀ id, w'.Offers id → w.Offers id ∨ (∃ x ∈ w.opened, x.2.table = id) ∧ w'.Sealed id
  owns : ∀ owner id, w'.Owns owner id →
    w.Owns owner id ∨ (∃ x ∈ w.opened, x.2.table = owner) ∧ w.Offers id

variable {w w' : Workspace} {id : Nat}

theorem orderly_empty : empty.Orderly where
  opened_known := nofun
  opened_apart := nofun
  offers_sealed := by
    rintro id (⟨_, hx, _⟩ | ⟨_, hx, _⟩) <;> cases hx
  owns_sealed := by
    rintro owner id h
    exact absurd h.owner_lt (Nat.not_lt_zero owner)

theorem Offers.inUse (h : w.Offers id) : w.InUse id := by
  rcases h with ⟨x, hx, hid⟩ | ⟨x, hx, rfl⟩
  · exact .kept hx hid
  · exact .compiled hx

section Shift

theorem Shift.keeps_sealed (h : Shift w w') (hid : w.Sealed id) : w'.Sealed id := by
  obtain ⟨name, hopened⟩ := h.opened
  refine ⟨Nat.lt_of_lt_of_le hid.1 h.grows, ?_⟩
  intro x hx
  rcases hopened x hx with hold | ⟨_, htable, _⟩
  · exact hid.2 x hold
  · rw [htable]
    exact Nat.ne_of_gt hid.1

theorem Shift.orderly (h : Shift w w') (hw : w.Orderly) : w'.Orderly := by
  obtain ⟨name, hopened⟩ := h.opened
  refine ⟨?_, ?_, ?_, ?_⟩
  · intro x hx
    rcases hopened x hx with hold | ⟨_, htable, hlt⟩
    · exact Nat.lt_of_lt_of_le (hw.opened_known x hold) h.grows
    · rwa [htable]
  · intro x hx y hy he
    rcases hopened x hx with hxold | ⟨hxname, hxtable, _⟩ <;>
      rcases hopened y hy with hyold | ⟨hyname, hytable, _⟩
    · exact hw.opened_apart x hxold y hyold he
    · have := hw.opened_known x hxold
      omega
    · have := hw.opened_known y hyold
      omega
    · rw [hxname, hyname]
  · intro id hid
    rcases h.offers id hid with hold | ⟨_, hsealed⟩
    · exact h.keeps_sealed (hw.offers_sealed id hold)
    · exact hsealed
  · intro owner id hid
    rcases h.owns owner id hid with hold | ⟨_, hoffers⟩
    · exact h.keeps_sealed (hw.owns_sealed owner id hold)
    · exact h.keeps_sealed (hw.offers_sealed id hoffers)

/-- What a call leaves in use was in use before, but for a table that it opens. -/
theorem Shift.inUse (h : Shift w w') (hid : w'.InUse id) : w.InUse id ∨ id = w.tables.length := by
  have offered {id : Nat} (hid : w'.Offers id) : w.InUse id := by
    rcases h.offers id hid with hold | ⟨⟨x, hx, rfl⟩, _⟩
    · exact hold.inUse
    · exact .opened hx
  induction hid with
  | @opened name g hx =>
    obtain ⟨_, hopened⟩ := h.opened
    rcases hopened _ hx with hold | ⟨_, htable, _⟩
    · exact .inl (.opened hold)
    · exact .inr htable
  | compiled hx => exact .inl (offered (.inr ⟨_, hx, rfl⟩))
  | kept hx hid => exact .inl (offered (.inl ⟨_, hx, hid⟩))
  | @owned owner id _ hid ih =>
    rcases h.owns owner id hid with hold | ⟨_, hoffers⟩
    · have hlt := hold.owner_lt
      rcases ih with ih | rfl
      · exact .inl (.owned ih hold)
      · exact absurd hlt (Nat.lt_irrefl _)
    · exact .inl hoffers.inUse

/-- Nothing owns the table of an open grammar, so what is defined there closes no cycle. -/
theorem Shift.acyclic (h : Shift w w') (hw : w.Orderly)
    (acyclic : ∀ id, ¬ Relation.TransGen w.Owns id id) (id : Nat) :
    ¬ Relation.TransGen w'.Owns id id := by
  refine acyclic_of_new_starts (fun id => ∃ x ∈ w.opened, x.2.table = id) ?_ ?_ acyclic id
  · intro owner id hid
    exact (h.owns owner id hid).imp_right And.left
  · rintro owner id hid ⟨x, hx, he⟩
    have hsealed : w.Sealed id := by
      rcases h.owns owner id hid with hold | ⟨_, hoffers⟩
      · exact hw.owns_sealed owner id hold
      · exact hw.offers_sealed id hoffers
    exact hsealed.2 x hx he

end Shift

section Calls

theorem owns_congr {owner : Nat} (h : w'.table owner = w.table owner) :
    w'.Owns owner id ↔ w.Owns owner id := by
  simp only [Owns, h]

theorem table_congr (h : w'.tables = w.tables) (id : Nat) : w'.table id = w.table id := by
  rw [table, h, table]

/-- Dropping grammars and matchers. -/
theorem Shift.of_subset (htables : w'.tables = w.tables) (hopened : ∀ x ∈ w'.opened, x ∈ w.opened)
    (hcompiled : ∀ x ∈ w'.compiled, x ∈ w.compiled)
    (hmatchers : ∀ x ∈ w'.matchers, x ∈ w.matchers) : Shift w w' where
  grows := by rw [htables]
  unchanged id _ := table_congr htables id
  opened := ⟨"", fun x hx => .inl (hopened x hx)⟩
  offers id h := by
    rcases h with ⟨x, hx, hid⟩ | ⟨x, hx, he⟩
    · exact .inl (.inl ⟨x, hmatchers x hx, hid⟩)
    · exact .inl (.inr ⟨x, hcompiled x hx, he⟩)
  owns owner _ h := .inl ((owns_congr (table_congr htables owner)).mp h)

theorem Shift.refl (w : Workspace) : Shift w w :=
  .of_subset rfl (fun _ h => h) (fun _ h => h) (fun _ h => h)

theorem new_shift (w : Workspace) (name : String) (settings : Settings) :
    Shift w (w.new name settings) where
  grows := by simp [new]
  unchanged id _ := table_new w name settings id
  opened := by
    refine ⟨name, ?_⟩
    intro x hx
    rcases Named.mem_put.mp hx with rfl | ⟨hx, _⟩
    · exact .inr ⟨rfl, rfl, by simp [new]⟩
    · exact .inl hx
  offers id h := by
    rcases h with h | ⟨x, hx, he⟩
    · exact .inl (.inl h)
    · exact .inl (.inr ⟨x, (Named.mem_erase.mp hx).1, he⟩)
  owns owner id h := by
    exact .inl ((owns_congr (table_new w name settings owner)).mp h)

/-- A name is mentioned or defined in the table of an open grammar. -/
theorem setTable_shift {name : String} {g : OpenGrammar} (hg : (name, g) ∈ w.opened)
    {t : RuleTable} (ht : ∀ rule m, (rule, some m) ∈ t.slots → ∀ id ∈ m.owned,
      w.Owns g.table id ∨ w.Offers id) : Shift w (w.setTable g.table t) where
  grows := by simp [setTable]
  unchanged id hid := by
    have hne : id ≠ g.table := fun he => hid.2 _ hg he.symm
    rw [table_set, if_neg (fun h => hne h.1)]
  opened := ⟨name, fun _ hx => .inl hx⟩
  offers _ h := .inl h
  owns owner id h := by
    obtain ⟨rule, m, hm, hid⟩ := h
    rw [table_set] at hm
    split at hm
    · rename_i howner
      rcases ht rule m hm id hid with hold | hoffers
      · exact .inl (howner.1 ▸ hold)
      · exact .inr ⟨⟨_, hg, howner.1.symm⟩, hoffers⟩
    · exact .inl ⟨rule, m, hm, hid⟩

theorem mem_mention {t : RuleTable} {name rule : String} {m : Matcher}
    (h : (rule, some m) ∈ (t.mention name).slots) : (rule, some m) ∈ t.slots := by
  unfold RuleTable.mention at h
  split at h
  · exact h
  · rcases List.mem_append.mp h with h | h
    · exact h
    · simp at h

theorem reference_shift {name rule : String} {m : Matcher}
    (h : w.reference name rule = .ok (m, w')) :
    Shift w w' ∧ w'.matchers = w.matchers ∧ m.owned = [] := by
  obtain ⟨g, hg, rfl, rfl⟩ := table_of_reference h
  refine ⟨setTable_shift (Named.mem_of_lookup hg) ?_, rfl, rfl⟩
  intro rule' m hm id hid
  exact .inl ⟨rule', m, mem_mention hm, hid⟩

theorem define_shift {name rule : String} {m : Matcher} (hm : ∀ id ∈ m.owned, w.Offers id)
    (h : w.define name rule m = .ok (.ok w')) : Shift w w' := by
  obtain ⟨g, t, hg, ht, rfl⟩ := table_of_define h
  refine setTable_shift (Named.mem_of_lookup hg) ?_
  intro rule' m' hm' id hid
  rw [(RuleTable.slots_of_define ht).2] at hm'
  rcases RuleTable.mem_fill hm' with ⟨rfl, he⟩ | hold
  · obtain rfl := Option.some.inj he
    exact .inr (hm id hid)
  · exact .inl ⟨rule', m', mem_mention hold, hid⟩

theorem build_shift {name start : String}
    {result : Except GrammarError (List String × Event)} (hw : w.Orderly)
    (h : w.build name start = .ok (result, w')) : Shift w w' := by
  unfold build at h
  split at h
  · cases h
  · rename_i g hg
    dsimp only at h
    have herase : ∀ x ∈ w.opened.erase name, x ∈ w.opened := fun x hx => (Named.mem_erase.mp hx).1
    split at h
    · cases h
      exact .of_subset rfl herase (fun _ hx => hx) (fun _ hx => hx)
    · cases h
      refine ⟨Nat.le_refl _, fun _ _ => rfl, ⟨name, fun x hx => .inl (herase x hx)⟩, ?_,
        fun _ _ hid => .inl hid⟩
      intro id hid
      rcases hid with hid | ⟨x, hx, rfl⟩
      · exact .inl (.inl hid)
      · rcases Named.mem_put.mp hx with rfl | ⟨hx, _⟩
        · have hopen := Named.mem_of_lookup hg
          refine .inr ⟨⟨_, hopen, rfl⟩, hw.opened_known _ hopen, ?_⟩
          intro y hy he
          obtain ⟨hy, hne⟩ := Named.mem_erase.mp hy
          exact hne (hw.opened_apart y hy _ hopen he)
        · exact .inl (.inr ⟨x, hx, rfl⟩)

theorem offers_of_kept {name : String} {m : Matcher} (h : w.kept name = .ok m) :
    ∀ id ∈ m.owned, w.Offers id := by
  unfold kept at h
  split at h
  · cases h
  · rename_i m' hm
    cases h
    intro id hid
    exact .inl ⟨_, Named.mem_of_lookup hm, hid⟩

theorem offers_of_parts {parts : List String} {ms : List Matcher}
    (h : parts.mapM w.kept = .ok ms) : ∀ id ∈ Matcher.ownedAll ms, w.Offers id := by
  induction parts generalizing ms with
  | nil =>
    cases h
    exact nofun
  | cons part parts ih =>
    rw [List.mapM_cons] at h
    obtain ⟨m, hm, h⟩ := ok_of_bind h
    obtain ⟨rest, hrest, h⟩ := ok_of_bind h
    cases h
    intro id hid
    rcases List.mem_append.mp hid with hid | hid
    · exact offers_of_kept hm id hid
    · exact ih hrest id hid

/-- What is made owns only what was on offer. -/
theorem make_shift {making : Making} {found : Option Matcher}
    (h : w.make making = .ok (found, w')) :
    Shift w w' ∧ w'.matchers = w.matchers ∧ ∀ m ∈ found, ∀ id ∈ m.owned, w.Offers id := by
  cases making with
  | terminal | custom =>
    cases h
    refine ⟨.refl w, rfl, ?_⟩
    rintro _ ⟨⟩ id hid
    cases hid
  | copy part | optional part | repetition max part | rule name part =>
    obtain ⟨m, hm, he⟩ := ok_of_bind h
    cases he
    have howned := offers_of_kept hm
    refine ⟨.refl w, rfl, ?_⟩
    rintro _ ⟨⟩
    exact howned
  | sequence parts | alternation parts =>
    obtain ⟨ms, hms, he⟩ := ok_of_bind h
    cases he
    have howned := offers_of_parts hms
    refine ⟨.refl w, rfl, ?_⟩
    rintro _ ⟨⟩
    exact howned
  | reference grammar rule =>
    obtain ⟨⟨m, v⟩, hr, he⟩ := ok_of_bind h
    cases he
    obtain ⟨hshift, hmatchers, howned⟩ := reference_shift hr
    refine ⟨hshift, hmatchers, ?_⟩
    rintro _ ⟨⟩ id hid
    rw [howned] at hid
    cases hid
  | bounded grammar body =>
    obtain ⟨m, hm, h⟩ := ok_of_bind h
    obtain ⟨m', hm', he⟩ := ok_of_bind h
    cases he
    have howned := offers_of_kept hm
    refine ⟨.refl w, rfl, ?_⟩
    rintro _ ⟨⟩
    unfold Workspace.repetition at hm'
    split at hm'
    · cases hm'
    · cases hm'
      exact howned
  | ruleMatcher grammar rule =>
    obtain ⟨m, hm, he⟩ := ok_of_bind h
    cases he
    refine ⟨.refl w, rfl, ?_⟩
    unfold Workspace.ruleMatcher at hm
    split at hm
    · cases hm
    · rename_i g hg
      cases hm
      intro m hm id hid
      obtain ⟨_, _, rfl⟩ := Option.map_eq_some_iff.mp hm
      obtain rfl := List.mem_singleton.mp hid
      exact .inr ⟨_, Named.mem_of_lookup hg, rfl⟩

theorem Shift.keep (h : Shift w w') (hmatchers : w'.matchers = w.matchers) {m : Matcher}
    (hm : ∀ id ∈ m.owned, w.Offers id) (name : String) : Shift w (w'.keep name m) where
  grows := h.grows
  unchanged := h.unchanged
  opened := h.opened
  offers id hid := by
    rcases hid with ⟨x, hx, hid⟩ | hid
    · rcases Named.mem_put.mp hx with rfl | ⟨hx, _⟩
      · exact .inl (hm id hid)
      · exact .inl (.inl ⟨x, hmatchers ▸ hx, hid⟩)
    · exact h.offers id (.inr hid)
  owns := h.owns

theorem perform_shift (hw : w.Orderly) (c : Call) : Shift w (w.perform c) := by
  cases c with
  | new grammar settings => exact new_shift w grammar settings
  | drop grammar =>
    exact .of_subset rfl (fun _ hx => (Named.mem_erase.mp hx).1)
      (fun _ hx => (Named.mem_erase.mp hx).1) (fun _ hx => hx)
  | forget name =>
    exact .of_subset rfl (fun _ hx => hx) (fun _ hx => hx) (fun _ hx => (Named.mem_erase.mp hx).1)
  | make name making =>
    simp only [perform]
    split
    · exact .refl w
    · rename_i h
      exact (make_shift h).1
    · rename_i h
      obtain ⟨hshift, hmatchers, howned⟩ := make_shift h
      exact hshift.keep hmatchers (howned _ rfl) name
  | define grammar rule body =>
    simp only [perform]
    split
    · rename_i h
      obtain ⟨m, hm, hd⟩ := ok_of_bind h
      exact define_shift (offers_of_kept hm) hd
    · exact .refl w
    · exact .refl w
  | build grammar start =>
    simp only [perform]
    split
    · exact .refl w
    · rename_i h
      exact build_shift hw h

end Calls

section Runs

theorem Becomes.orderly (h : w.Becomes w') (hw : w.Orderly) : w'.Orderly :=
  h.keeps (fun _ c hw => (perform_shift hw c).orderly hw) hw

/-- What is kept through all that one call may do is kept for ever. -/
theorem Becomes.keeps_shift {P : Workspace → Prop} (h : w.Becomes w') (hw : w.Orderly)
    (step : ∀ v v' : Workspace, v.Orderly → Shift v v' → P v → P v') (start : P w) : P w' := by
  have hkept : w'.Orderly ∧ P w' := by
    refine h.keeps (P := fun v => v.Orderly ∧ P v) ?_ ⟨hw, start⟩
    rintro v c ⟨hv, hP⟩
    have hshift := perform_shift hv c
    exact ⟨hshift.orderly hv, step v _ hv hshift hP⟩
  exact hkept.2

/-- In every workspace that calls lead to, no table comes back to itself by what its rules own. -/
theorem acyclic_of_becomes (h : empty.Becomes w) (id : Nat) :
    ¬ Relation.TransGen w.Owns id id := by
  have hacyclic : ∀ id, ¬ Relation.TransGen w.Owns id id := by
    apply h.keeps_shift (P := fun w => ∀ id, ¬ Relation.TransGen w.Owns id id) orderly_empty
    · intro v v' hv hshift acyclic
      exact hshift.acyclic hv acyclic
    · intro id hcycle
      obtain ⟨owner, _, hlast⟩ := Relation.TransGen.tail'_iff.mp hcycle
      exact absurd hlast.owner_lt (Nat.not_lt_zero owner)
  exact hacyclic id

theorem Becomes.known (h : w.Becomes w') (hw : w.Orderly) (hid : id < w.tables.length) :
    id < w'.tables.length := by
  apply h.keeps_shift (P := fun v => id < v.tables.length) hw
  · intro v v' _ hshift hlt
    exact Nat.lt_of_lt_of_le hlt hshift.grows
  · exact hid

/-- A sealed table is the same for ever. -/
theorem Becomes.sealed (h : w.Becomes w') (hw : w.Orderly) (hid : w.Sealed id) :
    w'.Sealed id ∧ w'.table id = w.table id := by
  apply h.keeps_shift (P := fun v => v.Sealed id ∧ v.table id = w.table id) hw
  · rintro v v' _ hshift ⟨hsealed, htable⟩
    exact ⟨hshift.keeps_sealed hsealed, (hshift.unchanged id hsealed).trans htable⟩
  · exact ⟨hid, rfl⟩

/-- A table that is out of use is never in use again. -/
theorem Becomes.inUse (h : w.Becomes w') (hw : w.Orderly) (hid : id < w.tables.length)
    (huse : w'.InUse id) : w.InUse id := by
  have hback : id < w'.tables.length ∧ (w'.InUse id → w.InUse id) := by
    apply h.keeps_shift (P := fun v => id < v.tables.length ∧ (v.InUse id → w.InUse id)) hw
    · rintro v v' _ hshift ⟨hlt, hback⟩
      refine ⟨Nat.lt_of_lt_of_le hlt hshift.grows, ?_⟩
      intro huse
      rcases hshift.inUse huse with huse | he
      · exact hback huse
      · exact absurd he (Nat.ne_of_lt hlt)
    · exact ⟨hid, fun h => h⟩
  exact hback.2 huse

theorem InUse.known (h : w.InUse id) (hw : w.Orderly) : id < w.tables.length := by
  cases h with
  | opened hx => exact hw.opened_known _ hx
  | compiled hx => exact (hw.offers_sealed _ (.inr ⟨_, hx, rfl⟩)).1
  | kept hx hid => exact (hw.offers_sealed _ (.inl ⟨_, hx, hid⟩)).1
  | owned _ hid => exact (hw.owns_sealed _ _ hid).1

end Runs

end Workspace

end TokenGrammar
