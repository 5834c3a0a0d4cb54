import TokenGrammar.Grammar.Workspace
import TokenGrammar.Proofs.Runs

namespace TokenGrammar

/-- What a slot runs is a definition inside a production of the slot's name. -/
def Matcher.Rules.Wrapped (rules : Matcher.Rules) : Prop :=
  ∀ slot m, rules slot = some m → ∃ body, m = .rule slot.name body

namespace RuleTable

variable {t t' : RuleTable} {name : String} {m : Matcher}

theorem mem_of_find (h : t.find? name = some m) : (name, some m) ∈ t.slots := by
  obtain ⟨before, after, he, _⟩ := List.lookup_eq_some_iff.mp (Option.join_eq_some_iff.mp h)
  rw [he]
  exact List.mem_append_right _ List.mem_cons_self

theorem name_mem_of_find (h : t.find? name = some m) : name ∈ t.names :=
  List.mem_map.mpr ⟨_, mem_of_find h, rfl⟩

/-- Each definition is a production of the name that it stands under. -/
def Wrapped (t : RuleTable) : Prop :=
  ∀ name m, (name, some m) ∈ t.slots → ∃ body, m = .rule name body

theorem wrapped_empty : empty.Wrapped := by
  intro name m h
  cases h

theorem Wrapped.mention (h : t.Wrapped) (name : String) : (t.mention name).Wrapped := by
  unfold RuleTable.mention
  split
  · exact h
  · intro n m hm
    rcases List.mem_append.mp hm with hm | hm
    · exact h n m hm
    · simp at hm

theorem mem_fill {slots : List (String × Option Matcher)} {n : String} {old : Option Matcher}
    (h : (n, old) ∈ fill name m slots) : (n = name ∧ old = some m) ∨ (n, old) ∈ slots := by
  induction slots with
  | nil => cases h
  | cons slot slots ih =>
    obtain ⟨n', old'⟩ := slot
    unfold fill at h
    split at h
    · rename_i hn
      rcases List.mem_cons.mp h with he | ht
      · obtain ⟨rfl, rfl⟩ := Prod.mk.inj he
        exact .inl ⟨hn, rfl⟩
      · exact .inr (List.mem_cons_of_mem _ ht)
    · rcases List.mem_cons.mp h with he | ht
      · exact .inr (he ▸ List.mem_cons_self)
      · exact (ih ht).imp_right (List.mem_cons_of_mem _)

theorem mem_fill_or_lookup {slots : List (String × Option Matcher)} {n : String}
    {o : Option Matcher} (h : (n, o) ∈ slots) (name : String) (m : Matcher) :
    (n, o) ∈ fill name m slots ∨ slots.lookup name = some o := by
  induction slots with
  | nil => cases h
  | cons slot slots ih =>
    obtain ⟨first, o'⟩ := slot
    by_cases hf : first = name
    · subst hf
      rcases List.mem_cons.mp h with he | ht
      · obtain ⟨rfl, rfl⟩ := Prod.mk.inj he
        exact .inr List.lookup_cons_self
      · simp only [fill, ↓reduceIte]
        exact .inl (List.mem_cons_of_mem _ ht)
    · have hb : (name == first) = false := by simpa using Ne.symm hf
      simp only [fill, hf, ↓reduceIte, List.lookup_cons, hb]
      rcases List.mem_cons.mp h with he | ht
      · exact .inl (he ▸ List.mem_cons_self)
      · exact (ih ht).imp_left (List.mem_cons_of_mem _)

/-- A definition is taken where there is none, and only fills the slot of its name. -/
theorem slots_of_define (h : t.define name m = .ok t') :
    t.find? name = none ∧ t'.slots = fill name (.rule name m) (t.mention name).slots := by
  unfold RuleTable.define at h
  split at h
  · cases h
  · rename_i hnone
    cases h
    exact ⟨by simpa using hnone, rfl⟩

theorem Wrapped.define (h : t.Wrapped) (hd : t.define name m = .ok t') : t'.Wrapped := by
  intro n m' hm
  rw [(slots_of_define hd).2] at hm
  rcases mem_fill hm with ⟨rfl, he⟩ | hm
  · exact ⟨m, Option.some.inj he⟩
  · exact h.mention name n m' hm

/-- The rules of a table by itself, when its number is `id`. -/
def rulesAs (t : RuleTable) (id : Nat) : Matcher.Rules := fun slot =>
  if slot.table = id then t.find? slot.name else none

def slotsAs (t : RuleTable) (id : Nat) : List Slot := t.names.map (Slot.mk id)

theorem rulesAs_of_eq {slot : Slot} {id : Nat} (h : slot.table = id) :
    t.rulesAs id slot = t.find? slot.name := if_pos h

theorem find_of_rulesAs {slot : Slot} {id : Nat} (h : t.rulesAs id slot = some m) :
    slot.table = id ∧ t.find? slot.name = some m := by
  unfold rulesAs at h
  split at h
  · rename_i hs
    exact ⟨hs, h⟩
  · cases h

theorem mem_slotsAs {slot : Slot} {id : Nat} (h : t.rulesAs id slot = some m) :
    slot ∈ t.slotsAs id := by
  obtain ⟨rfl, hf⟩ := find_of_rulesAs h
  exact List.mem_map.mpr ⟨slot.name, name_mem_of_find hf, rfl⟩

end RuleTable

namespace Workspace

variable {w : Workspace} {slot : Slot} {m : Matcher} {id : Nat}

theorem find_of_rules (h : w.rules slot = some m) :
    slot.table < w.tables.length ∧ (w.table slot.table).find? slot.name = some m := by
  unfold rules rulesIn at h
  split at h
  · rename_i ha
    have hmem := (List.mem_filter.mp (List.contains_iff_mem.mp ha)).1
    exact ⟨List.mem_range.mp hmem, h⟩
  · cases h

theorem table_mem (h : id < w.tables.length) : w.table id ∈ w.tables := by
  rw [table, List.getElem?_eq_getElem h]
  exact List.getElem_mem h

/-- Every rule in force is a definition in some table. -/
theorem mem_of_rules (h : w.rules slot = some m) :
    ∃ t ∈ w.tables, (slot.name, some m) ∈ t.slots := by
  obtain ⟨hlt, hf⟩ := find_of_rules h
  exact ⟨_, table_mem hlt, RuleTable.mem_of_find hf⟩

theorem rules_all {P : Matcher → Prop}
    (h : ∀ t ∈ w.tables, ∀ name m, (name, some m) ∈ t.slots → P m) : w.rules.All P := by
  intro slot m hr
  obtain ⟨t, ht, hm⟩ := mem_of_rules hr
  exact h t ht slot.name m hm

/-- Every table holds each definition as a production of its name. Whatever is opened, mentioned or
defined, this stays so; the other operations leave the tables alone. -/
def Wrapped (w : Workspace) : Prop := ∀ t ∈ w.tables, t.Wrapped

theorem Wrapped.rules (h : w.Wrapped) : w.rules.Wrapped := by
  intro slot m hr
  obtain ⟨t, ht, hm⟩ := mem_of_rules hr
  exact h t ht slot.name m hm

theorem Wrapped.table (h : w.Wrapped) (id : Nat) : (w.table id).Wrapped := by
  by_cases hlt : id < w.tables.length
  · exact h _ (table_mem hlt)
  · rw [Workspace.table, List.getElem?_eq_none (Nat.le_of_not_lt hlt)]
    exact RuleTable.wrapped_empty

theorem Wrapped.setTable (h : w.Wrapped) {t : RuleTable} (ht : t.Wrapped) (id : Nat) :
    (w.setTable id t).Wrapped := by
  intro t' ht'
  rcases List.mem_or_eq_of_mem_set ht' with hold | rfl
  · exact h t' hold
  · exact ht

theorem wrapped_empty : empty.Wrapped := by
  intro t ht
  cases ht

/-- All rules of a table in use are in force. -/
theorem rules_of_alive {slot : Slot} (h : w.isAlive slot.table = true) :
    w.rules slot = (w.table slot.table).find? slot.name := by
  unfold Workspace.rules rulesIn
  split
  · rfl
  · rename_i ha
    have hge : w.tables.length ≤ slot.table := by
      by_contra hlt
      refine ha (List.contains_iff_mem.mpr (List.mem_filter.mpr ⟨?_, h⟩))
      exact List.mem_range.mpr (Nat.lt_of_not_le hlt)
    rw [Workspace.table, List.getElem?_eq_none hge]
    rfl

/-- No rule of a table out of use is in force. -/
theorem rules_of_not_alive {slot : Slot} (h : w.isAlive slot.table = false) :
    w.rules slot = none := by
  unfold Workspace.rules rulesIn
  split
  · rename_i ha
    have halive := (List.mem_filter.mp (List.contains_iff_mem.mp ha)).2
    cases h.symm.trans halive
  · rfl

theorem alive_of_root {id : Nat} (h : id ∈ w.roots) : w.isAlive id = true := by
  unfold isAlive
  cases w.tables.length <;> simp [reaches, h]

/-- A table that something holds by itself is in use, so all its rules are in force. -/
theorem rules_of_root {id : Nat} (h : id ∈ w.roots) {slot : Slot} (hs : slot.table = id) :
    w.rules slot = (w.table id).find? slot.name := by
  subst hs
  exact rules_of_alive (alive_of_root h)

theorem root_of_compiled {name : String} {g : CompiledGrammar}
    (h : w.compiled.lookup name = some g) : g.table ∈ w.roots := by
  obtain ⟨before, after, he, _⟩ := List.lookup_eq_some_iff.mp h
  simp [roots, he]

/-- The slots of all tables, used or not. -/
def slots (w : Workspace) : List Slot :=
  (List.range w.tables.length).flatMap (fun id => (w.table id).slotsAs id)

theorem mem_slots_of_rules (h : w.rules slot = some m) : slot ∈ w.slots := by
  obtain ⟨hlt, hf⟩ := find_of_rules h
  exact List.mem_flatMap.mpr ⟨slot.table, List.mem_range.mpr hlt,
    List.mem_map.mpr ⟨slot.name, RuleTable.name_mem_of_find hf, rfl⟩⟩

theorem slots_length (w : Workspace) :
    w.slots.length = (w.tables.map (·.slots.length)).foldr (· + ·) 0 := by
  have hmap : (List.range w.tables.length).map (fun id => (w.table id).slots.length) =
      w.tables.map (·.slots.length) := by
    apply List.ext_getElem
    · simp
    · intro i hi hi'
      have : i < w.tables.length := by simpa using hi'
      simp [table, List.getElem?_eq_getElem this]
  rw [slots, List.length_flatMap, ← List.sum_eq_foldr, ← hmap]
  simp [RuleTable.slotsAs, RuleTable.names]

end Workspace

section Lists

/-- Lists in parentheses; what stands in them are lists and words. -/
def listTable (word : Matcher) : RuleTable := ⟨[
  ("item", some (.rule "item" (.alternation [.reference ⟨0, "list"⟩, word]))),
  ("list", some (.rule "list" (.sequence [.terminal (.literal "("),
    .repetition none (.reference ⟨0, "item"⟩), .terminal (.literal ")")])))]⟩

example (word : Matcher) :
    ((RuleTable.empty.mention "item").define "list" (.sequence [.terminal (.literal "("),
      .repetition none (.reference ⟨0, "item"⟩), .terminal (.literal ")")])).bind
      (fun t => (t.mention "list").define "item" (.alternation [.reference ⟨0, "list"⟩, word])) =
    .ok (listTable word) := rfl

/-- A workspace that holds this grammar, compiled, and nothing else. -/
def listWorkspace (word : Matcher) : Workspace :=
  ⟨[listTable word], [], [("lists", ⟨0, "list", {}⟩)], []⟩

/-- A list of a word and an empty list, and a word behind it. -/
def listTokens : List Token :=
  [⟨"mark", "("⟩, ⟨"word", "a"⟩, ⟨"mark", "("⟩, ⟨"mark", ")"⟩, ⟨"mark", ")"⟩, ⟨"word", "b"⟩]

def listNode : Node :=
  .named "list" [.terminal ⟨"mark", "("⟩, .named "item" [.terminal ⟨"word", "a"⟩],
    .named "item" [.named "list" [.terminal ⟨"mark", "("⟩, .terminal ⟨"mark", ")"⟩]],
    .terminal ⟨"mark", ")"⟩]

theorem mem_listTable_slots {word m : Matcher} {name : String}
    (h : (name, some m) ∈ (listTable word).slots) :
    (name = "item" ∧ m = .rule "item" (.alternation [.reference ⟨0, "list"⟩, word])) ∨
      (name = "list" ∧ m = .rule "list" (.sequence [.terminal (.literal "("),
        .repetition none (.reference ⟨0, "item"⟩), .terminal (.literal ")")])) := by
  simpa [listTable] using h

end Lists

end TokenGrammar
