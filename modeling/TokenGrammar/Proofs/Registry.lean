import Mathlib.Data.String.Basic
import TokenGrammar.Proofs.Fuel
import TokenGrammar.Proofs.Lifecycle

namespace TokenGrammar

/-- What is called on an open grammar before it is compiled. -/
inductive Registration where
  | reference (rule : String)
  | define (rule : String) (m : Matcher)

namespace Registration

/-- The name that a call mentions. -/
def rule : Registration → String
  | .reference rule | .define rule _ => rule

/-- What a call is to define `name` as. -/
def definition? (name : String) : Registration → Option Matcher
  | .reference _ => none
  | .define rule m => if name = rule then some m else none

/-- The names that calls mention. -/
def Mentioned (regs : List Registration) (name : String) : Prop := ∃ r ∈ regs, r.rule = name

/-- What the first of these calls that is to define `name` is to define it as. -/
def first? (name : String) (regs : List Registration) : Option Matcher :=
  regs.findSome? (definition? name)

/-- A name that is referenced only. -/
def Dangling (regs : List Registration) (name : String) : Prop :=
  Mentioned regs name ∧ first? name regs = none

/-- What compiling gives after these calls: the least name that is referenced but never defined, a
start rule that is never defined, or the defined names in order. -/
inductive Verdict (regs : List Registration) (start : String) :
    Except GrammarError (List String) → Prop where
  | undefinedRule {name} : Dangling regs name → (∀ other, Dangling regs other → name ≤ other) →
      Verdict regs start (.error (.undefinedRule name))
  | noStartRule : (∀ name, ¬ Dangling regs name) → first? start regs = none →
      Verdict regs start (.error (.noStartRule start))
  | compiled {names} : (∀ name, ¬ Dangling regs name) → first? start regs ≠ none →
      names.Pairwise (· < ·) → (∀ name, name ∈ names ↔ first? name regs ≠ none) →
      Verdict regs start (.ok names)

variable {regs regs' : List Registration} {start name : String}

theorem mentioned_append {r : Registration} :
    Mentioned (regs ++ [r]) name ↔ Mentioned regs name ∨ r.rule = name := by
  simp [Mentioned, or_and_right, exists_or]

theorem first_append (r : Registration) :
    first? name (regs ++ [r]) = (first? name regs).or (r.definition? name) := by
  rw [first?, List.findSome?_append, List.findSome?_singleton]
  rfl

theorem mentioned_of_perm (h : regs.Perm regs') : Mentioned regs name ↔ Mentioned regs' name := by
  simp only [Mentioned, h.mem_iff]

theorem first_of_define (before after : List Registration) (m : Matcher) :
    first? name (before ++ .define name m :: after) = (first? name before).or (some m) := by
  simp [first?, definition?]

theorem exists_define_of_first {m : Matcher} (h : first? name regs = some m) :
    ∃ before after, regs = before ++ .define name m :: after ∧ first? name before = none := by
  obtain ⟨before, r, after, rfl, hr, hbefore⟩ := List.findSome?_eq_some_iff.mp h
  refine ⟨before, after, ?_, List.findSome?_eq_none_iff.mpr hbefore⟩
  cases r with
  | reference rule => cases hr
  | define rule m' =>
    simp only [definition?, Option.ite_none_right_eq_some, Option.some.injEq] at hr
    obtain ⟨rfl, rfl⟩ := hr
    rfl

theorem mentioned_of_first (h : first? name regs ≠ none) : Mentioned regs name := by
  obtain ⟨m, hm⟩ := Option.ne_none_iff_exists'.mp h
  obtain ⟨before, after, rfl, _⟩ := exists_define_of_first hm
  exact ⟨.define name m, by simp, rfl⟩

/-- Lists in strict order that have the same members are one list. -/
theorem eq_of_increasing {names names' : List String} (h : names.Pairwise (· < ·))
    (h' : names'.Pairwise (· < ·)) (hmem : ∀ name, name ∈ names ↔ name ∈ names') :
    names = names' := by
  have hperm : names.Perm names' := (List.perm_ext_iff_of_nodup
    (h.imp (fun hlt => ne_of_lt hlt)) (h'.imp (fun hlt => ne_of_lt hlt))).mpr hmem
  exact hperm.eq_of_pairwise (fun a b _ _ hab hba => absurd hba (lt_asymm hab)) h h'

/-- The calls leave compiling no choice. -/
theorem Verdict.unique {result result' : Except GrammarError (List String)}
    (h : Verdict regs start result) (h' : Verdict regs start result') : result = result' := by
  cases h with
  | undefinedRule hname hleast =>
    cases h' with
    | undefinedRule hname' hleast' =>
      rw [le_antisymm (hleast _ hname') (hleast' _ hname)]
    | noStartRule hnone => exact absurd hname (hnone _)
    | compiled hnone => exact absurd hname (hnone _)
  | noStartRule hnone hstart =>
    cases h' with
    | undefinedRule hname => exact absurd hname (hnone _)
    | noStartRule => rfl
    | compiled _ hstart' => exact absurd hstart hstart'
  | compiled hnone hstart hlt hmem =>
    cases h' with
    | undefinedRule hname => exact absurd hname (hnone _)
    | noStartRule _ hstart' => exact absurd hstart' hstart
    | compiled _ _ hlt' hmem' =>
      rw [eq_of_increasing hlt hlt' (fun name => (hmem name).trans (hmem' name).symm)]

end Registration

namespace RuleTable

open Registration

/-- The table after a call, which leaves it as it is where it fails. -/
def register (t : RuleTable) : Registration → RuleTable
  | .reference rule => t.mention rule
  | .define rule m => (t.define rule m).toOption.getD t

def registerAll (t : RuleTable) (regs : List Registration) : RuleTable := regs.foldl register t

/-- The table holds what these calls say: each name that they mention once, with its first
definition. -/
structure Records (t : RuleTable) (regs : List Registration) : Prop where
  nodup : t.names.Nodup
  mem_names name : name ∈ t.names ↔ Mentioned regs name
  find name : t.find? name = (first? name regs).map (.rule name)

variable {t t' : RuleTable} {regs : List Registration} {name : String}

theorem records_empty : Records .empty [] where
  nodup := .nil
  mem_names name := by simp [names, empty, Mentioned]
  find name := rfl

theorem names_mention (t : RuleTable) (name : String) :
    (t.mention name).names = if name ∈ t.names then t.names else t.names ++ [name] := by
  unfold mention
  split
  · rfl
  · simp [names]

theorem names_fill (name : String) (m : Matcher) (slots : List (String × Option Matcher)) :
    (fill name m slots).map (·.1) = slots.map (·.1) := by
  induction slots with
  | nil => rfl
  | cons slot slots ih =>
    obtain ⟨first, old⟩ := slot
    by_cases hf : first = name <;> simp [fill, hf, ih]

/-- Whatever is called, the name is in the table then, and no other is new. -/
theorem names_register (t : RuleTable) (r : Registration) :
    (t.register r).names = if r.rule ∈ t.names then t.names else t.names ++ [r.rule] := by
  cases r with
  | reference rule => exact names_mention t rule
  | define rule m =>
    simp only [register, define]
    split
    · rename_i hdefined
      obtain ⟨old, hold⟩ := Option.isSome_iff_exists.mp hdefined
      have hmem : rule ∈ t.names := name_mem_of_find hold
      simp [Except.toOption, Registration.rule, hmem]
    · have hfill : names ⟨fill rule (.rule rule m) (t.mention rule).slots⟩ =
          (t.mention rule).names := names_fill rule _ _
      exact hfill.trans (names_mention t rule)

/-- What one call adds to the records of a table. -/
theorem Records.register (h : Records t regs) (r : Registration) :
    Records (t.register r) (regs ++ [r]) where
  nodup := by
    rw [names_register]
    split
    · exact h.nodup
    · rename_i hnew
      exact List.nodup_append.mpr ⟨h.nodup, List.nodup_singleton _, by
        rintro a ha b hb rfl
        exact hnew (List.mem_singleton.mp hb ▸ ha)⟩
  mem_names name := by
    rw [names_register, mentioned_append, ← h.mem_names]
    split
    · rename_i hold
      constructor
      · exact .inl
      · rintro (hmem | rfl)
        · exact hmem
        · exact hold
    · simp [eq_comm]
  find name := by
    rw [first_append]
    cases r with
    | reference rule =>
      rw [RuleTable.register, find_mention, h.find, definition?, Option.or_none]
    | define rule m =>
      rw [RuleTable.register, find_attempt, h.find, definition?]
      cases first? name regs with
      | some old => rfl
      | none =>
        by_cases hname : name = rule
        · subst hname
          simp
        · simp [hname]

theorem Records.registerAll (h : Records t regs) (more : List Registration) :
    Records (t.registerAll more) (regs ++ more) := by
  induction more generalizing t regs with
  | nil => rwa [List.append_nil]
  | cons r more ih =>
    have := ih (h.register r)
    rwa [List.append_assoc] at this

/-- What stands in a table whose names are different is what is found in it. -/
theorem mem_slots_iff (h : t.names.Nodup) {old : Option Matcher} :
    (name, old) ∈ t.slots ↔ name ∈ t.names ∧ t.find? name = old := by
  have hfind {old : Option Matcher} (hmem : (name, old) ∈ t.slots) : t.find? name = old := by
    obtain ⟨before, after, he⟩ := List.append_of_mem hmem
    rw [names, he, List.map_append, List.map_cons] at h
    have hbefore : name ∉ before.map (·.1) :=
      fun hb => List.disjoint_of_nodup_append h hb List.mem_cons_self
    have hlookup : t.slots.lookup name = some old := by
      refine List.lookup_eq_some_iff.mpr ⟨before, after, he, ?_⟩
      intro slot hslot
      have hne : name ≠ slot.1 := fun heq => hbefore (heq ▸ List.mem_map_of_mem hslot)
      simpa using hne
    rw [find?, hlookup]
    rfl
  constructor
  · intro hmem
    exact ⟨List.mem_map_of_mem hmem, hfind hmem⟩
  · rintro ⟨hname, rfl⟩
    obtain ⟨⟨_, old⟩, hmem, rfl⟩ := List.mem_map.mp hname
    rwa [hfind hmem]

theorem Records.mem_slots (h : Records t regs) {old : Option Matcher} :
    (name, old) ∈ t.slots ↔
      Mentioned regs name ∧ (first? name regs).map (.rule name) = old := by
  rw [mem_slots_iff h.nodup, h.mem_names, h.find]

/-- Tables that hold the same in different orders are told apart by no call. -/
theorem Records.of_perm (h : Records t regs) (hp : t.slots.Perm t'.slots) : Records t' regs := by
  have hnames : t.names.Perm t'.names := hp.map _
  have hnodup := hnames.nodup_iff.mp h.nodup
  refine ⟨hnodup, fun name => hnames.mem_iff.symm.trans (h.mem_names name), ?_⟩
  intro name
  by_cases hname : name ∈ t.names
  · have hmem := (mem_slots_iff h.nodup).mpr ⟨hname, h.find name⟩
    exact ((mem_slots_iff hnodup).mp (hp.mem_iff.mp hmem)).2
  · have hnone : first? name regs = none := by
      by_contra hne
      exact hname ((h.mem_names name).mpr (mentioned_of_first hne))
    rw [hnone]
    cases hfind : t'.find? name with
    | none => rfl
    | some m => exact absurd (hnames.mem_iff.mpr (name_mem_of_find hfind)) hname

/-- The names mentioned and their first definitions make up a table, but for its order. -/
theorem Records.perm (h : Records t regs) {regs' : List Registration} (h' : Records t' regs')
    (hnames : ∀ name, Mentioned regs name ↔ Mentioned regs' name)
    (hfirst : ∀ name, first? name regs = first? name regs') : t.slots.Perm t'.slots := by
  refine (List.perm_ext_iff_of_nodup (.of_map _ h.nodup) (.of_map _ h'.nodup)).mpr ?_
  rintro ⟨name, old⟩
  rw [h.mem_slots, h'.mem_slots, hnames, hfirst]

theorem Records.mem_undefined (h : Records t regs) :
    name ∈ t.undefined ↔ Dangling regs name := by
  have hslot : name ∈ t.undefined ↔ (name, none) ∈ t.slots := by simp [undefined]
  rw [hslot, h.mem_slots, Option.map_eq_none_iff]
  rfl

theorem pairwise_sort (names : List String) :
    (names.mergeSort (fun a b => !(b < a))).Pairwise (· ≤ ·) := by
  have hle (a b : String) : (!decide (b < a)) = true ↔ a ≤ b := by
    rw [Bool.not_eq_true', decide_eq_false_iff_not, not_lt]
  refine (List.pairwise_mergeSort ?_ ?_ names).imp (fun h => (hle _ _).mp h)
  · intro a b c hab hbc
    exact (hle a c).mpr (((hle a b).mp hab).trans ((hle b c).mp hbc))
  · intro a b
    rw [Bool.or_eq_true, hle, hle]
    exact le_total a b

/-- The order in which names are sorted leaves nothing of the order that they came in. -/
theorem sort_eq_of_perm {names names' : List String} (hp : names.Perm names') :
    names.mergeSort (fun a b => !(b < a)) = names'.mergeSort (fun a b => !(b < a)) :=
  ((List.mergeSort_perm _ _).trans (hp.trans (List.mergeSort_perm _ _).symm)).eq_of_pairwise
    (fun _ _ _ _ hab hba => le_antisymm hab hba) (pairwise_sort _) (pairwise_sort _)

theorem Records.increasing (h : Records t regs) : t.sortedNames.Pairwise (· < ·) := by
  have hperm := List.mergeSort_perm t.names (fun a b => !(b < a))
  exact (pairwise_sort t.names).imp₂ (fun _ _ hle hne => lt_of_le_of_ne hle hne)
    (hperm.nodup_iff.mpr h.nodup)

/-- What the check of a table finds is the verdict on the calls that filled it. -/
theorem Records.verdict (h : Records t regs) (start : String) :
    Verdict regs start ((t.check start).map fun _ => t.sortedNames) := by
  have hperm := List.mergeSort_perm t.undefined (fun a b => !(b < a))
  have hmem (name : String) : name ∈ t.undefined.mergeSort (fun a b => !(b < a)) ↔
      Dangling regs name := hperm.mem_iff.trans h.mem_undefined
  have hsorted := pairwise_sort t.undefined
  unfold check
  split
  · rename_i name rest he
    rw [he] at hmem hsorted
    refine .undefinedRule ((hmem name).mp List.mem_cons_self) ?_
    intro other hother
    rcases List.mem_cons.mp ((hmem other).mpr hother) with rfl | hrest
    · exact le_rfl
    · exact List.rel_of_pairwise_cons hsorted hrest
  · rename_i he
    rw [he] at hmem
    have hnone (name : String) : ¬ Dangling regs name := fun hd => nomatch (hmem name).mpr hd
    have hstart := h.find start
    split
    · rename_i hsome
      refine .compiled hnone ?_ h.increasing ?_
      · rintro hfirst
        rw [hstart, hfirst] at hsome
        cases hsome
      · intro name
        have hname : name ∈ t.sortedNames ↔ Mentioned regs name :=
          (List.mergeSort_perm _ _).mem_iff.trans (h.mem_names name)
        rw [hname]
        constructor
        · intro hmentioned hfirst
          exact hnone name ⟨hmentioned, hfirst⟩
        · exact mentioned_of_first
    · rename_i hsome
      rw [hstart, Option.isSome_map, Option.not_isSome_iff_eq_none] at hsome
      exact .noStartRule hnone hsome

/-- The tables hold the same definitions, in whatever order. -/
structure Rearranged (t t' : RuleTable) : Prop where
  perm : t.slots.Perm t'.slots
  find name : t.find? name = t'.find? name

theorem Records.rearranged (h : Records t regs) {regs' : List Registration}
    (h' : Records t' regs') (hnames : ∀ name, Mentioned regs name ↔ Mentioned regs' name)
    (hfirst : ∀ name, first? name regs = first? name regs') : t.Rearranged t' where
  perm := h.perm h' hnames hfirst
  find name := by rw [h.find, h'.find, hfirst]

theorem Rearranged.sortedNames_eq (h : t.Rearranged t') : t.sortedNames = t'.sortedNames :=
  sort_eq_of_perm (h.perm.map _)

theorem Rearranged.check_eq (h : t.Rearranged t') (start : String) :
    t.check start = t'.check start := by
  have hundefined : t.undefined.Perm t'.undefined := (h.perm.filter _).map _
  rw [check, check, sort_eq_of_perm hundefined, h.find]

theorem Rearranged.mem_owned (h : t.Rearranged t') (id : Nat) : id ∈ t.owned ↔ id ∈ t'.owned := by
  simp only [RuleTable.mem_owned, h.perm.mem_iff]

end RuleTable

namespace Workspace

open Registration

/-- The workspace after a call on an open grammar, which leaves it as it is where it fails. -/
def register (grammar : String) (w : Workspace) : Registration → Workspace
  | .reference rule =>
    match w.reference grammar rule with
    | .ok (_, w) => w
    | .error _ => w
  | .define rule m =>
    match w.define grammar rule m with
    | .ok (.ok w) => w
    | .ok (.error _) | .error _ => w

def registerAll (w : Workspace) (grammar : String) (regs : List Registration) : Workspace :=
  regs.foldl (register grammar) w

/-- The workspace with a new grammar, after these calls on it. -/
def newWith (w : Workspace) (grammar : String) (settings : Settings) (regs : List Registration) :
    Workspace := (w.new grammar settings).registerAll grammar regs

variable {w : Workspace} {grammar : String} {g : OpenGrammar}

theorem setTable_self (w : Workspace) (id : Nat) : w.setTable id (w.table id) = w := by
  have htables : w.tables.set id (w.table id) = w.tables := by
    apply List.ext_getElem?
    intro i
    rw [List.getElem?_set]
    split
    · rename_i hid
      subst hid
      split
      · rename_i hlt
        rw [table, List.getElem?_eq_getElem hlt]
        rfl
      · rename_i hge
        exact (List.getElem?_eq_none (Nat.le_of_not_lt hge)).symm
    · rfl
  rw [setTable, htables]

theorem setTable_setTable (w : Workspace) (id : Nat) (t t' : RuleTable) :
    (w.setTable id t).setTable id t' = w.setTable id t' := by
  simp only [setTable, List.set_set]

/-- A call only concerns the table of its grammar. -/
theorem register_of_open (hg : w.opened.lookup grammar = some g) (r : Registration) :
    w.register grammar r = w.setTable g.table ((w.table g.table).register r) := by
  cases r with
  | reference rule => simp only [register, reference, hg, RuleTable.register]
  | define rule m =>
    simp only [register, define, hg, RuleTable.register]
    cases (w.table g.table).define rule m with
    | ok t => rfl
    | error e => exact (w.setTable_self g.table).symm

theorem registerAll_of_open (hg : w.opened.lookup grammar = some g)
    (hlt : g.table < w.tables.length) (regs : List Registration) :
    w.registerAll grammar regs = w.setTable g.table ((w.table g.table).registerAll regs) := by
  induction regs generalizing w with
  | nil => exact (w.setTable_self g.table).symm
  | cons r regs ih =>
    have hrest := @ih (w.setTable g.table ((w.table g.table).register r)) hg (by
      simpa [setTable] using hlt)
    rw [table_set, if_pos ⟨rfl, hlt⟩, setTable_setTable, ← register_of_open hg] at hrest
    exact hrest

theorem define_duplicate_iff {rule : String} {m : Matcher} (hg : w.opened.lookup grammar = some g) :
    w.define grammar rule m = .ok (.error (.duplicateRule rule)) ↔
      (w.table g.table).find? rule ≠ none := by
  simp only [define, hg, Except.ok.injEq, RuleTable.define]
  cases (w.table g.table).find? rule <;> simp [Except.map]

/-- Compiled grammar `name` cannot be told apart in the workspaces, nor can any matcher. -/
structure Indistinguishable (w w' : Workspace) (name : String) : Prop where
  ruleNames : w.ruleNames name = w'.ruleNames name
  ruleMatcher rule : w.ruleMatcher name rule = w'.ruleMatcher name rule
  matchStart ts : w.matchStart name ts = w'.matchStart name ts
  parse ts : w.parse name ts = w'.parse name ts
  run m ts : w.run m ts = w'.run m ts

section Rearranged

variable {id : Nat} {t : RuleTable} (h : (w.table id).Rearranged t)

include h

theorem table_rearranged (i : Nat) : (w.table i).Rearranged ((w.setTable id t).table i) := by
  rw [table_set]
  split
  · rename_i hi
    rw [hi.1]
    exact h
  · exact ⟨.refl _, fun _ => rfl⟩

theorem rules_rearranged : (w.setTable id t).rules = w.rules := by
  have howners : w.SameOwners (w.setTable id t) :=
    fun x owner => (table_rearranged h owner).mem_owned x
  have halive : w.alive = (w.setTable id t).alive :=
    howners.alive_eq (by simp [setTable]) (fun _ => Iff.rfl)
  funext slot
  rw [rules, rules, ← halive, rulesIn, rulesIn, (table_rearranged h _).find]

theorem run_rearranged (m : Matcher) (ts : List Token) :
    w.run m ts = (w.setTable id t).run m ts :=
  run_eq_of_fuel (fun fuel => by rw [rules_rearranged h])

/-- The order in which a table holds its names shows nowhere. -/
theorem indistinguishable_rearranged (name : String) :
    w.Indistinguishable (w.setTable id t) name := by
  have hrun (m : Matcher) (ts : List Token) := run_rearranged h m ts
  have hcompiled : (w.setTable id t).compiled = w.compiled := rfl
  constructor
  case ruleNames => simp only [ruleNames, hcompiled, (table_rearranged h _).sortedNames_eq]
  case ruleMatcher => simp only [ruleMatcher, hcompiled, (table_rearranged h _).find, implies_true]
  case matchStart => simp only [matchStart, hcompiled, hrun, implies_true]
  case parse => simp only [parse, hcompiled, hrun, implies_true]
  case run => exact hrun

/-- Compiling only asks what the order of a table has no say in. -/
theorem build_rearranged {name : String} {g : OpenGrammar} (hg : w.opened.lookup name = some g)
    (hid : g.table = id) (start : String) : (w.setTable id t).build name start =
      (w.build name start).map fun (result, v) => (result, v.setTable id t) := by
  subst hid
  have hg' : (w.setTable g.table t).opened.lookup name = some g := hg
  have htable := table_rearranged h g.table
  simp only [build, hg, hg', ← htable.check_eq, ← htable.sortedNames_eq, ← htable.perm.length_eq]
  cases (w.table g.table).check start <;> rfl

end Rearranged

section Fresh

variable (w grammar) (settings : Settings) (regs : List Registration)

theorem newWith_eq : w.newWith grammar settings regs = (w.new grammar settings).setTable
    w.tables.length (RuleTable.empty.registerAll regs) := by
  have hopened : (w.new grammar settings).opened.lookup grammar =
      some ⟨w.tables.length, settings⟩ := by simp [new, Named.put]
  have hempty : (w.new grammar settings).table w.tables.length = .empty := by
    rw [table_new, table, List.getElem?_eq_none (Nat.le_refl _)]
    rfl
  rw [newWith, registerAll_of_open hopened (by simp [new]), hempty]

theorem opened_newWith : (w.newWith grammar settings regs).opened.lookup grammar =
    some ⟨w.tables.length, settings⟩ := by
  simp [newWith_eq, setTable, new, Named.put]

/-- The table of a new grammar records the calls on it. -/
theorem records_newWith :
    ((w.newWith grammar settings regs).table w.tables.length).Records regs := by
  rw [newWith_eq, table_set, if_pos ⟨rfl, by simp [new]⟩]
  exact RuleTable.records_empty.registerAll regs

theorem rules_newWith (rule : String) :
    (w.newWith grammar settings regs).rules ⟨w.tables.length, rule⟩ =
      (first? rule regs).map (.rule rule) := by
  have hroot := mem_roots.mpr
    (.inl ⟨_, Named.mem_of_lookup (opened_newWith w grammar settings regs), rfl⟩)
  rw [rules_of_root hroot rfl]
  exact (records_newWith w grammar settings regs).find rule

theorem define_newWith_iff (rule : String) (m : Matcher) :
    (∃ v, (w.newWith grammar settings regs).define grammar rule m = .ok (.ok v)) ↔
      first? rule regs = none := by
  rw [define_ok_iff (opened_newWith w grammar settings regs),
    (records_newWith w grammar settings regs).find, Option.map_eq_none_iff]

theorem duplicate_newWith_iff (rule : String) (m : Matcher) :
    (w.newWith grammar settings regs).define grammar rule m =
      .ok (.error (.duplicateRule rule)) ↔ first? rule regs ≠ none := by
  rw [define_duplicate_iff (opened_newWith w grammar settings regs),
    (records_newWith w grammar settings regs).find, Ne, Option.map_eq_none_iff]

/-- Compiling a new grammar gives the verdict on the calls on it; where it succeeds the compiled
grammar has the rules that they define first. -/
theorem build_newWith (start : String) :
    ∃ result v, (w.newWith grammar settings regs).build grammar start = .ok (result, v) ∧
      Verdict regs start (result.map Prod.fst) ∧
      ∀ names event, result = .ok (names, event) → v.ruleNames grammar = .ok names ∧
        ∀ rule, v.rules ⟨w.tables.length, rule⟩ = (first? rule regs).map (.rule rule) := by
  have hopened := opened_newWith w grammar settings regs
  have hrecords := records_newWith w grammar settings regs
  have hverdict := hrecords.verdict start
  generalize hv : w.newWith grammar settings regs = v at hopened hrecords hverdict ⊢
  cases hcheck : (v.table w.tables.length).check start with
  | error e =>
    rw [hcheck] at hverdict
    refine ⟨.error e, { v with opened := v.opened.erase grammar }, ?_, hverdict, nofun⟩
    simp only [build, hopened, hcheck]
  | ok =>
    rw [hcheck] at hverdict
    refine ⟨.ok ((v.table w.tables.length).sortedNames,
      .grammarBuilt (v.table w.tables.length).slots.length start),
      { v with
        opened := v.opened.erase grammar
        compiled := v.compiled.put grammar ⟨w.tables.length, start, settings⟩ },
      by simp only [build, hopened, hcheck], hverdict, ?_⟩
    rintro names event ⟨⟩
    have hcompiled : (v.compiled.put grammar ⟨w.tables.length, start, settings⟩).lookup grammar =
        some ⟨w.tables.length, start, settings⟩ := by simp [Named.put]
    refine ⟨by simp only [ruleNames, hcompiled]; rfl, ?_⟩
    intro rule
    rw [rules_of_root (root_of_compiled hcompiled) rfl]
    exact hrecords.find rule

end Fresh

/-- Whatever is called on a new grammar, and whichever of these calls fail:

* a definition is refused, as a duplicate, exactly if an earlier one of that name succeeded, and
  what succeeded stays in force;
* what compiling gives is the verdict on the calls, and a compiled grammar has the names that it
  reports and what they are defined as first;
* other calls that mention the same names and define them alike at first, those in another order
  among them, give the same, and so does any order in which the table holds its names: the compiled
  grammars cannot be told apart. -/
theorem registry_exact (w : Workspace) (grammar : String) (settings : Settings) :
    (∀ regs rule m,
      ((∃ v, (w.newWith grammar settings regs).define grammar rule m = .ok (.ok v)) ∨
        (w.newWith grammar settings regs).define grammar rule m =
          .ok (.error (.duplicateRule rule))) ∧
      ((w.newWith grammar settings regs).define grammar rule m =
          .ok (.error (.duplicateRule rule)) ↔
        ∃ before first after, regs = before ++ .define rule first :: after ∧
          ∃ v, (w.newWith grammar settings before).define grammar rule first = .ok (.ok v))) ∧
    (∀ before rule first after v,
      (w.newWith grammar settings before).define grammar rule first = .ok (.ok v) →
      (w.newWith grammar settings (before ++ .define rule first :: after)).rules
        ⟨w.tables.length, rule⟩ = some (.rule rule first)) ∧
    (∀ regs start, ∃ result v,
      (w.newWith grammar settings regs).build grammar start = .ok (result, v) ∧
      (∀ outcome, Verdict regs start outcome ↔ outcome = result.map Prod.fst) ∧
      ∀ names event, result = .ok (names, event) → v.ruleNames grammar = .ok names ∧
        ∀ rule, v.rules ⟨w.tables.length, rule⟩ = (first? rule regs).map (.rule rule)) ∧
    ∀ regs regs' t start, (∀ name, Mentioned regs name ↔ Mentioned regs' name) →
      (∀ name, first? name regs = first? name regs') →
      t.slots.Perm ((w.newWith grammar settings regs').table w.tables.length).slots →
      ∃ result v v', (w.newWith grammar settings regs).build grammar start = .ok (result, v) ∧
        ((w.newWith grammar settings regs').setTable w.tables.length t).build grammar start =
          .ok (result, v') ∧ v.Indistinguishable v' grammar := by
  refine ⟨?_, ?_, ?_, ?_⟩
  · intro regs rule m
    rw [define_newWith_iff, duplicate_newWith_iff]
    refine ⟨em _, ?_⟩
    constructor
    · intro hdefined
      obtain ⟨first, hfirst⟩ := Option.ne_none_iff_exists'.mp hdefined
      obtain ⟨before, after, he, hbefore⟩ := exists_define_of_first hfirst
      exact ⟨before, first, after, he, (define_newWith_iff ..).mpr hbefore⟩
    · rintro ⟨before, first, after, rfl, _⟩
      rw [first_of_define]
      cases first? rule before <;> simp
  · intro before rule first after v h
    have hbefore := (define_newWith_iff w grammar settings before rule first).mp ⟨v, h⟩
    rw [rules_newWith, first_of_define, hbefore]
    rfl
  · intro regs start
    obtain ⟨result, v, hbuild, hverdict, hcompiled⟩ := build_newWith w grammar settings regs start
    refine ⟨result, v, hbuild, fun outcome => ⟨fun h => h.unique hverdict, ?_⟩, hcompiled⟩
    rintro rfl
    exact hverdict
  · intro regs regs' t start hnames hfirst hperm
    have hopened := opened_newWith w grammar settings regs
    obtain ⟨result, v, hbuild, _⟩ := build_newWith w grammar settings regs start
    have hrecords := records_newWith w grammar settings regs
    have hrearranged := hrecords.rearranged
      ((records_newWith w grammar settings regs').of_perm hperm.symm) hnames hfirst
    have htables : (w.newWith grammar settings regs').setTable w.tables.length t =
        (w.newWith grammar settings regs).setTable w.tables.length t := by
      simp only [newWith_eq, setTable_setTable]
    refine ⟨result, v, v.setTable w.tables.length t, hbuild, ?_, ?_⟩
    · rw [htables, build_rearranged hrearranged hopened rfl, hbuild]
      rfl
    · apply indistinguishable_rearranged
      rwa [table_congr (build_tables hbuild)]

end Workspace

section Lists

open Registration

def listBody : Matcher :=
  .sequence [.terminal (.literal "("), .repetition none (.reference ⟨0, "item"⟩),
    .terminal (.literal ")")]

/-- What defines the rules of lists, with a second attempt at "list". -/
def listDefinitions : List Registration := [
  .define "list" listBody,
  .define "item" (.alternation [.reference ⟨0, "list"⟩, .terminal (.structured "word" none)]),
  .define "list" (.sequence [])]

theorem listDefinitions_verdict :
    Verdict (.reference "item" :: listDefinitions) "list" (.ok ["item", "list"]) := by
  have hfirst (name : String) : name ∈ ["item", "list"] ↔
      first? name (.reference "item" :: listDefinitions) ≠ none := by
    simp only [first?, listDefinitions, List.findSome?_cons, definition?]
    by_cases hlist : name = "list" <;> by_cases hitem : name = "item" <;> simp [hlist, hitem]
  refine .compiled ?_ (by decide) (by decide) hfirst
  rintro name ⟨hmentioned, hnone⟩
  refine (hfirst name).mp ?_ hnone
  obtain ⟨r, hr, rfl⟩ := hmentioned
  have hrules : (Registration.reference "item" :: listDefinitions).all
      (fun r => r.rule ∈ ["item", "list"]) = true := rfl
  simpa using List.all_eq_true.mp hrules r hr

/-- The second attempt fails and leaves the first definition in force. "item" may be mentioned
later, and the table may hold its names the other way round. -/
theorem registry_exact_on_lists :
    (Workspace.empty.newWith "lists" {} listDefinitions).define "lists" "list" (.sequence []) =
      .ok (.error (.duplicateRule "list")) ∧
    (Workspace.empty.newWith "lists" {} listDefinitions).rules ⟨0, "list"⟩ =
      some (.rule "list" listBody) ∧
    ∃ event v v',
      (Workspace.empty.newWith "lists" {} (.reference "item" :: listDefinitions)).build
        "lists" "list" = .ok (.ok (["item", "list"], event), v) ∧
      v.ruleNames "lists" = .ok ["item", "list"] ∧
      ((Workspace.empty.newWith "lists" {} (listDefinitions ++ [.reference "item"])).setTable 0
        (listTable (.terminal (.structured "word" none)))).build "lists" "list" =
          .ok (.ok (["item", "list"], event), v') ∧
      v.Indistinguishable v' "lists" := by
  obtain ⟨hdefine, hforce, hbuild, horder⟩ := Workspace.registry_exact .empty "lists" {}
  refine ⟨(hdefine _ _ _).2.mpr ⟨[], _, _, rfl, _, rfl⟩, hforce [] _ listBody _ _ rfl, ?_⟩
  have hmentioned (name : String) : Mentioned (.reference "item" :: listDefinitions) name ↔
      Mentioned (listDefinitions ++ [.reference "item"]) name :=
    mentioned_of_perm (List.perm_append_singleton _ _).symm
  have hfirst (name : String) : first? name (.reference "item" :: listDefinitions) =
      first? name (listDefinitions ++ [.reference "item"]) :=
    ((first_append (.reference "item")).trans Option.or_none).symm
  have hperm : (listTable (.terminal (.structured "word" none))).slots.Perm
      ((Workspace.empty.newWith "lists" {}
        (listDefinitions ++ [.reference "item"])).table 0).slots := .swap _ _ _
  obtain ⟨result, v, v', h, h', hsame⟩ := horder _ _ _ "list" hmentioned hfirst hperm
  obtain ⟨_, _, hv, hverdict, hnames⟩ := hbuild (.reference "item" :: listDefinitions) "list"
  obtain ⟨rfl, rfl⟩ := Prod.mk.inj (Except.ok.inj (h.symm.trans hv))
  have houtcome := (hverdict _).mp listDefinitions_verdict
  cases result with
  | error e => cases houtcome
  | ok report =>
    obtain ⟨names, event⟩ := report
    obtain rfl : ["item", "list"] = names := Except.ok.inj houtcome
    exact ⟨event, v, v', h, (hnames _ _ rfl).1, h', hsame⟩

end Lists

end TokenGrammar
