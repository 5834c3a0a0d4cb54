import TokenGrammar.Grammar.Call
import TokenGrammar.Proofs.Tables

namespace TokenGrammar

namespace RuleTable

variable {t t' : RuleTable} {name : String} {m : Matcher}

theorem lookup_fill (name : String) (m : Matcher) (slots : List (String × Option Matcher))
    (n : String) : (fill name m slots).lookup n =
      if n = name ∧ name ∈ slots.map (·.1) then some (some m) else slots.lookup n := by
  induction slots with
  | nil => simp [fill]
  | cons slot slots ih =>
    obtain ⟨first, old⟩ := slot
    by_cases hn : n = first
    · subst hn
      by_cases hf : n = name <;> simp [fill, hf]
    · have hb : (n == first) = false := by simpa using hn
      by_cases hf : first = name
      · subst hf
        simp [fill, hn, List.lookup_cons, hb]
      · have hmem : name ∈ ((first, old) :: slots).map (·.1) ↔ name ∈ slots.map (·.1) := by
          simp [Ne.symm hf]
        simp only [fill, hf, ↓reduceIte, List.lookup_cons, hb, ih, hmem]

theorem find_mention (t : RuleTable) (name n : String) :
    (t.mention name).find? n = t.find? n := by
  unfold mention
  split
  · rfl
  · rename_i hno
    simp only [find?, List.lookup_append]
    cases hl : t.slots.lookup n with
    | some old => rfl
    | none => cases hb : n == name <;> simp [List.lookup_cons, hb]

theorem mem_names_mention (t : RuleTable) (name : String) : name ∈ (t.mention name).names := by
  unfold mention
  split
  · assumption
  · simp [names]

theorem ok_define_iff : (∃ t', t.define name m = .ok t') ↔ t.find? name = none := by
  unfold define
  cases t.find? name <;> simp

/-- A definition is the only thing that a successful `define` changes, and it stands in a
production. -/
theorem find_define (h : t.define name m = .ok t') (n : String) :
    t.find? name = none ∧ t'.find? n = if n = name then some (.rule name m) else t.find? n := by
  obtain ⟨hnone, hslots⟩ := slots_of_define h
  refine ⟨hnone, ?_⟩
  have hmem : name ∈ (t.mention name).slots.map (·.1) := mem_names_mention t name
  simp only [find?, hslots, lookup_fill, hmem, and_true]
  split
  · rfl
  · exact find_mention t name n

theorem check_ok (hall : t.undefined = []) (hstart : (t.find? name).isSome = true) :
    t.check name = .ok () := by
  rw [check, hall, List.mergeSort_nil]
  simp only [hstart, if_true]

end RuleTable

namespace Workspace

/-- What one call may do to the tables of a workspace. -/
inductive TableStep (w : Workspace) : List RuleTable → Prop where
  | same : TableStep w w.tables
  | opened : TableStep w (w.tables ++ [.empty])
  | mentioned (id : Nat) (rule : String) :
      TableStep w (w.tables.set id ((w.table id).mention rule))
  | defined {id : Nat} {rule : String} {m : Matcher} {t : RuleTable} :
      (w.table id).define rule m = .ok t → TableStep w (w.tables.set id t)

variable {w w' : Workspace}

/-- What is mentioned goes to the table of the open grammar. -/
theorem table_of_reference {name rule : String} {m : Matcher}
    (h : w.reference name rule = .ok (m, w')) :
    ∃ g, w.opened.lookup name = some g ∧ m = .reference ⟨g.table, rule⟩ ∧
      w' = w.setTable g.table ((w.table g.table).mention rule) := by
  unfold reference at h
  split at h
  · cases h
  · rename_i g hg
    cases h
    exact ⟨g, hg, rfl, rfl⟩

/-- So does a definition that is taken. -/
theorem table_of_define {name rule : String} {m : Matcher}
    (h : w.define name rule m = .ok (.ok w')) :
    ∃ g t, w.opened.lookup name = some g ∧ (w.table g.table).define rule m = .ok t ∧
      w' = w.setTable g.table t := by
  unfold define at h
  split at h
  · cases h
  · rename_i g hg
    cases ht : (w.table g.table).define rule m with
    | error e => simp [ht, Except.map] at h
    | ok t =>
      simp only [ht, Except.map, Except.ok.injEq] at h
      exact ⟨g, t, hg, ht, h.symm⟩

theorem reference_tables {name rule : String} {m : Matcher}
    (h : w.reference name rule = .ok (m, w')) :
    ∃ id, w'.tables = w.tables.set id ((w.table id).mention rule) := by
  obtain ⟨g, _, _, rfl⟩ := table_of_reference h
  exact ⟨g.table, rfl⟩

theorem reference_step {name rule : String} {m : Matcher}
    (h : w.reference name rule = .ok (m, w')) : TableStep w w'.tables := by
  obtain ⟨id, he⟩ := reference_tables h
  rw [he]
  exact .mentioned id rule

theorem define_step {name rule : String} {m : Matcher}
    (h : w.define name rule m = .ok (.ok w')) : TableStep w w'.tables := by
  obtain ⟨g, t, _, ht, rfl⟩ := table_of_define h
  exact .defined ht

theorem build_tables {name start : String}
    {result : Except GrammarError (List String × Event)}
    (h : w.build name start = .ok (result, w')) : w'.tables = w.tables := by
  unfold build at h
  split at h
  · cases h
  · dsimp only at h
    split at h <;> cases h <;> rfl

theorem ok_of_bind {ε α β : Type} {x : Except ε α} {f : α → Except ε β} {b : β}
    (h : (x >>= f) = .ok b) : ∃ a, x = .ok a ∧ f a = .ok b := by
  cases x with
  | error e => cases h
  | ok a => exact ⟨a, rfl, h⟩

/-- A matcher that is made may have a name mentioned, and that is all. -/
theorem make_tables {making : Making} {found : Option Matcher}
    (h : w.make making = .ok (found, w')) : w'.tables = w.tables ∨
      ∃ id rule, w'.tables = w.tables.set id ((w.table id).mention rule) := by
  cases making with
  | terminal | custom =>
    cases h
    exact .inl rfl
  | copy | sequence | alternation | optional | repetition | rule | ruleMatcher =>
    obtain ⟨_, _, he⟩ := ok_of_bind h
    cases he
    exact .inl rfl
  | reference grammar rule =>
    obtain ⟨⟨m, v⟩, hr, he⟩ := ok_of_bind h
    cases he
    obtain ⟨id, htables⟩ := reference_tables hr
    exact .inr ⟨id, rule, htables⟩
  | bounded grammar body =>
    obtain ⟨_, _, h⟩ := ok_of_bind h
    obtain ⟨_, _, he⟩ := ok_of_bind h
    cases he
    exact .inl rfl

theorem make_step {making : Making} {found : Option Matcher}
    (h : w.make making = .ok (found, w')) : TableStep w w'.tables := by
  rcases make_tables h with he | ⟨id, rule, he⟩
  · rw [he]
    exact .same
  · rw [he]
    exact .mentioned id rule

theorem perform_step (w : Workspace) (c : Call) : TableStep w (w.perform c).tables := by
  cases c with
  | new grammar settings => exact .opened
  | drop | forget => exact .same
  | make name making =>
    simp only [perform]
    split
    · exact .same
    · rename_i h
      exact make_step h
    · rename_i h
      have := make_step h
      exact this
  | define grammar rule body =>
    simp only [perform]
    split
    · rename_i h
      obtain ⟨m, _, hd⟩ := ok_of_bind h
      exact define_step hd
    · exact .same
    · exact .same
  | build grammar start =>
    simp only [perform]
    split
    · exact .same
    · rename_i h
      exact build_tables h ▸ .same

theorem performAll_cons (w : Workspace) (c : Call) (calls : List Call) :
    w.performAll (c :: calls) = (w.perform c).performAll calls := rfl

theorem performAll_append (w : Workspace) (calls more : List Call) :
    w.performAll (calls ++ more) = (w.performAll calls).performAll more := List.foldl_append

/-- Some list of calls turns one workspace into the other. -/
def Becomes (w w' : Workspace) : Prop := ∃ calls, w.performAll calls = w'

theorem Becomes.refl (w : Workspace) : w.Becomes w := ⟨[], rfl⟩

theorem Becomes.trans {w'' : Workspace} (h : w.Becomes w') (h' : w'.Becomes w'') :
    w.Becomes w'' := by
  obtain ⟨calls, rfl⟩ := h
  obtain ⟨calls', rfl⟩ := h'
  exact ⟨calls ++ calls', performAll_append w calls calls'⟩

/-- What every call keeps is kept for ever. -/
theorem Becomes.keeps {P : Workspace → Prop} (h : w.Becomes w')
    (step : ∀ w c, P w → P (w.perform c)) (hw : P w) : P w' := by
  obtain ⟨calls, rfl⟩ := h
  induction calls generalizing w with
  | nil => exact hw
  | cons c calls ih => exact ih (step w c hw)

theorem Wrapped.step {tables : List RuleTable} (h : w.Wrapped) (hs : TableStep w tables) :
    ∀ t ∈ tables, t.Wrapped := by
  cases hs with
  | same => exact h
  | opened =>
    intro t ht
    rcases List.mem_append.mp ht with hold | hnew
    · exact h t hold
    · rw [List.mem_singleton.mp hnew]
      exact RuleTable.wrapped_empty
  | mentioned id rule => exact h.setTable ((h.table id).mention rule) id
  | defined hd => exact h.setTable ((h.table _).define hd) _

theorem Becomes.wrapped (h : w.Becomes w') (hw : w.Wrapped) : w'.Wrapped :=
  h.keeps (fun w c hw => Wrapped.step hw (perform_step w c)) hw

theorem table_set (w : Workspace) (id id' : Nat) (t : RuleTable) :
    (w.setTable id t).table id' = if id' = id ∧ id < w.tables.length then t else w.table id' := by
  simp only [table, setTable, List.getElem?_set]
  by_cases hid : id = id'
  · subst hid
    by_cases hlt : id < w.tables.length <;> simp [hlt]
  · simp [hid, Ne.symm hid]

/-- A mention changes no definition. -/
theorem find_setTable_mention (w : Workspace) (owner id : Nat) (rule n : String) :
    ((w.setTable owner ((w.table owner).mention rule)).table id).find? n =
      (w.table id).find? n := by
  rw [table_set]
  split
  · rename_i hid
    rw [RuleTable.find_mention, hid.1]
  · rfl

/-- A new table is as empty as one that is not there. -/
theorem table_new (w : Workspace) (name : String) (settings : Settings) (id : Nat) :
    (w.new name settings).table id = w.table id := by
  by_cases hlt : id < w.tables.length
  · rw [table, new, List.getElem?_append_left hlt, table]
  · have hge : w.tables.length ≤ id := Nat.le_of_not_lt hlt
    rw [table, new, List.getElem?_append_right hge, table, List.getElem?_eq_none hge]
    cases id - w.tables.length <;> rfl

/-- No call takes a definition back or changes it. -/
theorem TableStep.find {tables : List RuleTable} (hs : TableStep w tables) {id : Nat}
    {rule : String} {m : Matcher} (h : (w.table id).find? rule = some m) :
    (tables[id]?.getD .empty).find? rule = some m := by
  have set {id' : Nat} {t : RuleTable} (ht : (w.table id').find? rule = some m →
      t.find? rule = some m) : ((w.setTable id' t).table id).find? rule = some m := by
    rw [table_set]
    split
    · rename_i hid
      exact ht (hid.1 ▸ h)
    · exact h
  cases hs with
  | same => exact h
  | opened => exact (congrArg (·.find? rule) (table_new w "" {} id)).trans h
  | mentioned id' name => exact set (fun h => (RuleTable.find_mention _ name rule).trans h)
  | @defined id' name body t hd =>
    refine set ?_
    intro hold
    obtain ⟨hnone, hfind⟩ := RuleTable.find_define hd rule
    rw [hfind, if_neg ?_, hold]
    rintro rfl
    cases hnone.symm.trans hold

/-- A definition stays what it is for ever. -/
theorem Becomes.find {id : Nat} {rule : String} {m : Matcher} (h : w.Becomes w')
    (hm : (w.table id).find? rule = some m) : (w'.table id).find? rule = some m :=
  h.keeps (P := fun w => (w.table id).find? rule = some m)
    (fun w c hm => (perform_step w c).find hm) hm

end Workspace

section Lists

/-- The calls that define the rules of lists in the open grammar "lists". -/
def listCalls : List Call := [
  .make "list" (.reference "lists" "list"), .make "item" (.reference "lists" "item"),
  .make "(" (.terminal (.literal "(")), .make ")" (.terminal (.literal ")")),
  .make "word" (.terminal (.structured "word" none)),
  .make "items" (.bounded "lists" "item"), .make "body" (.sequence ["(", "items", ")"]),
  .make "choice" (.alternation ["list", "word"]), .define "lists" "list" "body",
  .define "lists" "item" "choice"]

/-- The workspace after these calls on a new grammar, with that grammar compiled. -/
def listsCompiled : Workspace :=
  { (Workspace.empty.new "lists" {}).performAll listCalls with
    opened := []
    compiled := [("lists", ⟨0, "list", {}⟩)] }

theorem build_listCalls :
    ((Workspace.empty.new "lists" {}).performAll listCalls).build "lists" "list" =
      .ok (.ok ((listsCompiled.table 0).sortedNames, .grammarBuilt 2 "list"), listsCompiled) := by
  have hopen : ((Workspace.empty.new "lists" {}).performAll listCalls).opened.lookup "lists" =
      some ⟨0, {}⟩ := rfl
  have hcheck : (((Workspace.empty.new "lists" {}).performAll listCalls).table 0).check "list" =
      .ok () := RuleTable.check_ok rfl rfl
  simp only [Workspace.build, hopen, hcheck]
  rfl

theorem becomes_listsCompiled : Workspace.empty.Becomes listsCompiled := by
  refine ⟨.new "lists" {} :: (listCalls ++ [.build "lists" "list"]), ?_⟩
  have hcalls : Workspace.empty.performAll (.new "lists" {} ::
      (listCalls ++ [.build "lists" "list"])) =
      ((Workspace.empty.new "lists" {}).performAll listCalls).perform (.build "lists" "list") := rfl
  rw [hcalls, Workspace.perform, build_listCalls]

theorem listsCompiled_customs : listsCompiled.rules.All (fun m => m.customs = []) := by
  have hnone : (listsCompiled.tables.all fun t => t.slots.all fun slot =>
      slot.2.all fun m => m.customs.isEmpty) = true := rfl
  simp only [List.all_eq_true, Option.all_eq_true, List.isEmpty_iff] at hnone
  refine Workspace.rules_all ?_
  intro t ht name m hm
  exact hnone t ht _ hm m rfl

/-- A rule of another grammar, which is open still, is the only one to keep the rules of lists. -/
def listsEmbedded : Workspace :=
  listsCompiled.performAll [.make "lists" (.ruleMatcher "lists" "list"), .new "outer" {},
    .define "outer" "wrapped" "lists", .forget "lists", .drop "lists"]

theorem becomes_listsEmbedded : Workspace.empty.Becomes listsEmbedded :=
  becomes_listsCompiled.trans ⟨_, rfl⟩

end Lists

end TokenGrammar
