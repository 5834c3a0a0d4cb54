import TokenGrammar.Proofs.Fuel
import TokenGrammar.Proofs.Sealing

namespace TokenGrammar

open Workspace

/-- What a call is to define a slot as. It goes to the open grammar that it names, and says so
whether or not that grammar takes it. -/
def Call.definition? (w : Workspace) (slot : Slot) : Call → Option Matcher
  | .define grammar rule body =>
    match w.opened.lookup grammar with
    | none => none
    | some g => if slot = ⟨g.table, rule⟩ then w.matchers.lookup body else none
  | _ => none

/-- What the first of these calls that is to define a slot is to define it as. -/
def Workspace.firstDefinition (slot : Slot) (w : Workspace) : List Call → Option Matcher
  | [] => none
  | c :: calls => (c.definition? w slot).or ((w.perform c).firstDefinition slot calls)

/-- What has become of a slot. -/
inductive Standing where
  | undefined
  | bound (body : Matcher)
  | dead

namespace Standing

/-- How a reference to a slot of this standing matches. -/
def recognizer (w : Workspace) (rule : String) : Standing → Recognizer
  | undefined | dead => fun _ => return none
  | bound body => w.run (.rule rule body)

/-- What a standing may turn into. -/
inductive Before : Standing → Standing → Prop where
  | same s : Before s s
  | defined body : Before undefined (bound body)
  | died s : Before s dead

end Standing

/-- What has become of a slot after some calls on an empty workspace. -/
inductive Stands (calls : List Call) (slot : Slot) : Standing → Prop where
  | undefined : (empty.performAll calls).isAlive slot.table = true →
      empty.firstDefinition slot calls = none → Stands calls slot .undefined
  | bound {body} : (empty.performAll calls).isAlive slot.table = true →
      empty.firstDefinition slot calls = some body → Stands calls slot (.bound body)
  | dead : (empty.performAll calls).isAlive slot.table = false → Stands calls slot .dead

namespace RuleTable

/-- What a name is defined as after an attempt to define one, which counts if there is no
definition of that name yet. -/
theorem find_attempt (t : RuleTable) (name n : String) (m : Matcher) :
    ((t.define name m).toOption.getD t).find? n =
      (t.find? n).or (if n = name then some (.rule name m) else none) := by
  cases ht : t.define name m with
  | ok t' =>
    obtain ⟨hnone, hfind⟩ := find_define ht n
    by_cases hn : n = name
    · subst hn
      simpa [hnone, Except.toOption] using hfind
    · simpa [hn, Except.toOption] using hfind
  | error e =>
    have hold : t.find? name ≠ none := by
      intro hnone
      obtain ⟨t', hok⟩ := ok_define_iff.mpr hnone
      cases ht.symm.trans hok
    by_cases hn : n = name
    · subst hn
      obtain ⟨old, hold⟩ := Option.ne_none_iff_exists'.mp hold
      simp [hold, Except.toOption]
    · simp [hn, Except.toOption]

end RuleTable

namespace Workspace

variable {w w' : Workspace}

theorem make_find {making : Making} {found : Option Matcher}
    (h : w.make making = .ok (found, w')) (id : Nat) (rule : String) :
    (w'.table id).find? rule = (w.table id).find? rule := by
  rcases make_tables h with he | ⟨id', rule', he⟩
  · rw [table, he, table]
  · have hset : w'.table id = (w.setTable id' ((w.table id').mention rule')).table id :=
      congrArg (fun tables : List RuleTable => tables[id]?.getD .empty) he
    rw [hset, find_setTable_mention]

/-- An open grammar takes a definition exactly if it has none of that name. -/
theorem define_ok_iff {grammar rule : String} {m : Matcher} {g : OpenGrammar}
    (hg : w.opened.lookup grammar = some g) : (∃ w', w.define grammar rule m = .ok (.ok w')) ↔
      (w.table g.table).find? rule = none := by
  rw [← RuleTable.ok_define_iff (m := m)]
  simp only [define, hg, Except.ok.injEq]
  cases (w.table g.table).define rule m <;> simp [Except.map]

theorem perform_define_of_none {grammar rule body : String}
    (h : w.opened.lookup grammar = none ∨ w.matchers.lookup body = none) :
    w.perform (.define grammar rule body) = w := by
  have herror : ∃ e, (w.kept body >>= w.define grammar rule) = .error e := by
    cases hm : w.matchers.lookup body with
    | none => exact ⟨.noMatcher body, by simp only [kept, hm, bind, Except.bind]⟩
    | some m =>
      have hg : w.opened.lookup grammar = none := h.resolve_right (by simp [hm])
      exact ⟨.noGrammar, by simp only [kept, hm, define, hg, bind, Except.bind]⟩
  obtain ⟨e, he⟩ := herror
  simp only [perform, he]

/-- A call to define a rule changes at most the table of the grammar that it goes to. -/
theorem table_perform_define {grammar rule body : String} {m : Matcher} {g : OpenGrammar}
    (hg : w.opened.lookup grammar = some g) (hm : w.matchers.lookup body = some m)
    (hlt : g.table < w.tables.length) (id : Nat) :
    (w.perform (.define grammar rule body)).table id =
      if id = g.table then ((w.table id).define rule m).toOption.getD (w.table id)
      else w.table id := by
  simp only [perform, kept, hm, define, hg, bind, Except.bind]
  cases ht : (w.table g.table).define rule m with
  | ok t =>
    simp only [Except.map, table_set, hlt, and_true]
    by_cases hid : id = g.table
    · simp [hid, ht, Except.toOption]
    · simp [hid]
  | error e =>
    simp only [Except.map]
    by_cases hid : id = g.table
    · simp [hid, ht, Except.toOption]
    · simp [hid]

theorem define_find {grammar rule body : String} (hw : w.Orderly) (slot : Slot) :
    ((w.perform (.define grammar rule body)).table slot.table).find? slot.name =
      ((w.table slot.table).find? slot.name).or
        (((Call.define grammar rule body).definition? w slot).map (.rule slot.name)) := by
  cases hg : w.opened.lookup grammar with
  | none => simp [perform_define_of_none (.inl hg), Call.definition?, hg]
  | some g =>
    cases hm : w.matchers.lookup body with
    | none => simp [perform_define_of_none (.inr hm), Call.definition?, hg, hm]
    | some m =>
      have hlt := hw.opened_known _ (Named.mem_of_lookup hg)
      obtain ⟨id, name⟩ := slot
      rw [table_perform_define hg hm hlt]
      by_cases hid : id = g.table
      · subst hid
        rw [if_pos rfl, RuleTable.find_attempt]
        by_cases hname : name = rule <;> simp [Call.definition?, hg, hm, hname]
      · simp [Call.definition?, hg, hid]

/-- After a call the definition of a slot is the one that it had or, if it had none, the one that
the call gives it. -/
theorem perform_find (hw : w.Orderly) (slot : Slot) (c : Call) :
    ((w.perform c).table slot.table).find? slot.name =
      ((w.table slot.table).find? slot.name).or ((c.definition? w slot).map (.rule slot.name)) := by
  cases c with
  | define grammar rule body => exact define_find hw slot
  | new grammar settings =>
    refine Eq.trans ?_ (Option.or_none).symm
    exact congrArg (·.find? slot.name) (table_new w grammar settings slot.table)
  | drop grammar => exact (Option.or_none).symm
  | forget name => exact (Option.or_none).symm
  | make name making =>
    refine Eq.trans ?_ (Option.or_none).symm
    simp only [perform]
    split
    · rfl
    · rename_i h
      exact make_find h slot.table slot.name
    · rename_i h
      exact make_find h slot.table slot.name
  | build grammar start =>
    refine Eq.trans ?_ (Option.or_none).symm
    simp only [perform]
    split
    · rfl
    · rename_i h
      simp only [table, build_tables h]

/-- The first call to define a slot settles what the slot is for ever. -/
theorem performAll_find (hw : w.Orderly) (slot : Slot) (calls : List Call) :
    ((w.performAll calls).table slot.table).find? slot.name =
      ((w.table slot.table).find? slot.name).or
        ((w.firstDefinition slot calls).map (.rule slot.name)) := by
  induction calls generalizing w with
  | nil => exact (Option.or_none).symm
  | cons c calls ih =>
    have hstep := ih ((perform_shift hw c).orderly hw)
    rw [perform_find hw slot c, Option.or_assoc, ← Option.map_or] at hstep
    exact hstep

theorem becomes_performAll (w : Workspace) (calls : List Call) : w.Becomes (w.performAll calls) :=
  ⟨calls, rfl⟩

theorem firstDefinition_append (w : Workspace) (slot : Slot) (calls more : List Call) :
    w.firstDefinition slot (calls ++ more) =
      (w.firstDefinition slot calls).or ((w.performAll calls).firstDefinition slot more) := by
  induction calls generalizing w with
  | nil => rfl
  | cons c calls ih =>
    simp only [List.cons_append, firstDefinition, ih, Option.or_assoc]
    rfl

theorem find_of_calls (calls : List Call) (slot : Slot) :
    ((empty.performAll calls).table slot.table).find? slot.name =
      (empty.firstDefinition slot calls).map (.rule slot.name) :=
  performAll_find orderly_empty slot calls

/-- Giving out a reference leaves the grammar open. -/
theorem opened_make_reference {name grammar rule : String} {g : OpenGrammar}
    (hg : w.opened.lookup grammar = some g) :
    (w.perform (.make name (.reference grammar rule))).opened.lookup grammar = some g := by
  simp only [perform, make, reference, hg, bind, Except.bind, pure, Except.pure]
  exact hg

end Workspace

section Standings

variable {calls : List Call} {slot : Slot}

theorem exists_stands (calls : List Call) (slot : Slot) : ∃ s, Stands calls slot s := by
  cases halive : (empty.performAll calls).isAlive slot.table with
  | false => exact ⟨_, .dead halive⟩
  | true =>
    cases hfirst : empty.firstDefinition slot calls with
    | none => exact ⟨_, .undefined halive hfirst⟩
    | some body => exact ⟨_, .bound halive hfirst⟩

theorem Stands.unique {s s' : Standing} (h : Stands calls slot s) (h' : Stands calls slot s') :
    s' = s := by
  cases h with
  | undefined halive hfirst =>
    cases h' with
    | undefined => rfl
    | bound _ hfirst' => cases hfirst.symm.trans hfirst'
    | dead hdead => cases halive.symm.trans hdead
  | bound halive hfirst =>
    cases h' with
    | undefined _ hfirst' => cases hfirst.symm.trans hfirst'
    | bound _ hfirst' => rw [Option.some.inj (hfirst.symm.trans hfirst')]
    | dead hdead => cases halive.symm.trans hdead
  | dead hdead =>
    cases h' with
    | undefined halive | bound halive => cases halive.symm.trans hdead
    | dead => rfl

theorem Stands.dead_iff {s : Standing} (h : Stands calls slot s) :
    s = .dead ↔ ¬ (empty.performAll calls).InUse slot.table := by
  rw [← isAlive_iff_inUse]
  cases h with
  | undefined halive | bound halive => simp [halive]
  | dead hdead => simp [hdead]

theorem Stands.run {s : Standing} (h : Stands calls slot s) (ts : List Token) :
    (empty.performAll calls).run (.reference slot) ts =
      s.recognizer (empty.performAll calls) slot.name ts := by
  cases h with
  | undefined halive hfirst =>
    apply run_reference_of_none
    rw [rules_of_alive halive, find_of_calls, hfirst]
    rfl
  | bound halive hfirst =>
    apply run_reference
    rw [rules_of_alive halive, find_of_calls, hfirst]
    rfl
  | dead hdead => exact run_reference_of_none (rules_of_not_alive hdead) ts

/-- While the grammar of a slot is open it takes a definition of it exactly if there is none. -/
theorem Stands.define_ok_iff {s : Standing} (h : Stands calls slot s) {grammar : String}
    {g : OpenGrammar} (hg : (empty.performAll calls).opened.lookup grammar = some g)
    (htable : g.table = slot.table) (m : Matcher) :
    (∃ w, (empty.performAll calls).define grammar slot.name m = .ok (.ok w)) ↔
      s = .undefined := by
  rw [Workspace.define_ok_iff hg, htable, find_of_calls, Option.map_eq_none_iff]
  cases h with
  | undefined _ hfirst => simp [hfirst]
  | bound _ hfirst => simp [hfirst]
  | dead hdead =>
    have halive := isAlive_iff_inUse.mpr (.opened (Named.mem_of_lookup hg))
    rw [htable] at halive
    cases hdead.symm.trans halive

/-- What was defined once stays so, and a table out of use stays out of use. -/
theorem Stands.before {more : List Call} {s s' : Standing} (h : Stands calls slot s)
    (hknown : slot.table < (empty.performAll calls).tables.length)
    (h' : Stands (calls ++ more) slot s') : s.Before s' := by
  have hfirst := firstDefinition_append empty slot calls more
  have hback (halive : (empty.performAll (calls ++ more)).isAlive slot.table = true) :
      (empty.performAll calls).isAlive slot.table = true := by
    rw [performAll_append] at halive
    have horderly := (becomes_performAll empty calls).orderly orderly_empty
    exact isAlive_iff_inUse.mpr ((becomes_performAll _ more).inUse horderly hknown
      (isAlive_iff_inUse.mp halive))
  cases h with
  | undefined _ hnone =>
    cases h' with
    | undefined => exact .same _
    | bound => exact .defined _
    | dead => exact .died _
  | bound _ hsome =>
    rw [hsome, Option.some_or] at hfirst
    cases h' with
    | undefined _ hnone => cases hfirst.symm.trans hnone
    | bound _ hsome' =>
      rw [Option.some.inj (hfirst.symm.trans hsome')]
      exact .same _
    | dead => exact .died _
  | dead hdead =>
    cases h' with
    | undefined halive | bound halive => cases hdead.symm.trans (hback halive)
    | dead => exact .died _

end Standings

namespace Workspace

/-- A reference that a grammar gives out is at every moment undefined, bound or dead, and no two of
these. It is not dead at first. Undefined it matches nothing, bound it runs what the first call to
define its name in that grammar made of it, and dead it matches nothing. It is dead exactly when the
table of its grammar is out of use. Its grammar takes a definition of the name only while it is
undefined, and whatever is called, it never goes back. -/
theorem reference_life_cycle {earlier : List Call} {grammar rule : String} {r : Matcher}
    {w : Workspace} (h : (empty.performAll earlier).reference grammar rule = .ok (r, w)) :
    ∃ g slot, (empty.performAll earlier).opened.lookup grammar = some g ∧
      slot = ⟨g.table, rule⟩ ∧ r = .reference slot ∧
      ∀ kept later calls, calls = earlier ++ .make kept (.reference grammar rule) :: later →
        ∃ s, Stands calls slot s ∧ (∀ s', Stands calls slot s' → s' = s) ∧
          (later = [] → s ≠ .dead) ∧
          (∀ ts, (empty.performAll calls).run r ts =
            s.recognizer (empty.performAll calls) rule ts) ∧
          (s = .dead ↔ ¬ (empty.performAll calls).InUse slot.table) ∧
          (∀ name g' m, (empty.performAll calls).opened.lookup name = some g' →
            g'.table = slot.table →
            ((∃ w', (empty.performAll calls).define name rule m = .ok (.ok w')) ↔
              s = .undefined)) ∧
          ∀ more s', Stands (calls ++ more) slot s' → s.Before s' := by
  cases hg : (empty.performAll earlier).opened.lookup grammar with
  | none => simp [reference, hg] at h
  | some g =>
    refine ⟨g, ⟨g.table, rule⟩, rfl, rfl, ?_⟩
    obtain rfl : Matcher.reference ⟨g.table, rule⟩ = r := by
      simp only [reference, hg, Except.ok.injEq, Prod.mk.injEq] at h
      exact h.1
    refine ⟨rfl, ?_⟩
    rintro kept later calls rfl
    obtain ⟨s, hs⟩ := exists_stands (earlier ++ .make kept (.reference grammar rule) :: later)
      ⟨g.table, rule⟩
    refine ⟨s, hs, fun _ => hs.unique, ?_, hs.run, hs.dead_iff, ?_, ?_⟩
    · rintro rfl
      rw [Ne, hs.dead_iff, not_not, performAll_append]
      exact .opened (Named.mem_of_lookup (opened_make_reference hg))
    · intro name g' m hg' htable
      exact hs.define_ok_iff hg' htable m
    · have hearlier := (becomes_performAll empty earlier).orderly orderly_empty
      have hknown := hearlier.opened_known _ (Named.mem_of_lookup hg)
      intro more s' hs'
      refine hs.before ?_ hs'
      rw [performAll_append]
      exact (becomes_performAll _ _).known hearlier hknown

end Workspace

section Lists

/-- A grammar of lists whose reference is defined, dropped, and opened once more. -/
def listsReopened : List Call :=
  (.new "lists" {} :: listCalls) ++ (.drop "lists" :: .new "lists" {} :: listCalls)

theorem reference_life_cycle_on_lists :
    (∃ body, Stands (.new "lists" {} :: listCalls) ⟨0, "list"⟩ (.bound body) ∧
      (empty.performAll (.new "lists" {} :: listCalls)).run (.reference ⟨0, "list"⟩) listTokens =
        (empty.performAll (.new "lists" {} :: listCalls)).run (.rule "list" body) listTokens) ∧
    Stands listsReopened ⟨0, "list"⟩ .dead ∧
    (empty.performAll listsReopened).run (.reference ⟨0, "list"⟩) listTokens = return none := by
  have hr : (empty.performAll [.new "lists" {}]).reference "lists" "list" =
      .ok (.reference ⟨0, "list"⟩, (empty.performAll [.new "lists" {}]).setTable 0
        (RuleTable.empty.mention "list")) := rfl
  obtain ⟨g, slot, hg, rfl, _, hmoments⟩ := reference_life_cycle hr
  obtain rfl : ⟨0, {}⟩ = g := Option.some.inj hg
  have hbound : Stands (.new "lists" {} :: listCalls) ⟨0, "list"⟩ (.bound (.sequence
      [.terminal (.literal "("), .repetition none (.reference ⟨0, "item"⟩),
        .terminal (.literal ")")])) := .bound rfl rfl
  have hdead : Stands listsReopened ⟨0, "list"⟩ .dead := .dead rfl
  refine ⟨⟨_, hbound, ?_⟩, hdead, ?_⟩
  · obtain ⟨s, _, honly, _, hrun, _⟩ := hmoments "list" listCalls.tail
      (.new "lists" {} :: listCalls) rfl
    rw [← honly _ hbound] at hrun
    exact hrun listTokens
  · obtain ⟨s, _, honly, _, hrun, _⟩ := hmoments "list"
      (listCalls.tail ++ (.drop "lists" :: .new "lists" {} :: listCalls)) listsReopened rfl
    rw [← honly _ hdead] at hrun
    exact hrun listTokens

end Lists

end TokenGrammar
