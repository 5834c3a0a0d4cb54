import TokenGrammar.Proofs.Derivations
import TokenGrammar.Proofs.Fuel
import TokenGrammar.Proofs.History
import TokenGrammar.Proofs.Matches
import TokenGrammar.Proofs.Ownership
import TokenGrammar.Proofs.Variants

namespace TokenGrammar

open Matcher

/-- The second matcher is the first one with some references to `slot` replaced by `body`. -/
def Matcher.Inlined (slot : Slot) (body : Matcher) : Matcher → Matcher → Prop :=
  Variant Eq (fun m m' => m = .reference slot ∧ m' = body)

section

variable {rules rules' : Rules} {slot : Slot} {body : Matcher} {s : List Token}

theorem repetition_below_of_eq {max max' : Option Nat} (r : Recognizer) (h : max = max') :
    Recognizer.Below s (Recognizer.repetition max r) (Recognizer.repetition max' r) := by
  subst h
  exact fun ts _ => .refl _

/-- Rules with references replaced need no more fuel than those with the references. -/
theorem follow_below_inlined (hbody : rules slot = some body)
    (h : ∀ other, Option.Rel (Inlined slot body) (rules other) (rules' other)) (fuel : Nat)
    (other : Slot) : Recognizer.Below s (follow rules fuel other) (follow rules' fuel other) := by
  induction fuel generalizing other with
  | zero => exact fun ts _ => Run.unfinished_below _
  | succ fuel ih =>
    refine Variant.follow_succ_below ih (fun _ _ => repetition_below_of_eq) ?_ (h other)
    rintro _ _ ⟨rfl, rfl⟩
    cases fuel with
    | zero => exact fun ts _ => Run.unfinished_below _
    | succ fuel =>
      have shorter (next : Slot) :
          Recognizer.Below s (follow rules fuel next) (follow rules' (fuel + 1) next) :=
        (follow_below rules s (Nat.le_succ fuel) next).trans (ih next)
      intro ts hts
      simp only [denote, follow, hbody]
      exact denote_below shorter _ ts hts

/-- Each link through the rules with references replaced stands for at most two links through
those with the references. -/
theorem inlined_follow_below (hbody : rules slot = some body)
    (h : ∀ other, Option.Rel (Inlined slot body) (rules other) (rules' other)) (fuel : Nat)
    (other : Slot) :
    Recognizer.Below s (follow rules' fuel other) (follow rules (2 * fuel) other) := by
  induction fuel generalizing other with
  | zero => exact fun ts _ => Run.unfinished_below _
  | succ fuel ih =>
    have longer (next : Slot) :
        Recognizer.Below s (follow rules' fuel next) (follow rules (2 * fuel + 1) next) :=
      (ih next).trans (follow_below rules s (Nat.le_succ _) next)
    refine Variant.follow_succ_below longer (fun _ _ r hb => repetition_below_of_eq r hb.symm) ?_
      (Variant.rel_flip (h other))
    rintro _ _ ⟨rfl, rfl⟩
    intro ts hts
    simp only [denote, follow, hbody]
    exact denote_below ih _ ts hts

end

namespace RuleTable

variable {t : RuleTable} {name : String} {m old : Matcher}

/-- The table with `name`, which is in it, defined as `m` after all. -/
def redefine (t : RuleTable) (name : String) (m : Matcher) : RuleTable :=
  ⟨fill name (.rule name m) t.slots⟩

theorem fill_fill (name : String) (m old : Matcher) (slots : List (String × Option Matcher)) :
    fill name m (fill name old slots) = fill name m slots := by
  induction slots with
  | nil => rfl
  | cons slot slots ih =>
    obtain ⟨first, o⟩ := slot
    by_cases hf : first = name <;> simp [fill, hf, ih]

/-- A table in which `name` was defined as `old` becomes the one in which it is defined as `m`. -/
theorem define_redefine {t' : RuleTable} (h : t.define name old = .ok t') (m : Matcher) :
    t.define name m = .ok (t'.redefine name m) := by
  unfold define at h ⊢
  split at h
  · cases h
  · rename_i hnew
    cases h
    rw [if_neg hnew, redefine, fill_fill]

theorem find_redefine (h : t.find? name = some old) (m : Matcher) (n : String) :
    (t.redefine name m).find? n = if n = name then some (.rule name m) else t.find? n := by
  have hmem : name ∈ t.slots.map (·.1) := name_mem_of_find h
  simp only [find?, redefine, lookup_fill, hmem, and_true]
  split <;> rfl

/-- What the body of a rule owns, the table owns already, so inlining it leads to no other
tables. -/
theorem owned_redefine {a b : String} {bodyA body inlined : Matcher} {slot : Slot}
    (ha : t.find? a = some (.rule a bodyA)) (hb : t.find? b = some body)
    (h : Inlined slot body bodyA inlined) (id : Nat) :
    id ∈ t.owned ↔ id ∈ (t.redefine a inlined).owned := by
  have kept : ∀ id ∈ bodyA.owned, id ∈ inlined.owned := by
    intro id hid
    refine (h.owned (fun _ => False) ?_ id hid).resolve_right not_false
    rintro _ _ ⟨rfl, rfl⟩ id hid
    cases hid
  have known : ∀ id ∈ inlined.owned, id ∈ bodyA.owned ∨ id ∈ body.owned := by
    refine h.flip.owned (· ∈ body.owned) ?_
    rintro _ _ ⟨rfl, rfl⟩ id hid
    exact .inr hid
  rw [mem_owned, mem_owned]
  constructor
  · rintro ⟨n, m, hm, hid⟩
    rcases mem_fill_or_lookup hm a (.rule a inlined) with hm' | hl
    · exact ⟨n, m, hm', hid⟩
    · have he : m = .rule a bodyA := by
        rw [find?, hl] at ha
        exact Option.some.inj ha
      subst he
      have hnew : (t.redefine a inlined).find? a = some (.rule a inlined) := by
        rw [find_redefine ha, if_pos rfl]
      exact ⟨a, _, mem_of_find hnew, kept id hid⟩
  · rintro ⟨n, m, hm, hid⟩
    rcases mem_fill hm with ⟨rfl, he⟩ | hm
    · obtain rfl := Option.some.inj he
      rcases known id hid with hid | hid
      · exact ⟨_, _, mem_of_find ha, hid⟩
      · exact ⟨_, _, mem_of_find hb, hid⟩
    · exact ⟨n, m, hm, hid⟩

end RuleTable

namespace Workspace

/-- The workspace with a rule of table `id` defined as `m` after all. -/
def redefine (w : Workspace) (id : Nat) (rule : String) (m : Matcher) : Workspace :=
  w.setTable id ((w.table id).redefine rule m)

variable {w : Workspace} {id : Nat} {a b : String} {bodyA body inlined : Matcher}

theorem alive_redefine (ha : (w.table id).find? a = some (.rule a bodyA))
    (hb : (w.table id).find? b = some body) (h : Inlined ⟨id, b⟩ body bodyA inlined) :
    (w.redefine id a inlined).alive = w.alive := by
  have howners : w.SameOwners (w.redefine id a inlined) := by
    intro x owner
    rw [redefine, table_set]
    split
    · rename_i hid
      rw [hid.1]
      exact RuleTable.owned_redefine ha hb h x
    · exact Iff.rfl
  refine (howners.alive_eq ?_ (fun _ => Iff.rfl)).symm
  simp [redefine, setTable]

theorem rules_redefine (ha : (w.table id).find? a = some (.rule a bodyA))
    (hb : (w.table id).find? b = some body) (h : Inlined ⟨id, b⟩ body bodyA inlined)
    (slot : Slot) : Option.Rel (Inlined ⟨id, b⟩ body) (w.rules slot)
      ((w.redefine id a inlined).rules slot) := by
  have unchanged (found : Option Matcher) : Option.Rel (Inlined ⟨id, b⟩ body) found found :=
    Variant.rel_refl (fun _ => rfl) found
  rw [rules, rules, alive_redefine ha hb h, rulesIn, rulesIn, redefine, table_set]
  split
  · split
    · rename_i hid
      rw [RuleTable.find_redefine ha, hid.1]
      split
      · rename_i hname
        rw [hname, ha]
        exact .some (.rule h)
      · exact unchanged _
    · exact unchanged _
  · exact .none

/-- Inlining a rule of a table in use changes no run, events included. -/
theorem run_redefine (hroot : id ∈ w.roots) (ha : (w.table id).find? a = some (.rule a bodyA))
    (hb : (w.table id).find? b = some body) (h : Inlined ⟨id, b⟩ body bodyA inlined)
    (m : Matcher) (ts : List Token) : (w.redefine id a inlined).run m ts = w.run m ts := by
  have hbody : w.rules ⟨id, b⟩ = some body := (rules_of_root hroot rfl).trans hb
  have hrules := rules_redefine ha hb h
  have self := List.suffix_refl ts
  have hto : ((w.redefine id a inlined).run m ts).Below (w.run m ts) :=
    (denote_below (inlined_follow_below hbody hrules _) m ts self).trans (below_run w m _ ts)
  have hfrom : (w.run m ts).Below ((w.redefine id a inlined).run m ts) :=
    (denote_below (follow_below_inlined hbody hrules _) m ts self).trans (below_run _ m _ ts)
  exact hto.antisymm hfrom

theorem ruleMatcher_redefine {name : String} {g : CompiledGrammar}
    (hc : w.compiled.lookup name = some g)
    (ha : (w.table g.table).find? a = some (.rule a bodyA)) (rule : String) :
    (w.redefine g.table a inlined).ruleMatcher name rule = w.ruleMatcher name rule := by
  have hc' : (w.redefine g.table a inlined).compiled.lookup name = some g := hc
  rw [ruleMatcher, ruleMatcher, hc', hc]
  dsimp only
  rw [redefine, table_set]
  split
  · rw [RuleTable.find_redefine ha]
    split
    · rename_i hname
      rw [hname, ha]
      rfl
    · rfl
  · rfl

theorem build_ok {w' : Workspace} {name start : String} {g : OpenGrammar}
    {report : List String × Event} (hopen : w.opened.lookup name = some g)
    (h : w.build name start = .ok (.ok report, w')) :
    w'.compiled.lookup name = some ⟨g.table, start, g.settings⟩ ∧
      ∃ m, (w.table g.table).find? start = some m := by
  simp only [build, hopen] at h
  cases hcheck : (w.table g.table).check start with
  | error e => simp [hcheck] at h
  | ok u =>
    simp only [hcheck, Except.ok.injEq, Prod.mk.injEq] at h
    obtain ⟨_, rfl⟩ := h
    refine ⟨List.lookup_cons_self, ?_⟩
    unfold RuleTable.check at hcheck
    split at hcheck
    · cases hcheck
    · split at hcheck
      · rename_i hsome
        exact Option.isSome_iff_exists.mp hsome
      · cases hcheck

/-- A reference to the start rule, taken before a grammar is compiled, refers to the definition that
the compiled grammar starts with. -/
theorem start_defined {w w₁ w₂ w₃ : Workspace} {name start : String} {g : OpenGrammar}
    {r : Matcher} {report : List String × Event} (hw : w.Wrapped)
    (hopen : w.opened.lookup name = some g) (hr : w.reference name start = .ok (r, w₁))
    (h₁₂ : w₁.Becomes w₂) (hstill : w₂.opened.lookup name = some g)
    (hbuild : w₂.build name start = .ok (.ok report, w₃)) :
    w₃.compiled.lookup name = some ⟨g.table, start, g.settings⟩ ∧
      r = .reference ⟨g.table, start⟩ ∧
      ∃ body, (w₃.table g.table).find? start = some (.rule start body) := by
  have hw₂ : w₂.Wrapped := h₁₂.wrapped (hw.step (reference_step hr))
  simp only [reference, hopen, Except.ok.injEq, Prod.mk.injEq] at hr
  obtain ⟨hc, m, hm⟩ := build_ok hstill hbuild
  obtain ⟨body, rfl⟩ := hw₂.table g.table start m (RuleTable.mem_of_find hm)
  rw [table, ← build_tables hbuild] at hm
  exact ⟨hc, hr.1.symm, body, hm⟩

/-- A compiled grammar runs as before, events included, when references in the body of one rule to
another rule or to itself are replaced by that rule. The start rule of a compiled grammar, the
matcher that it hands out for that rule and a reference taken before it was compiled all give what
the definition gives inside one production, whatever is called in between, and afterwards as long
as the table is in use. -/
theorem references_transparent :
    (∀ (w : Workspace) (name : String) (g : CompiledGrammar) (a b : String)
      (bodyA bodyB inlined : Matcher), w.compiled.lookup name = some g →
      (w.table g.table).find? a = some (.rule a bodyA) →
      (w.table g.table).find? b = some (.rule b bodyB) →
      Inlined ⟨g.table, b⟩ (.rule b bodyB) bodyA inlined →
      (∀ rule, (w.redefine g.table a inlined).ruleMatcher name rule = w.ruleMatcher name rule) ∧
      (∀ m ts, (w.redefine g.table a inlined).run m ts = w.run m ts) ∧
      ∀ ts, (w.redefine g.table a inlined).matchStart name ts = w.matchStart name ts) ∧
    (∀ (w w₁ w₂ w₃ w₄ : Workspace) (name start : String) (g : OpenGrammar) (r : Matcher)
      (report : List String × Event), empty.Becomes w → w.opened.lookup name = some g →
      w.reference name start = .ok (r, w₁) → w₁.Becomes w₂ →
      w₂.opened.lookup name = some g → w₂.build name start = .ok (.ok report, w₃) →
      w₃.Becomes w₄ → w₄.compiled.lookup name = w₃.compiled.lookup name →
      ∃ body m, w₄.ruleMatcher name start = .ok (some m) ∧
        (∀ ts, w₄.matchStart name ts = .ok (w₄.run r ts)) ∧
        ∀ w₅, w₄.Becomes w₅ → w₅.isAlive g.table = true → ∀ ts,
          w₅.run m ts = w₅.run r ts ∧
          ∀ found, (w₅.run r ts).answer? = some found ↔
            (Matcher.rule start body).Gives w₅.rules ts found) := by
  refine ⟨?_, ?_⟩
  · intro w name g a b bodyA bodyB inlined hc ha hb h
    have runs := run_redefine (root_of_compiled hc) ha hb h
    refine ⟨ruleMatcher_redefine hc ha, runs, ?_⟩
    intro ts
    have hc' : (w.redefine g.table a inlined).compiled.lookup name = some g := hc
    rw [matchStart, matchStart, hc', hc]
    exact congrArg Except.ok (runs _ ts)
  · intro w w₁ w₂ w₃ w₄ name start g r report hw hopen hr h₁₂ hstill hbuild h₃₄ hsame
    obtain ⟨hc, rfl, body, hbody⟩ :=
      start_defined (hw.wrapped wrapped_empty) hopen hr h₁₂ hstill hbuild
    rw [hc] at hsame
    refine ⟨body, .handle ⟨g.table, start⟩, ?_, ?_, ?_⟩
    · simp only [ruleMatcher, hsame, h₃₄.find hbody, Option.map_some]
    · intro ts
      simp only [matchStart, hsame]
      rfl
    · intro w₅ h₄₅ halive ts
      have hrule : w₅.rules ⟨g.table, start⟩ = some (.rule start body) :=
        (rules_of_alive halive).trans ((h₃₄.trans h₄₅).find hbody)
      refine ⟨rfl, ?_⟩
      intro found
      rw [run_iff_gives, gives_reference hrule]

end Workspace

section Lists

open Workspace

theorem references_transparent_on_lists :
    ((listWorkspace wordTerminal).redefine 0 "list" (.sequence [.terminal (.literal "("),
      .repetition none (.rule "item" (.alternation [.reference ⟨0, "list"⟩, wordTerminal])),
      .terminal (.literal ")")])).matchStart "lists" listTokens =
        (listWorkspace wordTerminal).matchStart "lists" listTokens ∧
    ∃ m, listsCompiled.ruleMatcher "lists" "list" = .ok (some m) ∧
      listsCompiled.run m listTokens =
        listsCompiled.run (.reference ⟨0, "list"⟩) listTokens := by
  constructor
  · have hbody : Inlined ⟨0, "item"⟩ (.rule "item" (.alternation [.reference ⟨0, "list"⟩,
        wordTerminal])) (.sequence [.terminal (.literal "("),
        .repetition none (.reference ⟨0, "item"⟩), .terminal (.literal ")")]) _ :=
      .sequence (.cons .terminal (.cons (.repetition rfl (.swap ⟨rfl, rfl⟩))
        (.cons .terminal .nil)))
    exact (references_transparent.1 (listWorkspace wordTerminal) "lists" ⟨0, "list", {}⟩ "list"
      "item" _ _ _ rfl rfl rfl hbody).2.2 listTokens
  · have hopen : Workspace.empty.Becomes (Workspace.empty.new "lists" {}) :=
      ⟨[.new "lists" {}], rfl⟩
    have hr : (Workspace.empty.new "lists" {}).reference "lists" "list" =
        .ok (.reference ⟨0, "list"⟩, (Workspace.empty.new "lists" {}).setTable 0
          (RuleTable.empty.mention "list")) := rfl
    have hcalls : ((Workspace.empty.new "lists" {}).setTable 0
        (RuleTable.empty.mention "list")).Becomes
          ((Workspace.empty.new "lists" {}).performAll listCalls) := ⟨listCalls, rfl⟩
    have hstill : ((Workspace.empty.new "lists" {}).performAll listCalls).opened.lookup "lists" =
        some ⟨0, {}⟩ := rfl
    have hcompiled : listsCompiled.compiled.lookup "lists" = some ⟨0, "list", {}⟩ := rfl
    have halive : listsCompiled.isAlive 0 = true := alive_of_root (root_of_compiled hcompiled)
    obtain ⟨body, m, hm, _, hrun⟩ := references_transparent.2 _ _ _ listsCompiled listsCompiled
      "lists" "list" ⟨0, {}⟩ _ _ hopen rfl hr hcalls hstill build_listCalls (.refl _) rfl
    exact ⟨m, hm, (hrun _ (.refl _) halive listTokens).1⟩

end Lists

end TokenGrammar
