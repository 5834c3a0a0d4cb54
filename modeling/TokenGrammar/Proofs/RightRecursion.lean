import TokenGrammar.Proofs.Derivations
import TokenGrammar.Proofs.Lifecycle
import TokenGrammar.Proofs.Termination

namespace TokenGrammar

open Matcher

/-- Matching comes to an end on every token list, and what the matcher finds there takes at least
one token off its front. -/
def Matcher.Advances (rules : Rules) (m : Matcher) : Prop :=
  ∀ ts, ∃ found, m.Gives rules ts found ∧
    ∀ node ∈ found, node.terminals ≠ [] ∧ node.terminals <+: ts

section

variable {rules rules' : Rules} {slot : Slot} {name : String} {m : Matcher}

theorem Matcher.Advances.congr {S : Slot → Prop} (h : m.Advances rules)
    (agree : rules.AgreeOn rules' S) (hm : ∀ slot ∈ m.links, S slot) : m.Advances rules' := by
  intro ts
  obtain ⟨found, hfound, hfront⟩ := h ts
  exact ⟨found, (gives_congr agree hm ts found).mp hfound, hfront⟩

/-- The rule goes through one more link where the loop makes one more iteration, and the induction
is on the number of tokens. Where `m` finds nothing, which it does on no tokens at the latest, the
rule ends with an empty option and the loop with no further iteration; the rest behind a match is
shorter. -/
theorem recursion_takes_loop (hm : m.Advances rules)
    (hrule : rules slot = some (.rule name (.optional (.sequence [m, .reference slot]))))
    (ts : List Token) :
    ∃ node loop, Matches rules (.reference slot) ts (some node) ∧
      Matches rules (.repetition none m) ts (some loop) ∧ node.terminals = loop.terminals := by
  generalize hn : ts.length = n
  induction n using Nat.strongRecOn generalizing ts with
  | ind n ih =>
    obtain ⟨found, hgives, hfront⟩ := hm ts
    have hfound := matches_of_gives hgives
    cases found with
    | none =>
      refine ⟨_, _, .reference hrule (.ruleHit (.optionalMiss (.sequenceMiss hfound))),
        .repetitionMiss hfound, ?_⟩
      simp [Node.production, Node.terminals, Node.terminals_group, Node.terminalsAll]
    | some node =>
      obtain ⟨hne, hprefix⟩ := hfront node rfl
      have hz : node.len ≠ 0 := by
        rw [← Node.length_terminals]
        simpa using hne
      have hts : ts ≠ [] := by
        rintro rfl
        exact hne (List.prefix_nil.mp hprefix)
      have hlt := Recognizer.length_restOf_lt hts hz
      obtain ⟨inner, loop, hinner, hloop, he⟩ := ih _ (hn ▸ hlt) _ rfl
      refine ⟨_, _, .reference hrule (.ruleHit (.optionalHit
          (.sequenceCons hfound (.sequenceCons hinner .sequenceNil)))),
        .repetitionCons (Option.some_ne_none 0).symm hts hfound hz hloop, ?_⟩
      simp [Node.production, Node.terminals, Node.terminals_group, Node.terminalsAll_append,
        Node.terminalsAll, he]

end

namespace RuleTable

variable {t t' : RuleTable} {name : String} {m : Matcher}

theorem mem_mention_of_mem {rule : String} (h : (rule, some m) ∈ t.slots) (name : String) :
    (rule, some m) ∈ (t.mention name).slots := by
  unfold mention
  split
  · exact h
  · exact List.mem_append_left _ h

theorem owned_mention (t : RuleTable) (name : String) (id : Nat) :
    id ∈ (t.mention name).owned ↔ id ∈ t.owned := by
  rw [mem_owned, mem_owned]
  constructor
  · rintro ⟨rule, m, hm, hid⟩
    exact ⟨rule, m, Workspace.mem_mention hm, hid⟩
  · rintro ⟨rule, m, hm, hid⟩
    exact ⟨rule, m, mem_mention_of_mem hm name, hid⟩

/-- A definition comes to what a table owns, and takes nothing from it. -/
theorem owned_define (h : t.define name m = .ok t') (id : Nat) :
    id ∈ t'.owned ↔ id ∈ t.owned ∨ id ∈ m.owned := by
  obtain ⟨hnone, hslots⟩ := slots_of_define h
  have hfind := (find_define h name).2
  rw [if_pos rfl] at hfind
  rw [← owned_mention t name, mem_owned, mem_owned, hslots]
  constructor
  · rintro ⟨rule, old, hold, hid⟩
    rcases mem_fill hold with ⟨_, he⟩ | hold
    · obtain rfl := Option.some.inj he
      exact .inr hid
    · exact .inl ⟨rule, old, hold, hid⟩
  · rintro (⟨rule, old, hold, hid⟩ | hid)
    · rcases mem_fill_or_lookup hold name (.rule name m) with hkept | hlookup
      · exact ⟨rule, old, hkept, hid⟩
      · have : (t.mention name).find? name = some old := by rw [find?, hlookup]; rfl
        rw [find_mention, hnone] at this
        cases this
    · exact ⟨name, .rule name m, hslots ▸ mem_of_find hfind, hid⟩

end RuleTable

namespace Workspace

variable {w w' : Workspace} {name rule : String} {m r : Matcher}

/-- What a table owns in addition was in use anyway, so that the same tables are in use. -/
theorem inUse_setTable {owner : Nat} {t : RuleTable}
    (hold : ∀ id ∈ (w.table owner).owned, id ∈ t.owned)
    (hnew : ∀ id ∈ t.owned, id ∈ (w.table owner).owned ∨ w.InUse id) (id : Nat) :
    (w.setTable owner t).InUse id ↔ w.InUse id := by
  constructor
  · intro h
    induction h with
    | opened hx => exact .opened hx
    | compiled hx => exact .compiled hx
    | kept hx hid => exact .kept hx hid
    | owned _ howns ih =>
      rw [owns_iff, table_set] at howns
      split at howns
      · rename_i ho
        rcases hnew _ howns with howns | huse
        · exact .owned ih (owns_iff.mpr (ho.1 ▸ howns))
        · exact huse
      · exact .owned ih (owns_iff.mpr howns)
  · intro h
    induction h with
    | opened hx => exact .opened hx
    | compiled hx => exact .compiled hx
    | kept hx hid => exact .kept hx hid
    | owned _ howns ih =>
      refine .owned ih (owns_iff.mpr ?_)
      rw [table_set]
      split
      · rename_i ho
        exact hold _ (ho.1 ▸ owns_iff.mp howns)
      · exact owns_iff.mp howns

theorem rules_congr {slot : Slot} (huse : w'.InUse slot.table ↔ w.InUse slot.table)
    (hfind : (w'.table slot.table).find? slot.name = (w.table slot.table).find? slot.name) :
    w'.rules slot = w.rules slot := by
  rw [← isAlive_iff_inUse, ← isAlive_iff_inUse] at huse
  cases halive : w.isAlive slot.table with
  | true => rw [rules_of_alive (huse.mpr halive), rules_of_alive halive, hfind]
  | false =>
    have hdead : w'.isAlive slot.table = false := by
      rw [← Bool.not_eq_true, huse, halive]
      exact Bool.false_ne_true
    rw [rules_of_not_alive hdead, rules_of_not_alive halive]

theorem reference_eq {g : OpenGrammar} (hg : w.opened.lookup name = some g) (rule : String) :
    w.reference name rule = .ok (.reference ⟨g.table, rule⟩,
      w.setTable g.table ((w.table g.table).mention rule)) := by
  simp only [reference, hg]

theorem inUse_setTable_mention (w : Workspace) (owner : Nat) (rule : String) (id : Nat) :
    (w.setTable owner ((w.table owner).mention rule)).InUse id ↔ w.InUse id :=
  inUse_setTable (fun id hid => (RuleTable.owned_mention _ rule id).mpr hid)
    (fun id hid => .inl ((RuleTable.owned_mention _ rule id).mp hid)) id

/-- A mention changes no rule in force. -/
theorem rules_setTable_mention (w : Workspace) (owner : Nat) (rule : String) :
    (w.setTable owner ((w.table owner).mention rule)).rules = w.rules := by
  funext slot
  exact rules_congr (inUse_setTable_mention w owner rule slot.table)
    (find_setTable_mention w owner slot.table rule slot.name)

/-- A rule whose matcher only keeps alive what is in use changes no other rule in force. -/
theorem define_rules {g : OpenGrammar} (hg : w.opened.lookup name = some g)
    (hand : ∀ id ∈ m.owned, w.InUse id) (h : w.define name rule m = .ok (.ok w')) {slot : Slot}
    (hne : slot ≠ ⟨g.table, rule⟩) : w'.rules slot = w.rules slot := by
  obtain ⟨g', t, hg', ht, rfl⟩ := table_of_define h
  obtain rfl := Option.some.inj (hg.symm.trans hg')
  have howned := RuleTable.owned_define ht
  refine rules_congr (inUse_setTable (fun id hid => (howned id).mpr (.inl hid)) ?_ _) ?_
  · intro id hid
    exact ((howned id).mp hid).imp_right (hand id)
  · rw [table_set]
    split
    · rename_i hs
      have hname : slot.name ≠ rule := by
        rintro rfl
        exact hne (by rw [← hs.1])
      rw [(RuleTable.find_define ht _).2, if_neg hname, hs.1]
    · rfl

/-- What makes no use of the rule leads to the same rules after its definition. -/
theorem define_agree {g : OpenGrammar} (hg : w.opened.lookup name = some g)
    (hand : ∀ id ∈ m.owned, w.InUse id) (h : w.define name rule m = .ok (.ok w'))
    {other : Matcher} (hno : ¬ other.Reaches w.rules ⟨g.table, rule⟩) :
    w.rules.AgreeOn w'.rules (other.Reaches w.rules) where
  same slot hslot := by
    have hne : slot ≠ ⟨g.table, rule⟩ := by
      rintro rfl
      exact hno hslot
    exact (define_rules hg hand h hne).symm
  closed _ _ hslot hrule _ hnext := .next hslot hrule hnext

theorem find_of_define {g : OpenGrammar} (hw : w.Orderly) (hg : w.opened.lookup name = some g)
    (h : w.define name rule m = .ok (.ok w')) :
    (w'.table g.table).find? rule = some (.rule rule m) := by
  obtain ⟨g', t, hg', ht, rfl⟩ := table_of_define h
  obtain rfl := Option.some.inj (hg.symm.trans hg')
  have hlt := hw.opened_known _ (Named.mem_of_lookup hg)
  rw [table_set, if_pos ⟨rfl, hlt⟩, (RuleTable.find_define ht rule).2, if_pos rfl]

/-- Take any matcher in hand that advances and makes no use of a rule, which an open grammar has no
definition of. With the rule defined as this matcher and then the rule, both optional, the matcher
still advances. From then on, whatever is called, the rule matches every token list as long as its
table is in use and the matcher advances, by a reference as by a handle, and its node takes the same
tokens as the repetition of the matcher. -/
theorem right_recursion_agrees {g : OpenGrammar} (hw : empty.Becomes w)
    (hg : w.opened.lookup name = some g) (hnew : (w.table g.table).find? rule = none)
    (hand : ∀ id ∈ m.owned, w.InUse id) (hno : ¬ m.Reaches w.rules ⟨g.table, rule⟩)
    (hm : m.Advances w.rules) :
    ∃ r w₁ w₂, w.reference name rule = .ok (r, w₁) ∧
      w₁.define name rule (.optional (.sequence [m, r])) = .ok (.ok w₂) ∧
      w₂.isAlive g.table = true ∧ m.Advances w₂.rules ∧
      ∀ v, w₂.Becomes v → v.isAlive g.table = true → m.Advances v.rules → ∀ ts, ∃ node loop,
        (v.run r ts).answer? = some (some node) ∧
        (v.run (.handle ⟨g.table, rule⟩) ts).answer? = some (some node) ∧
        (v.run (.repetition none m) ts).answer? = some (some loop) ∧
        node.terminals = loop.terminals ∧ node.len = loop.len := by
  have hr := reference_eq hg rule
  have horderly := (reference_shift hr).1.orderly (hw.orderly orderly_empty)
  have hrules := w.rules_setTable_mention g.table rule
  have hnew₁ := (w.find_setTable_mention g.table g.table rule rule).trans hnew
  have hand₁ (id : Nat) (hid : id ∈ m.owned) :=
    (w.inUse_setTable_mention g.table rule id).mpr (hand id hid)
  generalize hw₁ : w.setTable g.table ((w.table g.table).mention rule) = w₁ at *
  have hg₁ : w₁.opened.lookup name = some g := hw₁ ▸ hg
  obtain ⟨w₂, hdefine⟩ := (define_ok_iff hg₁).mpr hnew₁
  have howned : ∀ id ∈ (Matcher.optional (.sequence [m, .reference ⟨g.table, rule⟩])).owned,
      w₁.InUse id := by
    simpa [Matcher.owned, Matcher.ownedAll] using hand₁
  have hm₂ : m.Advances w₂.rules := by
    rw [← hrules] at hno hm
    exact hm.congr (define_agree hg₁ howned hdefine hno) (fun _ => .link)
  have hopened : w₂.opened = w₁.opened := by
    obtain ⟨_, _, _, _, rfl⟩ := table_of_define hdefine
    rfl
  have hopen : (name, g) ∈ w₂.opened := Named.mem_of_lookup (hopened ▸ hg₁)
  refine ⟨_, w₁, w₂, hr, hdefine, isAlive_iff_inUse.mpr (.opened hopen), hm₂, ?_⟩
  intro v hv halive hmv ts
  have hrule : v.rules ⟨g.table, rule⟩ =
      some (.rule rule (.optional (.sequence [m, .reference ⟨g.table, rule⟩]))) :=
    (rules_of_alive halive).trans (hv.find (find_of_define horderly hg₁ hdefine))
  obtain ⟨node, loop, hnode, hloop, hterminals⟩ := recursion_takes_loop hmv hrule ts
  have hrun := (v.run_iff_gives _ ts _).mpr (gives_of_matches hnode)
  refine ⟨node, loop, hrun, hrun, (v.run_iff_gives _ ts _).mpr (gives_of_matches hloop),
    hterminals, ?_⟩
  rw [← Node.length_terminals, ← Node.length_terminals, hterminals]

end Workspace

section Words

open Workspace

/-- An open grammar without rules, and a matcher for words. -/
def wordsOpened : Workspace :=
  Workspace.empty.performAll [.new "words" {}, .make "word" (.terminal (.structured "word" none))]

theorem wordTerminal_advances (rules : Rules) : wordTerminal.Advances rules := by
  intro ts
  obtain ⟨found, hfound⟩ := (ends_terminal (.structured "word" none) ts).matches
  refine ⟨found, gives_of_matches hfound, ?_⟩
  cases hfound with
  | terminalHit => simp [Node.terminals]
  | terminalMiss | terminalEnd => simp

theorem wordTerminal_reaches_nothing (rules : Rules) (slot : Slot) :
    ¬ wordTerminal.Reaches rules slot := by
  intro h
  induction h with
  | link h => cases h
  | next _ _ _ ih => exact ih

theorem right_recursion_agrees_on_words :
    ∃ r w₁ w₂, wordsOpened.reference "words" "all" = .ok (r, w₁) ∧
      w₁.define "words" "all" (.optional (.sequence [wordTerminal, r])) = .ok (.ok w₂) ∧
      ∀ ts, ∃ node loop, (w₂.run r ts).answer? = some (some node) ∧
        (w₂.run (.repetition none wordTerminal) ts).answer? = some (some loop) ∧
        node.terminals = loop.terminals ∧ node.len = loop.len := by
  have hw : Workspace.empty.Becomes wordsOpened := ⟨_, rfl⟩
  have hg : wordsOpened.opened.lookup "words" = some ⟨0, {}⟩ := rfl
  have hand : ∀ id ∈ wordTerminal.owned, wordsOpened.InUse id :=
    fun _ hid => absurd hid List.not_mem_nil
  obtain ⟨r, w₁, w₂, hr, hdefine, halive, hm, hagree⟩ :=
    right_recursion_agrees hw hg rfl hand (wordTerminal_reaches_nothing _ _)
      (wordTerminal_advances _)
  refine ⟨r, w₁, w₂, hr, hdefine, ?_⟩
  intro ts
  obtain ⟨node, loop, hnode, _, hloop, hterminals, hlen⟩ := hagree w₂ (.refl _) halive hm ts
  exact ⟨node, loop, hnode, hloop, hterminals, hlen⟩

end Words

end TokenGrammar
