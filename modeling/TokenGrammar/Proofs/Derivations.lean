import TokenGrammar.Proofs.Matches
import TokenGrammar.Proofs.Tables

namespace TokenGrammar

open Matcher

/-- The lists of children that an expression derives when its rules are read as plain EBNF, without
order and greed. Groups have left the children by then, so a derivation has to find the bounds of
the parts again. What a slot runs is the definition of a rule, inside a production of the rule's
name. -/
inductive Derives (rules : Rules) : Matcher → List Node → Prop where
  | terminal {spec t} : spec.accepts t = true → Derives rules (.terminal spec) [.terminal t]
  | sequence {ms} {parts : List (List Node)} : List.Forall₂ (Derives rules) ms parts →
      Derives rules (.sequence ms) parts.flatten
  | alternation {ms m cs} : m ∈ ms → Derives rules m cs → Derives rules (.alternation ms) cs
  | optionalNil {m} : Derives rules (.optional m) []
  | optional {m cs} : Derives rules m cs → Derives rules (.optional m) cs
  | repetition {max m} {parts : List (List Node)} : (∀ cs ∈ parts, Derives rules m cs) →
      (∀ cs ∈ parts, 1 ≤ Node.lenAll cs) → (∀ n ∈ max, parts.length ≤ n) →
      Derives rules (.repetition max m) parts.flatten
  | rule {name m cs} : Derives rules m cs → Derives rules (.rule name m) [.named name cs]
  | reference {slot body cs} : rules slot = some (.rule slot.name body) → Derives rules body cs →
      Derives rules (.reference slot) [.named slot.name cs]
  | handle {slot body cs} : rules slot = some (.rule slot.name body) → Derives rules body cs →
      Derives rules (.handle slot) [.named slot.name cs]

/-- A matcher that brings no functions with it. -/
def Matcher.Plain (m : Matcher) : Prop := m.customs = []

section

variable {rules : Rules} {m : Matcher} {ms : List Matcher} {cs cs' : List Node}

theorem Matcher.plain_sequence_cons :
    (Matcher.sequence (m :: ms)).Plain ↔ m.Plain ∧ (Matcher.sequence ms).Plain := by
  simp [Plain, customs, customsAll]

theorem Matcher.plain_alternation_cons :
    (Matcher.alternation (m :: ms)).Plain ↔ m.Plain ∧ (Matcher.alternation ms).Plain := by
  simp [Plain, customs, customsAll]

theorem Derives.sequence_cons (h : Derives rules m cs) (hs : Derives rules (.sequence ms) cs') :
    Derives rules (.sequence (m :: ms)) (cs ++ cs') := by
  cases hs with
  | sequence parts => exact .sequence (.cons h parts)

theorem Derives.alternation_cons (h : Derives rules (.alternation ms) cs) :
    Derives rules (.alternation (m :: ms)) cs := by
  cases h with
  | alternation hm h => exact .alternation (List.mem_cons_of_mem _ hm) h

theorem Derives.repetition_nil (max : Option Nat) (m : Matcher) :
    Derives rules (.repetition max m) [] :=
  @Derives.repetition rules max m [] (by simp) (by simp) (by simp)

theorem Derives.repetition_cons {max : Option Nat} (hmax : max ≠ some 0)
    (h : Derives rules m cs) (hl : 1 ≤ Node.lenAll cs)
    (hs : Derives rules (.repetition (max.map (· - 1)) m) cs') :
    Derives rules (.repetition max m) (cs ++ cs') := by
  cases hs with
  | @repetition _ _ parts hp hlen hn =>
    refine @Derives.repetition rules max m (cs :: parts) ?_ ?_ ?_
    · exact List.forall_mem_cons.mpr ⟨h, hp⟩
    · exact List.forall_mem_cons.mpr ⟨hl, hlen⟩
    · rintro n rfl
      have hpos : n ≠ 0 := fun hz => hmax (by rw [hz])
      have := hn (n - 1) rfl
      rw [List.length_cons]
      omega

theorem Derives.rule_inv {name : String} (h : Derives rules (.rule name m) cs) :
    ∃ cs', cs = [.named name cs'] ∧ Derives rules m cs' := by
  cases h with
  | rule h => exact ⟨_, rfl, h⟩

/-- Each step of a match adds one part to the derivation of what was found behind it. -/
theorem Matches.derives {ts : List Token} {found : Option Node} (h : Matches rules m ts found)
    (wrapped : rules.Wrapped) (own : m.Plain) (others : rules.All Matcher.Plain) :
    ∀ node ∈ found, Derives rules m node.spliced := by
  induction h with
  | terminalHit ha =>
    rintro _ ⟨⟩
    exact .terminal ha
  | terminalMiss | terminalEnd | sequenceMiss | sequenceBreak | alternationNil | ruleMiss
  | referenceDead | handleDead => simp
  | sequenceNil =>
    rintro _ ⟨⟩
    exact .sequence .nil
  | sequenceCons _ _ ih ih' =>
    obtain ⟨hm, hms⟩ := plain_sequence_cons.mp own
    rintro _ ⟨⟩
    rw [Node.spliced_group_pair]
    exact .sequence_cons (ih hm _ rfl) (ih' hms _ rfl)
  | alternationHit _ ih =>
    intro node hnode
    exact .alternation List.mem_cons_self (ih (plain_alternation_cons.mp own).1 node hnode)
  | alternationMiss _ _ _ ih =>
    intro node hnode
    exact (ih (plain_alternation_cons.mp own).2 node hnode).alternation_cons
  | optionalHit _ ih =>
    rintro _ ⟨⟩
    simpa [Node.group, Node.spliced] using Derives.optional (ih own _ rfl)
  | optionalMiss =>
    rintro _ ⟨⟩
    exact .optionalNil
  | repetitionEnd | repetitionFull | repetitionMiss | repetitionStill =>
    rintro _ ⟨⟩
    exact .repetition_nil _ _
  | repetitionCons hmax _ _ hz _ ih ih' =>
    rintro _ ⟨⟩
    rw [Node.spliced_group_pair]
    refine .repetition_cons hmax (ih own _ rfl) ?_ (ih' own _ rfl)
    rw [Node.lenAll_spliced]
    omega
  | ruleHit _ ih =>
    rintro _ ⟨⟩
    simpa [Node.production, Node.spliced] using Derives.rule (ih own _ rfl)
  | @reference slot _ _ _ hr _ ih =>
    intro node hnode
    obtain ⟨body, rfl⟩ := wrapped slot _ hr
    obtain ⟨cs, hcs, hd⟩ := (ih (others slot _ hr) node hnode).rule_inv
    rw [hcs]
    exact .reference hr hd
  | @handle slot _ _ _ hr _ ih =>
    intro node hnode
    obtain ⟨body, rfl⟩ := wrapped slot _ hr
    obtain ⟨cs, hcs, hd⟩ := (ih (others slot _ hr) node hnode).rule_inv
    rw [hcs]
    exact .handle hr hd
  | custom => simp [Plain, customs] at own

/-- The children that a given node hands to its parent are derived by the matcher. -/
theorem Matcher.gives_derives {ts : List Token} {node : Node} (wrapped : rules.Wrapped)
    (own : m.Plain) (others : rules.All Matcher.Plain) (h : m.Gives rules ts (some node)) :
    Derives rules m node.spliced :=
  (matches_of_gives h).derives wrapped own others node rfl

end

section Lists

theorem listWorkspace_wrapped (word : Matcher) : (listWorkspace word).Wrapped := by
  intro t ht name m hm
  obtain rfl := List.mem_singleton.mp ht
  rcases mem_listTable_slots hm with ⟨rfl, rfl⟩ | ⟨rfl, rfl⟩
  · exact ⟨_, rfl⟩
  · exact ⟨_, rfl⟩

theorem listTable_plain {word : Matcher} (h : word.Plain) :
    ∀ name m, (name, some m) ∈ (listTable word).slots → m.Plain := by
  intro name m hm
  rcases mem_listTable_slots hm with ⟨_, rfl⟩ | ⟨_, rfl⟩
  · simpa [Matcher.Plain, Matcher.customs, Matcher.customsAll] using h
  · rfl

/-- A word, when words are tokens of that kind. -/
def wordTerminal : Matcher := .terminal (.structured "word" none)

theorem wordTerminal_plain : wordTerminal.Plain := rfl

theorem gives_derives_of_list :
    (Matcher.reference ⟨0, "list"⟩).Gives (listWorkspace wordTerminal).rules listTokens
      (some listNode) ∧
    Derives (listWorkspace wordTerminal).rules (.reference ⟨0, "list"⟩) [listNode] := by
  have h : (Matcher.reference ⟨0, "list"⟩).Gives (listWorkspace wordTerminal).rules listTokens
      (some listNode) := ⟨9, by decide⟩
  have plain : (listWorkspace wordTerminal).rules.All Matcher.Plain := by
    refine Workspace.rules_all ?_
    intro t ht
    obtain rfl := List.mem_singleton.mp ht
    exact listTable_plain wordTerminal_plain
  have own : (Matcher.reference ⟨0, "list"⟩).Plain := rfl
  exact ⟨h, Matcher.gives_derives (listWorkspace_wrapped _).rules own plain h⟩

end Lists

end TokenGrammar
