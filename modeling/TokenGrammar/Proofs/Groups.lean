import TokenGrammar.Proofs.Fuel
import TokenGrammar.Proofs.History
import TokenGrammar.Proofs.Links
import TokenGrammar.Proofs.Matches

namespace TokenGrammar

namespace Node

/-- The first node stands strictly below the second. -/
inductive Below : Node → Node → Prop where
  | child {c node} : c ∈ node.contents → Below c node
  | deeper {inner c node} : Below inner c → c ∈ node.contents → Below inner node

/-- No anonymous node stands strictly below this one. -/
def Tidy (node : Node) : Prop := ∀ inner : Node, inner.Below node → inner.isAnonymous = false

/-- There is no anonymous node in the tree, its root included. -/
def Groupless (node : Node) : Prop := node.isAnonymous = false ∧ node.Tidy

/-- A production of the rule `name` without a group anywhere. -/
def RuleTree (name : String) (node : Node) : Prop :=
  (∃ contents, node = .named name contents) ∧ node.Groupless

variable {node : Node} {children : List Node}

theorem tidy_iff : node.Tidy ↔ ∀ c ∈ node.contents, c.Groupless := by
  constructor
  · intro h c hc
    exact ⟨h c (.child hc), fun inner hi => h inner (.deeper hi hc)⟩
  · intro h inner hi
    cases hi with
    | child hc => exact (h _ hc).1
    | deeper hi hc => exact (h _ hc).2 inner hi

theorem tidy_terminal (t : Token) : (terminal t).Tidy := tidy_iff.mpr nofun

/-- What a parent takes of a tidy node has no groups. -/
theorem Tidy.spliced (h : node.Tidy) : ∀ c ∈ node.spliced, c.Groupless := by
  cases node with
  | anonymous rule cs => exact tidy_iff.mp h
  | named | terminal =>
    intro c hc
    obtain rfl := List.mem_singleton.mp hc
    exact ⟨rfl, h⟩

theorem groupless_of_spliced (h : ∀ c ∈ children, c.Tidy) :
    ∀ c ∈ children.flatMap spliced, c.Groupless := by
  intro c hc
  obtain ⟨child, hchild, hc⟩ := List.mem_flatMap.mp hc
  exact (h child hchild).spliced c hc

theorem tidy_group (name : String) (h : ∀ c ∈ children, c.Tidy) : (group name children).Tidy :=
  tidy_iff.mpr (groupless_of_spliced h)

theorem tidy_pair {tail : Node} (name : String) (h : node.Tidy) (ht : tail.Tidy) :
    (group name [node, tail]).Tidy :=
  tidy_group name (List.forall_mem_cons.mpr ⟨h, List.forall_mem_singleton.mpr ht⟩)

theorem tidy_production (name : String) (h : ∀ c ∈ children, c.Tidy) :
    (production name children).Tidy :=
  tidy_iff.mpr (groupless_of_spliced h)

end Node

/-- The functions that a matcher brings with it give tidy nodes only. -/
def Matcher.TidyCustoms (m : Matcher) : Prop :=
  ∀ f ∈ m.customs, ∀ ts, ∀ node ∈ f ts, node.Tidy

section

variable {rules : Matcher.Rules} {m : Matcher} {ts : List Token}

/-- A group is taken by its contents, which takes away one level of groups only; but what a
combinator takes is tidy already. -/
theorem Matches.tidy {found : Option Node} (h : Matches rules m ts found)
    (own : m.TidyCustoms) (others : rules.All Matcher.TidyCustoms) :
    ∀ node ∈ found, node.Tidy := by
  induction h with
  | terminalHit =>
    rintro _ ⟨⟩
    exact Node.tidy_terminal _
  | terminalMiss | terminalEnd | sequenceMiss | sequenceBreak | alternationNil | ruleMiss
  | referenceDead | handleDead => simp
  | sequenceNil | optionalMiss | repetitionEnd | repetitionFull | repetitionMiss
  | repetitionStill =>
    rintro _ ⟨⟩
    exact Node.tidy_group _ nofun
  | sequenceCons _ _ ih ih' =>
    obtain ⟨hm, hms⟩ := Matcher.customs_cons.mp own
    rintro _ ⟨⟩
    exact Node.tidy_pair _ (ih hm _ rfl) (ih' hms _ rfl)
  | alternationHit _ ih => exact ih (Matcher.customs_cons.mp own).1
  | alternationMiss _ _ _ ih => exact ih (Matcher.customs_cons.mp own).2
  | optionalHit _ ih =>
    rintro _ ⟨⟩
    exact Node.tidy_group _ (List.forall_mem_singleton.mpr (ih own _ rfl))
  | repetitionCons _ _ _ _ _ ih ih' =>
    rintro _ ⟨⟩
    exact Node.tidy_pair _ (ih own _ rfl) (ih' own _ rfl)
  | ruleHit _ ih =>
    rintro _ ⟨⟩
    exact Node.tidy_production _ (List.forall_mem_singleton.mpr (ih own _ rfl))
  | reference hr _ ih | handle hr _ ih => exact ih (others _ _ hr)
  | custom => exact own _ List.mem_cons_self _

theorem Matcher.Throughout.tidy {node : Node} (h : m.Throughout rules Matcher.TidyCustoms)
    (hg : m.Gives rules ts (some node)) : node.Tidy := by
  obtain ⟨rules', others, hg'⟩ := h.gives hg
  exact (matches_of_gives hg').tidy h.1 others node rfl

/-- What a rule gives is a production of its name. -/
theorem Matches.ruleTree {slot : Slot} {node : Node} (wrapped : rules.Wrapped)
    (h : Matches rules (.handle slot) ts (some node)) (tidy : node.Tidy) :
    node.RuleTree slot.name := by
  cases h with
  | handle hr hm =>
    obtain ⟨body, rfl⟩ := wrapped slot _ hr
    cases hm with
    | ruleHit _ => exact ⟨⟨_, rfl⟩, rfl, tidy⟩

end

namespace Workspace

variable {w : Workspace} {slot : Slot} {ts : List Token} {node : Node}

theorem ruleTree_of_run (hw : w.Wrapped)
    (h : (Matcher.handle slot).Throughout w.rules Matcher.TidyCustoms)
    (hrun : (w.run (.handle slot) ts).answer? = some (some node)) : node.RuleTree slot.name := by
  have hg := (run_iff_gives w _ ts _).mp hrun
  exact (matches_of_gives hg).ruleTree hw.rules (h.tidy hg)

theorem ok_of_parseOutcome {settings : Settings} {found : Option Node}
    (h : parseOutcome settings ts found = .ok node) : found = some node := by
  unfold parseOutcome at h
  split at h
  · cases h
  · split at h <;> cases h
    rfl

theorem ruleMatcher_handle {name rule : String} {m : Matcher}
    (h : w.ruleMatcher name rule = .ok (some m)) : ∃ id, m = .handle ⟨id, rule⟩ := by
  unfold ruleMatcher at h
  split at h
  · cases h
  · rename_i g _
    obtain ⟨_, _, he⟩ := Option.map_eq_some_iff.mp (Except.ok.inj h)
    exact ⟨g.table, he.symm⟩

/-- If the functions that a matcher and the rules behind it bring with them give no node with a
group strictly below its root, then neither does the matcher. A compiled grammar's match and parse
then are productions of the start rule with no group at all, and what a matcher handed out for a
rule finds is such a production of that rule, whatever is called before it runs. -/
theorem groups_dissolve :
    (∀ (rules : Matcher.Rules) (m : Matcher) (ts : List Token) (node : Node),
      m.Throughout rules Matcher.TidyCustoms → m.Gives rules ts (some node) → node.Tidy) ∧
    ∀ w : Workspace, empty.Becomes w →
      (∀ name g, w.compiled.lookup name = some g →
        (Matcher.handle ⟨g.table, g.start⟩).Throughout w.rules Matcher.TidyCustoms →
        ∀ (ts : List Token) (node : Node),
          (∀ run, w.matchStart name ts = .ok run → run.answer? = some (some node) →
            node.RuleTree g.start) ∧
          ∀ run, w.parse name ts = .ok run → run.answer? = some (.ok node) →
            node.RuleTree g.start) ∧
      ∀ name rule m w', w.ruleMatcher name rule = .ok (some m) → w.Becomes w' →
        m.Throughout w'.rules Matcher.TidyCustoms → ∀ (ts : List Token) (node : Node),
          (w'.run m ts).answer? = some (some node) → node.RuleTree rule := by
  refine ⟨fun rules m ts node h hg => h.tidy hg, ?_⟩
  intro w hw
  have hwrapped : w.Wrapped := hw.wrapped wrapped_empty
  refine ⟨?_, ?_⟩
  · intro name g hc h ts node
    refine ⟨?_, ?_⟩
    · intro run hm ha
      simp only [matchStart, hc, Except.ok.injEq] at hm
      subst hm
      exact ruleTree_of_run hwrapped h ha
    · intro run hp ha
      simp only [parse, hc, Except.ok.injEq] at hp
      subst hp
      rw [Run.answer_bind, Option.bind_eq_some_iff] at ha
      obtain ⟨found, hfound, ha⟩ := ha
      obtain rfl := ok_of_parseOutcome (Option.some.inj ha)
      exact ruleTree_of_run hwrapped h hfound
  · intro name rule m w' hm hw' h ts node ha
    obtain ⟨id, rfl⟩ := ruleMatcher_handle hm
    exact ruleTree_of_run (hw'.wrapped hwrapped) h ha

end Workspace

/-- A group that a function gives inside a group stays in the tree. -/
example : ((Matcher.sequence [.custom (fun _ => some (.group "outer" [.anonymous "outer"
    [.anonymous "inner" []]]))]).run (fun _ => none) 0 []).answer? =
      some (some (.anonymous "<sequence>" [.anonymous "inner" []])) := rfl

section Lists

open Matcher

/-- A function that takes one token, in a group. -/
def takeGroup : List Token → Option Node
  | [] => none
  | t :: _ => some (.group "any" [.terminal t])

theorem takeGroup_tidy : (custom takeGroup).TidyCustoms := by
  intro f hf ts node hnode
  obtain rfl := List.mem_singleton.mp hf
  cases ts with
  | nil => cases hnode
  | cons t ts =>
    cases hnode
    exact Node.tidy_group _ (List.forall_mem_singleton.mpr (Node.tidy_terminal t))

theorem listsCompiled_tidy : listsCompiled.rules.All TidyCustoms := by
  intro slot m hr f hf
  rw [listsCompiled_customs slot m hr] at hf
  cases hf

theorem groups_dissolve_on_lists :
    Node.Tidy (.named "pair" [.terminal ⟨"mark", "("⟩, .terminal ⟨"word", "a"⟩]) ∧
      listNode.RuleTree "list" ∧
      (Node.named "item" [.terminal ⟨"word", "a"⟩]).RuleTree "item" := by
  have hall (slot : Slot) : (handle slot).Throughout listsCompiled.rules TidyCustoms :=
    throughout_of_all (fun f hf => nomatch hf) listsCompiled_tidy
  obtain ⟨hany, hcompiled⟩ := Workspace.groups_dissolve
  obtain ⟨hstart, hrule⟩ := hcompiled listsCompiled becomes_listsCompiled
  refine ⟨?_, ?_, ?_⟩
  · have hpair : (rule "pair" (.sequence [.custom takeGroup, .optional (.custom takeGroup)])).Gives
        (fun _ => none) listTokens
        (some (.named "pair" [.terminal ⟨"mark", "("⟩, .terminal ⟨"word", "a"⟩])) := ⟨0, rfl⟩
    refine hany _ _ _ _ (throughout_of_all ?_ (by simp [Rules.All])) hpair
    intro f hf
    have : f = takeGroup := by simpa [customs, customsAll] using hf
    exact this ▸ takeGroup_tidy takeGroup List.mem_cons_self
  · exact (hstart "lists" ⟨0, "list", {}⟩ rfl (hall _) (listTokens.take 5) listNode).2 _ rfl rfl
  · exact hrule "lists" "item" (.handle ⟨0, "item"⟩) listsCompiled rfl (.refl _) (hall _)
      (listTokens.drop 1) _ rfl

end Lists

end TokenGrammar
