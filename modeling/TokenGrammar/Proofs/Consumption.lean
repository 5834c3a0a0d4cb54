import TokenGrammar.Proofs.Matches
import TokenGrammar.Proofs.Tables

namespace TokenGrammar

/-- The node takes up the front of `ts`, and leaves exactly what stands behind that. -/
structure Node.FrontOf (node : Node) (ts : List Token) : Prop where
  len_le : node.len ≤ ts.length
  terminals_eq : node.terminals = ts.take node.len
  append_rest : node.terminals ++ node.restOf ts = ts

namespace Node

variable {node : Node} {ts : List Token}

theorem restOf_append (node : Node) (rest : List Token) :
    node.restOf (node.terminals ++ rest) = rest := by
  rw [restOf, ← length_terminals, List.drop_left]

theorem frontOf_iff : node.FrontOf ts ↔ node.terminals <+: ts := by
  constructor
  · intro h
    exact ⟨node.restOf ts, h.append_rest⟩
  · rintro ⟨rest, rfl⟩
    refine ⟨?_, ?_, ?_⟩
    · simp [← length_terminals]
    · rw [← length_terminals, List.take_left]
    · rw [restOf_append]

/-- A group of a node and a tail takes what the node takes, and then what the tail takes. -/
theorem frontOf_cons {tail : Node} (h : node.terminals <+: ts)
    (ht : tail.terminals <+: node.restOf ts) (name : String) :
    (Node.group name [node, tail]).terminals <+: ts := by
  obtain ⟨rest, rfl⟩ := h
  rw [restOf_append] at ht
  obtain ⟨rest', rfl⟩ := ht
  exact ⟨rest', by simp [terminals_group, terminalsAll]⟩

end Node

/-- The functions that a matcher brings with it take only what is there. -/
def Matcher.Honest (m : Matcher) : Prop :=
  ∀ f ∈ m.customs, ∀ ts node, f ts = some node → node.FrontOf ts

section

variable {rules : Matcher.Rules} {m : Matcher} {ts : List Token}

theorem Matches.front {found : Option Node} (h : Matches rules m ts found) (own : m.Honest)
    (others : rules.All Matcher.Honest) :
    ∀ node ∈ found, node.terminals <+: ts := by
  induction h with
  | terminalHit => simp [Node.terminals]
  | terminalMiss | terminalEnd | sequenceMiss | sequenceBreak | alternationNil | ruleMiss
  | referenceDead | handleDead => simp
  | sequenceNil | optionalMiss | repetitionEnd | repetitionFull | repetitionMiss
  | repetitionStill => simp [Node.terminals_group, Node.terminalsAll]
  | sequenceCons _ _ ih ih' =>
    obtain ⟨hm, hms⟩ := Matcher.customs_cons.mp own
    rintro _ ⟨⟩
    exact Node.frontOf_cons (ih hm _ rfl) (ih' hms _ rfl) _
  | alternationHit _ ih => exact ih (Matcher.customs_cons.mp own).1
  | alternationMiss _ _ _ ih => exact ih (Matcher.customs_cons.mp own).2
  | optionalHit _ ih =>
    rintro _ ⟨⟩
    simpa [Node.terminals_group, Node.terminalsAll] using ih own _ rfl
  | repetitionCons _ _ _ _ _ ih ih' =>
    rintro _ ⟨⟩
    exact Node.frontOf_cons (ih own _ rfl) (ih' own _ rfl) _
  | ruleHit _ ih =>
    rintro _ ⟨⟩
    simpa [Node.production, Node.terminals] using ih own _ rfl
  | reference hr _ ih | handle hr _ ih => exact ih (others _ _ hr)
  | custom =>
    intro node hnode
    exact Node.frontOf_iff.mp (own _ List.mem_cons_self _ _ hnode)

/-- A node that a matcher gives takes exactly the front of the list, if each function that the
matcher or a rule brings with it keeps to that. -/
theorem Matcher.gives_front {node : Node} (own : m.Honest)
    (others : rules.All Matcher.Honest)
    (h : m.Gives rules ts (some node)) : node.FrontOf ts :=
  Node.frontOf_iff.mpr ((matches_of_gives h).front own others node rfl)

end

section Lists

/-- A function that takes one word. -/
def takeWord : List Token → Option Node
  | ⟨"word", value⟩ :: _ => some (.terminal ⟨"word", value⟩)
  | _ => none

theorem takeWord_honest : (Matcher.custom takeWord).Honest := by
  intro f hf ts node h
  obtain rfl := List.mem_singleton.mp hf
  unfold takeWord at h
  split at h
  · cases h
    exact Node.frontOf_iff.mpr ⟨_, rfl⟩
  · cases h

theorem listWorkspace_rules_honest :
    (listWorkspace (.custom takeWord)).rules.All Matcher.Honest := by
  refine Workspace.rules_all ?_
  intro t ht name m hm
  obtain rfl := List.mem_singleton.mp ht
  rcases mem_listTable_slots hm with ⟨_, rfl⟩ | ⟨_, rfl⟩
  · exact takeWord_honest
  · exact nofun

/-- Words taken by a function, in lists of lists. -/
theorem gives_front_of_list :
    (Matcher.reference ⟨0, "list"⟩).Gives (listWorkspace (.custom takeWord)).rules listTokens
      (some listNode) ∧ listNode.FrontOf listTokens := by
  have h : (Matcher.reference ⟨0, "list"⟩).Gives (listWorkspace (.custom takeWord)).rules
      listTokens (some listNode) := ⟨9, by decide⟩
  have own : (Matcher.reference ⟨0, "list"⟩).Honest := by simp [Matcher.Honest, Matcher.customs]
  exact ⟨h, Matcher.gives_front own listWorkspace_rules_honest h⟩

end Lists

end TokenGrammar
