import TokenGrammar.Proofs.Cycles
import TokenGrammar.Proofs.Derivations

namespace TokenGrammar

open Matcher

/-- The matchers that may take no token, as far as their shape and the rules tell. -/
inductive Nullable (rules : Rules) : Matcher → Prop where
  | sequence {ms} : (∀ m ∈ ms, Nullable rules m) → Nullable rules (.sequence ms)
  | alternation {ms m} : m ∈ ms → Nullable rules m → Nullable rules (.alternation ms)
  | optional {m} : Nullable rules (.optional m)
  | repetition {max m} : Nullable rules (.repetition max m)
  | rule {name m} : Nullable rules m → Nullable rules (.rule name m)
  | reference {slot m} : rules slot = some m → Nullable rules m → Nullable rules (.reference slot)
  | handle {slot m} : rules slot = some m → Nullable rules m → Nullable rules (.handle slot)

/-- A link to `slot` stands in the matcher where no earlier part of a sequence has to take a
token. -/
inductive LeftRefers (rules : Rules) (slot : Slot) : Matcher → Prop where
  | sequenceHead {m ms} : LeftRefers rules slot m → LeftRefers rules slot (.sequence (m :: ms))
  | sequenceTail {m ms} : Nullable rules m → LeftRefers rules slot (.sequence ms) →
      LeftRefers rules slot (.sequence (m :: ms))
  | alternation {ms m} : m ∈ ms → LeftRefers rules slot m → LeftRefers rules slot (.alternation ms)
  | optional {m} : LeftRefers rules slot m → LeftRefers rules slot (.optional m)
  | repetition {max m} : LeftRefers rules slot m → LeftRefers rules slot (.repetition max m)
  | rule {name m} : LeftRefers rules slot m → LeftRefers rules slot (.rule name m)
  | reference : LeftRefers rules slot (.reference slot)
  | handle : LeftRefers rules slot (.handle slot)

/-- The rule of slot `a` may run slot `b` before it takes a token. -/
def LeftReaches (rules : Rules) (a b : Slot) : Prop :=
  ∃ m, rules a = some m ∧ LeftRefers rules b m

/-- No slot reaches itself before a token is taken. -/
def LeftAcyclic (rules : Rules) : Prop :=
  ∀ slot, ¬ Relation.TransGen (LeftReaches rules) slot slot

section

variable {rules : Rules} {m : Matcher} {ms : List Matcher}

theorem Nullable.sequence_cons (h : Nullable rules m) (hs : Nullable rules (.sequence ms)) :
    Nullable rules (.sequence (m :: ms)) := by
  cases hs with
  | sequence hs => exact .sequence (List.forall_mem_cons.mpr ⟨h, hs⟩)

theorem Nullable.alternation_cons (h : Nullable rules (.alternation ms)) :
    Nullable rules (.alternation (m :: ms)) := by
  cases h with
  | alternation hm h => exact .alternation (List.mem_cons_of_mem _ hm) h

theorem LeftRefers.alternation_cons {slot : Slot} (hs : LeftRefers rules slot (.alternation ms)) :
    LeftRefers rules slot (.alternation (m :: ms)) := by
  cases hs with
  | alternation hm hs => exact .alternation (List.mem_cons_of_mem _ hm) hs

/-- What takes no token in a match is nullable. -/
theorem Matches.nullable {ts : List Token} {found : Option Node} (h : Matches rules m ts found)
    (own : m.Plain) (others : rules.All Matcher.Plain) :
    ∀ node ∈ found, node.len = 0 → Nullable rules m := by
  induction h with
  | terminalHit =>
    rintro _ ⟨⟩ hz
    cases hz
  | terminalMiss | terminalEnd | sequenceMiss | sequenceBreak | alternationNil | ruleMiss
  | referenceDead | handleDead => simp
  | sequenceNil => exact fun _ _ _ => .sequence (by simp)
  | sequenceCons _ _ ih ih' =>
    obtain ⟨hm, hms⟩ := plain_sequence_cons.mp own
    rintro _ ⟨⟩ hz
    simp only [Node.len_group, Node.lenAll] at hz
    exact .sequence_cons (ih hm _ rfl (by omega)) (ih' hms _ rfl (by omega))
  | alternationHit _ ih =>
    intro node hnode hz
    exact .alternation List.mem_cons_self (ih (plain_alternation_cons.mp own).1 node hnode hz)
  | alternationMiss _ _ _ ih =>
    intro node hnode hz
    exact (ih (plain_alternation_cons.mp own).2 node hnode hz).alternation_cons
  | optionalHit | optionalMiss => exact fun _ _ _ => .optional
  | repetitionEnd | repetitionFull | repetitionMiss | repetitionStill | repetitionCons =>
    exact fun _ _ _ => .repetition
  | ruleHit _ ih =>
    rintro _ ⟨⟩ hz
    exact .rule (ih own _ rfl (by simpa [Node.production, Node.len] using hz))
  | reference hr _ ih => exact fun node hnode hz => .reference hr (ih (others _ _ hr) node hnode hz)
  | handle hr _ ih => exact fun node hnode hz => .handle hr (ih (others _ _ hr) node hnode hz)
  | custom => simp [Plain, customs] at own

/-- A rank that falls along every way to the left leaves no cycle. -/
theorem LeftAcyclic.of_rank (rank : Slot → Nat)
    (h : ∀ a b, LeftReaches rules a b → rank b < rank a) : LeftAcyclic rules := by
  have falls {a b : Slot} (hab : Relation.TransGen (LeftReaches rules) a b) :
      rank b < rank a := by
    induction hab with
    | single hab => exact h _ _ hab
    | tail _ hbc ih => exact (h _ _ hbc).trans ih
  exact fun slot hcycle => Nat.lt_irrefl _ (falls hcycle)

/-- Among finitely many rules, ways to the left that never come back cannot go on for ever. -/
theorem LeftAcyclic.wellFounded {slots : Finset Slot} (h : LeftAcyclic rules)
    (hslots : ∀ slot m, rules slot = some m → slot ∈ slots) :
    WellFounded (fun b a => LeftReaches rules a b) := by
  refine wellFounded_of_acyclic (s := slots) ?_ ?_
  · intro slot hcycle
    exact h slot (Relation.transGen_swap.mp hcycle)
  · rintro next slot ⟨m, hr, _⟩
    exact hslots slot m hr

end

end TokenGrammar
