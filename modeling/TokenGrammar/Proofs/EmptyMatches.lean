import Mathlib.Tactic.TFAE
import TokenGrammar.Proofs.Termination

namespace TokenGrammar

open Matcher

namespace Run

variable {α β : Type}

theorem bind_congr {x : Run α} {f g : α → Run β} (h : ∀ a, x.answer? = some a → f a = g a) :
    x >>= f = x >>= g := by
  change Run.bind x f = Run.bind x g
  cases x with
  | none => rfl
  | some p =>
    obtain ⟨a, log⟩ := p
    simp only [Run.bind, h a rfl]

end Run

namespace Recognizer

variable {r : Recognizer} {ts : List Token}

/-- Behind a recognizer that does not fail no other one is asked. -/
theorem firstFrom_cut (h : (r ts).answer? ≠ some none) (before after : List Recognizer)
    (index : Nat) :
    firstFrom index (before ++ r :: after) ts = firstFrom index (before ++ [r]) ts := by
  induction before generalizing index with
  | nil =>
    refine Run.bind_congr ?_
    intro found hfound
    cases found with
    | none => exact absurd hfound h
    | some node => rfl
  | cons b before ih =>
    refine Run.bind_congr ?_
    intro found _
    cases found with
    | none => exact ih (index + 1)
    | some node => rfl

theorem firstFrom_ne_none (h : (r ts).answer? ≠ some none) (before after : List Recognizer)
    (index : Nat) : (firstFrom index (before ++ r :: after) ts).answer? ≠ some none := by
  intro hnone
  induction before generalizing index with
  | nil =>
    rw [List.nil_append, firstFrom, Run.answer_bind, Option.bind_eq_some_iff] at hnone
    obtain ⟨found, hfound, hrest⟩ := hnone
    cases found with
    | none => exact h hfound
    | some node => cases hrest
  | cons b before ih =>
    rw [List.cons_append, firstFrom, Run.answer_bind, Option.bind_eq_some_iff] at hnone
    obtain ⟨found, _, hrest⟩ := hnone
    cases found with
    | none => exact ih (index + 1) hrest
    | some node => cases hrest

/-- An alternation is cut off behind an alternative that does not fail, its events included. -/
theorem alternation_cut (h : (r ts).answer? ≠ some none) (before after : List Recognizer) :
    alternation (before ++ r :: after) ts = alternation (before ++ [r]) ts := by
  unfold alternation
  rw [firstFrom_cut h before after 0]
  refine Run.bind_congr ?_
  intro found hfound
  cases found with
  | none => exact absurd hfound (firstFrom_ne_none h before [] 0)
  | some p => rfl

end Recognizer

section

variable {rules : Rules} {m : Matcher} {ms : List Matcher} {ts : List Token}

theorem Node.restOf_nil (node : Node) : node.restOf [] = [] := List.drop_nil

/-- On no tokens every part of a sequence is matched on no tokens. -/
theorem Matches.sequence_hit_nil {group : Node}
    (h : Matches rules (.sequence (m :: ms)) [] (some group)) :
    (∃ node, Matches rules m [] (some node)) ∧
      ∃ tail, Matches rules (.sequence ms) [] (some tail) := by
  cases h with
  | sequenceCons hm hms =>
    rw [Node.restOf_nil] at hms
    exact ⟨⟨_, hm⟩, ⟨_, hms⟩⟩

theorem Matches.sequence_miss_nil (h : Matches rules (.sequence (m :: ms)) [] none) :
    Matches rules m [] none ∨ Matches rules (.sequence ms) [] none := by
  cases h with
  | sequenceMiss hm => exact .inl hm
  | sequenceBreak _ hms =>
    rw [Node.restOf_nil] at hms
    exact .inr hms

/-- What fails somewhere fails on no tokens: a failure on some tokens leads to the failure of one
part after the other, and each of them fails on no tokens too. -/
theorem Matches.miss_nil {found : Option Node} (h : Matches rules m ts found) (own : m.Plain)
    (others : rules.All Matcher.Plain) (miss : found = none) (node : Node) :
    ¬ Matches rules m [] (some node) := by
  induction h generalizing node with
  | terminalHit | sequenceNil | sequenceCons | alternationHit | optionalHit | optionalMiss
  | repetitionEnd | repetitionFull | repetitionMiss | repetitionStill | repetitionCons
  | ruleHit => cases miss
  | terminalMiss | terminalEnd => nofun
  | sequenceMiss _ ih =>
    intro hnil
    obtain ⟨⟨first, hm⟩, _⟩ := hnil.sequence_hit_nil
    exact ih (plain_sequence_cons.mp own).1 rfl first hm
  | sequenceBreak _ _ _ ih =>
    intro hnil
    obtain ⟨_, tail, hms⟩ := hnil.sequence_hit_nil
    exact ih (plain_sequence_cons.mp own).2 rfl tail hms
  | alternationNil => nofun
  | alternationMiss _ _ ih ih' =>
    obtain ⟨hm, hms⟩ := plain_alternation_cons.mp own
    intro hnil
    cases hnil with
    | alternationHit hhit => exact ih hm rfl node hhit
    | alternationMiss _ hhit => exact ih' hms miss node hhit
  | ruleMiss _ ih =>
    intro hnil
    cases hnil with
    | ruleHit hhit => exact ih own rfl _ hhit
  | @reference slot body _ _ hr _ ih =>
    intro hnil
    cases hnil with
    | reference hr' hhit =>
      obtain rfl := Option.some.inj (hr.symm.trans hr')
      exact ih (others _ _ hr) miss node hhit
  | @handle slot body _ _ hr _ ih =>
    intro hnil
    cases hnil with
    | handle hr' hhit =>
      obtain rfl := Option.some.inj (hr.symm.trans hr')
      exact ih (others _ _ hr) miss node hhit
  | referenceDead hr =>
    intro hnil
    cases hnil with
    | reference hr' _ => cases hr.symm.trans hr'
  | handleDead hr =>
    intro hnil
    cases hnil with
    | handle hr' _ => cases hr.symm.trans hr'
  | custom => simp [Plain, customs] at own

/-- What matches without a token somewhere does not fail on no tokens. -/
theorem Matches.still_nil {found : Option Node} (h : Matches rules m ts found) (own : m.Plain)
    (others : rules.All Matcher.Plain) (still : ∃ node ∈ found, node.len = 0) :
    ¬ Matches rules m [] none := by
  induction h with
  | terminalMiss | terminalEnd | sequenceMiss | sequenceBreak | alternationNil | ruleMiss
  | referenceDead | handleDead => simp at still
  | terminalHit => simp [Node.len] at still
  | sequenceNil | optionalHit | optionalMiss | repetitionEnd | repetitionFull | repetitionMiss
  | repetitionStill | repetitionCons =>
    intro hnil
    cases hnil
  | sequenceCons _ _ ih ih' =>
    obtain ⟨hm, hms⟩ := plain_sequence_cons.mp own
    obtain ⟨_, ⟨rfl⟩, hz⟩ := still
    simp only [Node.len_group, Node.lenAll] at hz
    intro hnil
    rcases hnil.sequence_miss_nil with hmiss | hmiss
    · exact ih hm ⟨_, rfl, by omega⟩ hmiss
    · exact ih' hms ⟨_, rfl, by omega⟩ hmiss
  | alternationHit _ ih =>
    intro hnil
    cases hnil with
    | alternationMiss hmiss _ => exact ih (plain_alternation_cons.mp own).1 still hmiss
  | alternationMiss _ _ _ ih =>
    intro hnil
    cases hnil with
    | alternationMiss _ hmiss => exact ih (plain_alternation_cons.mp own).2 still hmiss
  | ruleHit _ ih =>
    obtain ⟨_, ⟨rfl⟩, hz⟩ := still
    intro hnil
    cases hnil with
    | ruleMiss hmiss => exact ih own ⟨_, rfl, by simpa [Node.production, Node.len] using hz⟩ hmiss
  | reference hr _ ih =>
    intro hnil
    cases hnil with
    | reference hr' hmiss =>
      obtain rfl := Option.some.inj (hr.symm.trans hr')
      exact ih (others _ _ hr) still hmiss
    | referenceDead hr' => cases hr.symm.trans hr'
  | handle hr _ ih =>
    intro hnil
    cases hnil with
    | handle hr' hmiss =>
      obtain rfl := Option.some.inj (hr.symm.trans hr')
      exact ih (others _ _ hr) still hmiss
    | handleDead hr' => cases hr.symm.trans hr'
  | custom => simp [Plain, customs] at own

/-- The matcher finds something at the front of `ts`. -/
def Matcher.Finds (rules : Rules) (m : Matcher) (ts : List Token) : Prop :=
  ∃ node, m.Gives rules ts (some node)

theorem Matcher.Finds.all (own : m.Plain) (others : rules.All Matcher.Plain)
    (h : m.Finds rules []) (ends : m.Ends rules ts) : m.Finds rules ts := by
  obtain ⟨node, hnil⟩ := h
  obtain ⟨found, hts⟩ := ends
  cases found with
  | none => exact absurd (matches_of_gives hnil) ((matches_of_gives hts).miss_nil own others rfl _)
  | some node' => exact ⟨node', hts⟩

theorem Matcher.finds_nil_of_still (own : m.Plain) (others : rules.All Matcher.Plain)
    (ends : m.Ends rules []) {node : Node} (h : m.Gives rules ts (some node))
    (hz : node.len = 0) : m.Finds rules [] := by
  obtain ⟨found, hnil⟩ := ends
  cases found with
  | none =>
    exact absurd (matches_of_gives hnil)
      ((matches_of_gives h).still_nil own others ⟨node, rfl, hz⟩)
  | some node' => exact ⟨node', hnil⟩

/-- A finished run of a matcher that finds something is not a failure, with whatever fuel. -/
theorem Matcher.Finds.run_ne_none (h : m.Finds rules ts) (fuel : Nat) :
    (m.run rules fuel ts).answer? ≠ some none := by
  intro hnone
  obtain ⟨node, hf⟩ := h
  cases hf.unique ⟨fuel, hnone⟩

/-- For a matcher without functions of its own that comes to an end on every token list, it is one
thing to find something on no tokens, to find something without taking a token, and to find
something everywhere. An alternation that has such an alternative runs as if nothing stood behind
it. -/
theorem Matcher.finds_nil_tfae (own : m.Plain) (others : rules.All Matcher.Plain)
    (ends : ∀ ts, m.Ends rules ts) :
    List.TFAE [m.Finds rules [],
      ∃ ts node, m.Gives rules ts (some node) ∧ node.len = 0,
      ∀ ts, m.Finds rules ts] ∧
    (m.Finds rules [] → ∀ before after fuel ts,
      (Matcher.alternation (before ++ m :: after)).run rules fuel ts =
        (Matcher.alternation (before ++ [m])).run rules fuel ts) := by
  have everywhere (h : m.Finds rules []) (ts : List Token) : m.Finds rules ts :=
    h.all own others (ends ts)
  refine ⟨?_, ?_⟩
  · tfae_have 1 → 3 := everywhere
    tfae_have 3 → 2 := by
      intro h
      obtain ⟨node, hnil⟩ := h []
      have hfront := (matches_of_gives hnil).front own.honest
        (fun slot m hr => (others slot m hr).honest) node rfl
      exact ⟨[], node, hnil, Nat.le_zero.mp (Node.frontOf_iff.mpr hfront).len_le⟩
    tfae_have 2 → 1 := by
      rintro ⟨ts, node, h, hz⟩
      exact finds_nil_of_still own others (ends []) h hz
    tfae_finish
  · intro h before after fuel ts
    have hm := (everywhere h ts).run_ne_none fuel
    simp only [run, denote, denoteAll_eq_map, List.map_append, List.map_cons, List.map_nil]
    exact Recognizer.alternation_cut hm _ _

end

section Lists

/-- Any number of items of a list. -/
def listItems : Matcher := .repetition none (.reference ⟨0, "item"⟩)

/-- Items of lists stand before words; there may be none, so the words are never looked for. -/
theorem finds_nil_of_list_items :
    (∀ ts, listItems.Ends ((listTable wordTerminal).rulesAs 0) ts) ∧
    (∀ ts, listItems.Finds ((listTable wordTerminal).rulesAs 0) ts) ∧
    ∀ fuel ts, (Matcher.alternation [wordTerminal, listItems, wordTerminal]).run
        ((listTable wordTerminal).rulesAs 0) fuel ts =
      (Matcher.alternation [wordTerminal, listItems]).run
        ((listTable wordTerminal).rulesAs 0) fuel ts := by
  have others := listTable_closed.all_plain
  have own : listItems.Plain := rfl
  have ends (ts : List Token) : listItems.Ends ((listTable wordTerminal).rulesAs 0) ts :=
    ends_of_acyclic (fun _ _ hr => List.mem_toFinset.mpr (RuleTable.mem_slotsAs hr)) others
      listTable_leftAcyclic own ts
  have nil : listItems.Finds ((listTable wordTerminal).rulesAs 0) [] := ⟨_, 0, rfl⟩
  obtain ⟨same, cut⟩ := Matcher.finds_nil_tfae own others ends
  exact ⟨ends, (same.out 0 2).mp nil, cut nil [wordTerminal] [wordTerminal]⟩

end Lists

end TokenGrammar
