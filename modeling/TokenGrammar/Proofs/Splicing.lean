import TokenGrammar.Proofs.Answers
import TokenGrammar.Proofs.Fuel
import TokenGrammar.Proofs.Matches

namespace TokenGrammar

/-- The parts that are left to a parent, `some none` for a failure, and `none` where the run does
not come to an end. What the combinators leave depends on what their arguments leave and on nothing
else. -/
abbrev Yield := List Token → Option (Option (List Node))

namespace Yield

/-- A match without parts, everywhere. -/
def nothing : Yield := fun _ => some (some [])

def failure : Yield := fun _ => some none

/-- The parts of the first, and behind these the parts of the second. -/
def andThen (a b : Yield) : Yield := fun ts =>
  match a ts with
  | none => none
  | some none => some none
  | some (some parts) => (b (ts.drop (Node.lenAll parts))).map (Option.map (parts ++ ·))

/-- The parts of the second where the first fails. -/
def orElse (a b : Yield) : Yield := fun ts =>
  match a ts with
  | some none => b ts
  | found => found

/-- The parts of `a` as often as it does not fail and takes a token, at most `allowed` times. -/
def iterate (a : Yield) : Nat → Yield
  | 0 => nothing
  | allowed + 1 => fun ts =>
    if ts = [] then some (some [])
    else
      match a ts with
      | none => none
      | some none => some (some [])
      | some (some parts) =>
        if Node.lenAll parts = 0 then some (some [])
        else (iterate a allowed (ts.drop (Node.lenAll parts))).map (Option.map (parts ++ ·))

variable (a b c : Yield)

theorem nothing_andThen : nothing.andThen a = a := by
  funext ts
  simp only [andThen, nothing, Node.lenAll, List.drop_zero, List.nil_append]
  rcases a ts with _ | _ | parts <;> rfl

theorem andThen_nothing : a.andThen nothing = a := by
  funext ts
  simp only [andThen, nothing]
  rcases a ts with _ | _ | parts <;> simp

/-- Dropping the tokens of all parts is dropping those of the first and then those of the others,
also where they are more than there are. -/
theorem andThen_assoc : (a.andThen b).andThen c = a.andThen (b.andThen c) := by
  funext ts
  simp only [andThen]
  rcases a ts with _ | _ | parts
  · rfl
  · rfl
  · dsimp only
    rcases b (ts.drop (Node.lenAll parts)) with _ | _ | parts'
    · rfl
    · rfl
    · simp [Node.lenAll_append, List.drop_drop, Function.comp_def]

theorem failure_orElse : failure.orElse a = a := rfl

theorem orElse_failure : a.orElse failure = a := by
  funext ts
  simp only [orElse, failure]
  rcases a ts with _ | _ | parts <;> rfl

theorem orElse_assoc : (a.orElse b).orElse c = a.orElse (b.orElse c) := by
  funext ts
  simp only [orElse]
  rcases a ts with _ | _ | parts <;> rfl

end Yield

namespace Recognizer

open Run

/-- What the recognizer leaves to a parent. -/
def yields (r : Recognizer) : Yield := fun ts => (r ts).answer?.map (Option.map Node.spliced)

variable {r : Recognizer} {rs : List Recognizer}

theorem yields_sequence_nil : (sequence []).yields = .nothing := rfl

theorem yields_sequence_cons :
    (sequence (r :: rs)).yields = r.yields.andThen (sequence rs).yields := by
  funext ts
  simp only [yields, Yield.andThen, answer_sequence_cons]
  rcases (r ts).answer? with _ | _ | node
  · rfl
  · rfl
  · simp only [Option.bind_some, Option.map_some, Option.map_map, Node.lenAll_spliced]
    congr 1
    funext tail
    cases tail with
    | none => rfl
    | some tail => simp

theorem yields_alternation_nil : (alternation []).yields = .failure := rfl

theorem yields_alternation_cons :
    (alternation (r :: rs)).yields = r.yields.orElse (alternation rs).yields := by
  funext ts
  simp only [yields, Yield.orElse, answer_alternation_cons]
  rcases (r ts).answer? with _ | _ | node <;> rfl

theorem yields_optional : (optional r).yields = r.yields.orElse .nothing := by
  funext ts
  simp only [yields, Yield.orElse, answer_optional]
  rcases (r ts).answer? with _ | _ | node
  · rfl
  · rfl
  · simp [Node.group, Node.spliced]

/-- With a bound of `n`, or without one on at most `n` tokens, there are at most `n` iterations. -/
theorem yields_repetition_of_le {max : Option Nat} {n : Nat} {ts : List Token}
    (henough : max = none → ts.length ≤ n) (hbound : ∀ m ∈ max, m = n) :
    (repetition max r).yields ts = r.yields.iterate n ts := by
  have stop {max : Option Nat} {ts : List Token} (h : ts = [] ∨ max = some 0) :
      (repetition max r).yields ts = some (some []) := by
    rw [yields, answer_repetition_stop r h]
    rfl
  induction n generalizing max ts with
  | zero =>
    refine stop ?_
    cases max with
    | none => exact .inl (List.eq_nil_of_length_eq_zero (Nat.le_zero.mp (henough rfl)))
    | some m => exact .inr (congrArg some (hbound m rfl))
  | succ n ih =>
    by_cases hts : ts = []
    · rw [stop (.inl hts), hts]
      rfl
    · have hmax : max ≠ some 0 := fun hm => Nat.succ_ne_zero n (hbound 0 hm).symm
      simp only [yields, answer_repetition_step r hmax hts, Yield.iterate, hts, ↓reduceIte]
      rcases (r ts).answer? with _ | _ | node
      · rfl
      · rfl
      · by_cases hz : node.len = 0
        · simp [hz]
        · have hlt := length_restOf_lt hts hz
          have hrest : (repetition (max.map (· - 1)) r).yields (node.restOf ts) =
              r.yields.iterate n (node.restOf ts) := by
            refine ih ?_ ?_
            · intro hnone
              have := henough (Option.map_eq_none_iff.mp hnone)
              omega
            · intro m hm
              obtain ⟨k, hk, rfl⟩ := Option.map_eq_some_iff.mp hm
              rw [hbound k hk, Nat.add_sub_cancel]
          rw [Node.restOf] at hrest
          simp [hz, ← hrest, Node.restOf, yields, Function.comp_def]

theorem yields_repetition (max : Option Nat) : (repetition max r).yields =
    fun ts => r.yields.iterate (max.getD ts.length) ts := by
  funext ts
  exact yields_repetition_of_le (fun hm => by simp [hm])
    (fun m hm => by simp [Option.mem_def.mp hm])

end Recognizer

namespace Workspace

open Matcher

/-- How a link runs by itself. -/
def link (w : Workspace) (slot : Slot) : Recognizer := w.run (.reference slot)

theorem answer_denote_link (w : Workspace) (m : Matcher) (ts : List Token) :
    (m.denote w.link ts).answer? = (w.run m ts).answer? := by
  apply Option.ext
  intro found
  constructor
  · intro h
    have hlink (slot : Slot) : Sound w.rules (.reference slot) (w.link slot) ∧
        Sound w.rules (.handle slot) (w.link slot) := by
      refine ⟨fun rest found hs => ?_, fun rest found hs => ?_⟩
      · exact matches_of_gives ((w.run_iff_gives _ rest found).mp hs)
      · exact matches_of_gives ((w.run_iff_gives (.handle slot) rest found).mp hs)
    exact (w.run_iff_gives m ts found).mpr (gives_of_matches (sound_denote hlink m ts found h))
  · intro h
    have hlink (slot : Slot) :
        Recognizer.Below ts (follow w.rules (w.enough ts) slot) (w.link slot) :=
      fun rest _ => w.below_run (.reference slot) (w.enough ts) rest
    exact (denote_below hlink m ts (List.suffix_refl ts)).answer h

/-- What a matcher leaves to a parent. -/
def yields (w : Workspace) (m : Matcher) : Yield := Recognizer.yields (w.run m)

variable (w : Workspace) (m : Matcher) (ms ms' : List Matcher)

theorem yields_eq_denote : w.yields m = (m.denote w.link).yields := by
  funext ts
  rw [yields, Recognizer.yields, Recognizer.yields, answer_denote_link]

theorem yields_sequence_nil : w.yields (.sequence []) = .nothing := rfl

theorem yields_sequence_cons :
    w.yields (.sequence (m :: ms)) = (w.yields m).andThen (w.yields (.sequence ms)) := by
  simp only [yields_eq_denote, denote, denoteAll, Recognizer.yields_sequence_cons]

theorem yields_sequence_append : w.yields (.sequence (ms ++ ms')) =
    (w.yields (.sequence ms)).andThen (w.yields (.sequence ms')) := by
  induction ms with
  | nil => rw [List.nil_append, yields_sequence_nil, Yield.nothing_andThen]
  | cons m ms ih =>
    rw [List.cons_append, yields_sequence_cons, yields_sequence_cons, ih, Yield.andThen_assoc]

theorem yields_alternation_nil : w.yields (.alternation []) = .failure := rfl

theorem yields_alternation_cons :
    w.yields (.alternation (m :: ms)) = (w.yields m).orElse (w.yields (.alternation ms)) := by
  simp only [yields_eq_denote, denote, denoteAll, Recognizer.yields_alternation_cons]

theorem yields_alternation_append : w.yields (.alternation (ms ++ ms')) =
    (w.yields (.alternation ms)).orElse (w.yields (.alternation ms')) := by
  induction ms with
  | nil => rw [List.nil_append, yields_alternation_nil, Yield.failure_orElse]
  | cons m ms ih =>
    rw [List.cons_append, yields_alternation_cons, yields_alternation_cons, ih,
      Yield.orElse_assoc]

theorem yields_optional : w.yields (.optional m) = (w.yields m).orElse .nothing := by
  simp only [yields_eq_denote, denote, Recognizer.yields_optional]

theorem yields_repetition (max : Option Nat) : w.yields (.repetition max m) =
    fun ts => (w.yields m).iterate (max.getD ts.length) ts := by
  simp only [yields_eq_denote, denote, Recognizer.yields_repetition]

/-- A rule finds a production of what its body leaves. -/
theorem answer_run_rule (name : String) (ts : List Token) :
    (w.run (.rule name m) ts).answer? = (w.yields m ts).map (Option.map (Node.named name)) := by
  rw [← answer_denote_link, yields_eq_denote, Recognizer.yields, denote,
    Recognizer.answer_rule, Option.map_map, Option.map_comp_map]
  simp [Function.comp_def, Node.production]

/-- On every token list both matchers fail, or both find something and leave the same parts to a
parent. -/
def Interchangeable (w : Workspace) (m m' : Matcher) : Prop :=
  ∀ ts, w.yields m ts = w.yields m' ts

variable {w m} {m' : Matcher}

theorem Interchangeable.of_eq (h : w.yields m = w.yields m') : w.Interchangeable m m' :=
  fun ts => congrFun h ts

theorem Interchangeable.sequence (h : w.Interchangeable m m') (before after : List Matcher) :
    w.Interchangeable (.sequence (before ++ m :: after)) (.sequence (before ++ m' :: after)) := by
  apply Interchangeable.of_eq
  rw [yields_sequence_append, yields_sequence_append, yields_sequence_cons, yields_sequence_cons,
    funext h]

theorem Interchangeable.alternation (h : w.Interchangeable m m') (before after : List Matcher) :
    w.Interchangeable (.alternation (before ++ m :: after))
      (.alternation (before ++ m' :: after)) := by
  apply Interchangeable.of_eq
  rw [yields_alternation_append, yields_alternation_append, yields_alternation_cons,
    yields_alternation_cons, funext h]

theorem Interchangeable.optional (h : w.Interchangeable m m') :
    w.Interchangeable (.optional m) (.optional m') := by
  apply Interchangeable.of_eq
  rw [yields_optional, yields_optional, funext h]

theorem Interchangeable.repetition (h : w.Interchangeable m m') (max : Option Nat) :
    w.Interchangeable (.repetition max m) (.repetition max m') := by
  apply Interchangeable.of_eq
  rw [yields_repetition, yields_repetition, funext h]

theorem yields_sequence_singleton (w : Workspace) (m : Matcher) :
    w.yields (.sequence [m]) = w.yields m := by
  rw [yields_sequence_cons, yields_sequence_nil, Yield.andThen_nothing]

theorem yields_alternation_singleton (w : Workspace) (m : Matcher) :
    w.yields (.alternation [m]) = w.yields m := by
  rw [yields_alternation_cons, yields_alternation_nil, Yield.orElse_failure]

/-- Matchers that leave the same parts can be put in each other's place in every combinator, and in
a rule nothing at all tells them apart. A sequence or an alternation of one matcher is that matcher,
an option is a choice between its body and nothing, and a sequence among the parts of a sequence, or
an alternation among the alternatives of one, can be replaced by its own parts. -/
theorem grouping_unobservable (w : Workspace) :
    (∀ m m', w.Interchangeable m m' →
      (∀ before after, w.Interchangeable (.sequence (before ++ m :: after))
        (.sequence (before ++ m' :: after))) ∧
      (∀ before after, w.Interchangeable (.alternation (before ++ m :: after))
        (.alternation (before ++ m' :: after))) ∧
      w.Interchangeable (.optional m) (.optional m') ∧
      (∀ max, w.Interchangeable (.repetition max m) (.repetition max m')) ∧
      ∀ name ts, (w.run (.rule name m) ts).answer? = (w.run (.rule name m') ts).answer?) ∧
    (∀ m, w.Interchangeable m (.sequence [m]) ∧ w.Interchangeable m (.alternation [m]) ∧
      w.Interchangeable (.optional m) (.alternation [m, .sequence []])) ∧
    ∀ before inner after,
      w.Interchangeable (.sequence (before ++ .sequence inner :: after))
        (.sequence (before ++ inner ++ after)) ∧
      w.Interchangeable (.alternation (before ++ .alternation inner :: after))
        (.alternation (before ++ inner ++ after)) := by
  refine ⟨?_, ?_, ?_⟩
  · intro m m' h
    refine ⟨h.sequence, h.alternation, h.optional, h.repetition, ?_⟩
    intro name ts
    rw [answer_run_rule, answer_run_rule, h ts]
  · intro m
    refine ⟨.of_eq ?_, .of_eq ?_, .of_eq ?_⟩
    · rw [yields_sequence_singleton]
    · rw [yields_alternation_singleton]
    · rw [yields_optional, yields_alternation_cons, yields_alternation_singleton,
        yields_sequence_nil]
  · intro before inner after
    refine ⟨.of_eq ?_, .of_eq ?_⟩
    · rw [List.append_assoc, yields_sequence_append, yields_sequence_append,
        yields_sequence_cons, yields_sequence_append]
    · rw [List.append_assoc, yields_alternation_append, yields_alternation_append,
        yields_alternation_cons, yields_alternation_append]

end Workspace

section Groups

open Workspace

/-- A function that finds a group inside a group, with one token more than there is. -/
def claimGroups : List Token → Option Node
  | t :: _ => some (.anonymous "outer" [.anonymous "inner" [.terminal t], .terminal t])
  | [] => none

/-- It may be wrapped in a sequence inside a rule, and the rule finds the same tree. -/
theorem grouping_unobservable_on_claims :
    Workspace.empty.Interchangeable (.custom claimGroups) (.sequence [.custom claimGroups]) ∧
    (Workspace.empty.run (.rule "pair" (.sequence [.custom claimGroups]))
      (listTokens.take 1)).answer? = some (some (.named "pair"
        [.anonymous "inner" [.terminal ⟨"mark", "("⟩], .terminal ⟨"mark", "("⟩])) := by
  obtain ⟨congruent, single, _⟩ := grouping_unobservable .empty
  have h := (single (.custom claimGroups)).1
  have hrule := (congruent _ _ h).2.2.2.2 "pair" (listTokens.take 1)
  exact ⟨h, hrule.symm.trans rfl⟩

end Groups

end TokenGrammar
