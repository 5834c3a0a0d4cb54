import TokenGrammar.Proofs.Lockstep
import TokenGrammar.Proofs.Splicing

namespace TokenGrammar

/-- The functions agree on `s` and on every rest of it, down to the empty list. Combinators hand on
a token list or what is left of it behind some nodes, and that is a rest of it, however many tokens
the nodes claim. -/
def AgreeOn (s : List Token) (f g : List Token → Option Node) : Prop :=
  ∀ rest, rest <:+ s → f rest = g rest

namespace Matcher

/-- Two functions as matchers, which agree on `s` and its rests. -/
inductive SameOn (s : List Token) : Matcher → Matcher → Prop where
  | custom {f g} : AgreeOn s f g → SameOn s (.custom f) (.custom g)

/-- The second matcher is the first one with other functions in some places, each of which agrees on
`s` and its rests with the function that it replaces. -/
def Refitted (s : List Token) : Matcher → Matcher → Prop := Variant (· = ·) (SameOn s)

variable {s : List Token} {m m' : Matcher}

theorem SameOn.owned_eq (h : SameOn s m m') : m.owned = m'.owned := by
  cases h
  rfl

theorem SameOn.denote_eq (h : SameOn s m m') (link link' : Slot → Recognizer) {rest : List Token}
    (hr : rest <:+ s) : m.denote link rest = m'.denote link' rest := by
  cases h with
  | custom hagree => simp only [denote, Recognizer.ofFn, hagree rest hr]

theorem Refitted.refl (s : List Token) (m : Matcher) : m.Refitted s m :=
  Variant.refl (fun _ => rfl) m

theorem Refitted.mem_owned (h : m.Refitted s m') (id : Nat) : id ∈ m.owned ↔ id ∈ m'.owned :=
  Variant.mem_owned (fun _ _ hs => hs.owned_eq) h id

/-- The rules may be refitted too, since a run over `s` follows all links on `s` or rests of it. -/
theorem Refitted.run_eq {rules rules' : Rules}
    (hrules : ∀ slot, Option.Rel (Refitted s) (rules slot) (rules' slot))
    (h : m.Refitted s m') (fuel : Nat) : m.run rules fuel s = m'.run rules' fuel s := by
  have hbound (max max' : Option Nat) (hb : max = max') (r : Recognizer) (rest : List Token)
      (_ : rest <:+ s) : Recognizer.repetition max r rest = Recognizer.repetition max' r rest := by
    rw [hb]
  apply Variant.run_eq hbound ?_ hrules h
  intro old new hs link link' rest hr
  exact hs.denote_eq link link' hr

end Matcher

/-- The workspaces differ at most in functions that agree on `s` and its rests, in rules and in
matchers that are kept. -/
structure Workspace.Refitted (s : List Token) (w w' : Workspace) : Prop where
  tables : List.Forall₂ (RuleTable.Rel (Matcher.Refitted s)) w.tables w'.tables
  opened : w.opened = w'.opened
  compiled : w.compiled = w'.compiled
  matchers : Named.Rel (Matcher.Refitted s) w.matchers w'.matchers

namespace Workspace

variable {w w' : Workspace} {ts : List Token} {m m' : Matcher}

theorem Refitted.rules (h : w.Refitted ts w') (slot : Slot) :
    Option.Rel (Matcher.Refitted ts) (w.rules slot) (w'.rules slot) :=
  rules_rel (fun _ _ hm => hm.mem_owned) h.tables (by rw [h.opened]) (by rw [h.compiled])
    h.matchers slot

theorem Refitted.run_eq (h : w.Refitted ts w') (hm : m.Refitted ts m') :
    w.run m ts = w'.run m' ts :=
  run_eq_of_fuel (hm.run_eq h.rules)

/-- The functions in matchers and rules are asked about the token list and its rests, and nothing
else: where others agree with them on these, and whatever any of them claims to have found, the same
is found, with the same events, or matching comes to an end in neither case. That goes for every
matcher, for the start rules of grammars and for their parses. -/
theorem functions_see_rests (h : w.Refitted ts w') :
    (∀ m m', m.Refitted ts m' → w.run m ts = w'.run m' ts ∧
      ∀ found, m.Gives w.rules ts found ↔ m'.Gives w'.rules ts found) ∧
    (∀ name, w.matchStart name ts = w'.matchStart name ts) ∧
    ∀ name, w.parse name ts = w'.parse name ts := by
  have hstart (slot : Slot) : w.run (.handle slot) ts = w'.run (.handle slot) ts :=
    h.run_eq (.refl ts _)
  refine ⟨?_, ?_, ?_⟩
  · intro m m' hm
    refine ⟨h.run_eq hm, fun found => ?_⟩
    rw [← run_iff_gives, ← run_iff_gives, h.run_eq hm]
  · intro name
    simp only [matchStart, h.compiled, hstart]
  · intro name
    simp only [parse, h.compiled, hstart]

end Workspace

section Claims

open Workspace

/-- Finds what `claimGroups` does in the tokens of a list and its rests, and nothing elsewhere. -/
def claimNearby (ts : List Token) : Option Node :=
  if ts <:+ listTokens then claimGroups ts else none

theorem claimNearby_agrees : AgreeOn listTokens claimGroups claimNearby := by
  intro rest hr
  rw [claimNearby, if_pos hr]

/-- A node that claims two tokens where one is left does not make a rule look elsewhere. -/
theorem functions_see_rests_on_claims :
    AgreeOn listTokens claimGroups claimNearby ∧
    claimGroups (listTokens.take 1) ≠ claimNearby (listTokens.take 1) ∧
    (listWorkspace (.custom claimGroups)).matchStart "lists" listTokens =
      (listWorkspace (.custom claimNearby)).matchStart "lists" listTokens := by
  have hword : (Matcher.custom claimGroups).Refitted listTokens (.custom claimNearby) :=
    .swap (.custom claimNearby_agrees)
  have hitem : (Matcher.alternation [.reference ⟨0, "list"⟩, .custom claimGroups]).Refitted
      listTokens (.alternation [.reference ⟨0, "list"⟩, .custom claimNearby]) :=
    .alternation (.cons .reference (.cons hword .nil))
  have htable : (listTable (.custom claimGroups)).Rel (Matcher.Refitted listTokens)
      (listTable (.custom claimNearby)) :=
    .cons ⟨rfl, .some (.rule hitem)⟩ (.cons ⟨rfl, .some (.refl listTokens _)⟩ .nil)
  have h : (listWorkspace (.custom claimGroups)).Refitted listTokens
      (listWorkspace (.custom claimNearby)) := ⟨.cons htable .nil, rfl, rfl, .nil⟩
  exact ⟨claimNearby_agrees, by decide, (functions_see_rests h).2.1 "lists"⟩

end Claims

end TokenGrammar
