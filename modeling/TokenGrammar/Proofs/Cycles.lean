import Mathlib.Data.Set.Finite.Basic

namespace TokenGrammar

variable {α : Type} {r r' : α → α → Prop}

/-- Among finitely many things, a way without cycles comes to an end. -/
theorem wellFounded_of_acyclic (acyclic : ∀ a, ¬ Relation.TransGen r a a) {s : Finset α}
    (hs : ∀ a b, r a b → b ∈ s) : WellFounded r := by
  have within : WellFounded (fun a b : s => Relation.TransGen r a.1 b.1) := by
    have : IsTrans s (fun a b => Relation.TransGen r a.1 b.1) :=
      ⟨fun _ _ _ hab hbc => hab.trans hbc⟩
    have : Std.Irrefl (fun a b : s => Relation.TransGen r a.1 b.1) := ⟨fun a => acyclic a.1⟩
    exact Finite.wellFounded_of_trans_of_irrefl _
  have outside (b : α) (hb : b ∉ s) : Acc r b := ⟨_, fun a hab => absurd (hs a b hab) hb⟩
  have inside (b : s) : Acc r b.1 := by
    induction b using within.induction with
    | _ b ih =>
      refine ⟨_, ?_⟩
      intro a hab
      by_cases ha : a ∈ s
      · exact ih ⟨a, ha⟩ (.single hab)
      · exact outside a ha
  refine ⟨?_⟩
  intro b
  by_cases hb : b ∈ s
  · exact inside ⟨b, hb⟩
  · exact outside b hb

/-- A new step is no part of a cycle, for no step leads to where it starts. -/
theorem acyclic_of_new_starts (new : α → Prop) (hold : ∀ a b, r' a b → r a b ∨ new a)
    (hnew : ∀ a b, r' a b → ¬ new b) (acyclic : ∀ a, ¬ Relation.TransGen r a a) (a : α) :
    ¬ Relation.TransGen r' a a := by
  have target {a b : α} (hab : Relation.TransGen r' a b) : ¬ new b := by
    obtain ⟨c, _, hcb⟩ := Relation.TransGen.tail'_iff.mp hab
    exact hnew c b hcb
  have path {a b : α} (hab : Relation.TransGen r' a b) (ha : ¬ new a) :
      Relation.TransGen r a b := by
    induction hab with
    | single hab => exact .single ((hold _ _ hab).resolve_right ha)
    | tail hab hbc ih => exact ih.tail ((hold _ _ hbc).resolve_right (target hab))
  intro hcycle
  exact acyclic a (path hcycle (target hcycle))

end TokenGrammar
