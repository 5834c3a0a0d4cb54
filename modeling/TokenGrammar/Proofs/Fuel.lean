import Mathlib.Data.Finset.Prod
import TokenGrammar.Proofs.Tables

namespace TokenGrammar

open Matcher

/-- One link more than `fuel` finishes nothing new on `s` or a rest of it. -/
def Settled (rules : Rules) (s : List Token) (fuel : Nat) : Prop :=
  ∀ slot, Recognizer.Below s (follow rules (fuel + 1) slot) (follow rules fuel slot)

/-- The slots that `fuel` links finish, each with the number of tokens before the rest of `s` that
it is finished on. -/
def finished (rules : Rules) (slots : Finset Slot) (s : List Token) (fuel : Nat) :
    Finset (Slot × Nat) :=
  (slots ×ˢ Finset.range (s.length + 1)).filter
    (fun p => (follow rules fuel p.1 (s.drop p.2)).answer?.isSome)

section

variable {rules : Rules} {slots : Finset Slot} {s : List Token} {fuel : Nat}

theorem Settled.add (h : Settled rules s fuel) (more : Nat) (slot : Slot) :
    Recognizer.Below s (follow rules (fuel + more) slot) (follow rules fuel slot) := by
  induction more generalizing slot with
  | zero => exact fun ts _ => .refl _
  | succ more ih => exact (follow_succ_below ih slot).trans (h slot)

theorem finished_mono {fuel' : Nat} (le : fuel ≤ fuel') :
    finished rules slots s fuel ⊆ finished rules slots s fuel' := by
  intro p hp
  obtain ⟨hmem, hf⟩ := Finset.mem_filter.mp hp
  obtain ⟨found, ha⟩ := Option.isSome_iff_exists.mp hf
  have := (follow_below rules s le p.1 _ (List.drop_suffix _ _)).answer ha
  exact Finset.mem_filter.mpr ⟨hmem, by rw [this]; rfl⟩

theorem finished_card_le (rules : Rules) (slots : Finset Slot) (s : List Token) (fuel : Nat) :
    (finished rules slots s fuel).card ≤ slots.card * (s.length + 1) := by
  have := Finset.card_filter_le (slots ×ˢ Finset.range (s.length + 1))
    (fun p => (follow rules fuel p.1 (s.drop p.2)).answer?.isSome)
  rwa [Finset.card_product, Finset.card_range] at this

/-- A slot without a rule is finished by the first link, so what is new belongs to a rule. -/
theorem settled_or_grows (hslots : ∀ slot m, rules slot = some m → slot ∈ slots) (fuel : Nat) :
    Settled rules s (fuel + 1) ∨
      (finished rules slots s (fuel + 1)).card < (finished rules slots s (fuel + 2)).card := by
  by_cases hs : Settled rules s (fuel + 1)
  · exact .inl hs
  · right
    simp only [Settled, Recognizer.Below, Run.Below, not_forall] at hs
    obtain ⟨slot, ts, hts, p, hp, hn⟩ := hs
    have hdrop : s.drop (s.length - ts.length) = ts := (List.suffix_iff_eq_drop.mp hts).symm
    have hslot : slot ∈ slots := by
      cases hr : rules slot with
      | none => simp [follow, hr] at hp hn; exact absurd hp hn
      | some m => exact hslots slot m hr
    have hle := follow_below rules s (Nat.le_succ (fuel + 1)) slot ts hts
    apply Finset.card_lt_card
    rw [Finset.ssubset_iff_of_subset (finished_mono (Nat.le_succ _))]
    refine ⟨(slot, s.length - ts.length), ?_, ?_⟩
    · refine Finset.mem_filter.mpr ⟨Finset.mem_product.mpr ⟨hslot, ?_⟩, ?_⟩
      · exact Finset.mem_range.mpr (by omega)
      · dsimp only
        rw [hdrop, hp]
        rfl
    · intro hmem
      have hf := (Finset.mem_filter.mp hmem).2
      dsimp only at hf
      rw [hdrop] at hf
      cases hq : follow rules (fuel + 1) slot ts with
      | none => rw [hq] at hf; cases hf
      | some q => exact hn (hq.trans ((hle q hq).symm.trans hp))

/-- What grows with every link cannot grow beyond the pairs of a rule and a rest. -/
theorem settled_within (hslots : ∀ slot m, rules slot = some m → slot ∈ slots) :
    ∃ k ≤ slots.card * (s.length + 1), Settled rules s (k + 1) := by
  by_contra hno
  have grows : ∀ n ≤ slots.card * (s.length + 1) + 1,
      n ≤ (finished rules slots s (n + 1)).card := by
    intro n hn
    induction n with
    | zero => exact Nat.zero_le _
    | succ n ih =>
      rcases settled_or_grows hslots n with hs | hlt
      · exact absurd ⟨n, by omega, hs⟩ hno
      · have := ih (by omega)
        exact Nat.lt_of_le_of_lt this hlt
  have hlast := grows _ (Nat.le_refl _)
  have := finished_card_le rules slots s (slots.card * (s.length + 1) + 1 + 1)
  omega

theorem follow_enough (hslots : ∀ slot m, rules slot = some m → slot ∈ slots) {enough : Nat}
    (le : slots.card * (s.length + 1) + 1 ≤ enough) (fuel : Nat) (slot : Slot) :
    Recognizer.Below s (follow rules fuel slot) (follow rules enough slot) := by
  obtain ⟨k, hk, hs⟩ := settled_within (s := s) hslots
  have hup := follow_below rules s (show fuel ≤ k + 1 + fuel by omega) slot
  have hdown := follow_below rules s (show k + 1 ≤ enough by omega) slot
  exact (hup.trans (hs.add fuel slot)).trans hdown

end

namespace Workspace

variable {w : Workspace}

theorem slots_card_le (w : Workspace) (ts : List Token) :
    w.slots.toFinset.card * (ts.length + 1) + 1 ≤ w.enough ts := by
  have hcard := List.toFinset_card_le w.slots
  rw [slots_length] at hcard
  have := Nat.mul_le_mul_right (ts.length + 1) hcard
  rw [enough, Nat.mul_comm (ts.length + 1)]
  omega

/-- Whatever fuel a match comes to an end with, the links that a workspace allows are enough. -/
theorem below_run (w : Workspace) (m : Matcher) (fuel : Nat) (ts : List Token) :
    (m.run w.rules fuel ts).Below (w.run m ts) := by
  have hslots : ∀ slot m, w.rules slot = some m → slot ∈ w.slots.toFinset :=
    fun slot m hr => List.mem_toFinset.mpr (mem_slots_of_rules hr)
  have hle := follow_enough (s := ts) hslots (w.slots_card_le ts) fuel
  rw [run_eq]
  exact denote_below hle m ts (List.suffix_refl ts)

/-- Where two matchers run alike under the rules of two workspaces whatever the fuel, they run alike
in them. -/
theorem run_eq_of_fuel {w' : Workspace} {m m' : Matcher} {ts : List Token}
    (h : ∀ fuel, m.run w.rules fuel ts = m'.run w'.rules fuel ts) : w.run m ts = w'.run m' ts := by
  apply Run.Below.antisymm
  · rw [run_eq, h]
    exact w'.below_run m' (w.enough ts) ts
  · rw [run_eq w', ← h]
    exact w.below_run m (w'.enough ts) ts

/-- A reference runs its rule, events and end included. -/
theorem run_reference {slot : Slot} {m : Matcher} (h : w.rules slot = some m) (ts : List Token) :
    w.run (.reference slot) ts = w.run m ts := by
  have hlink (fuel : Nat) : (Matcher.reference slot).run w.rules (fuel + 1) ts =
      m.run w.rules fuel ts := by
    simp only [Matcher.run, denote, follow, h]
  obtain ⟨fuel, hfuel⟩ : ∃ fuel, w.enough ts = fuel + 1 := ⟨_, rfl⟩
  apply Run.Below.antisymm
  · rw [run_eq, hfuel, hlink]
    exact w.below_run m fuel ts
  · rw [run_eq w m, ← hlink]
    exact w.below_run (.reference slot) (w.enough ts + 1) ts

theorem run_reference_of_none {slot : Slot} (h : w.rules slot = none) (ts : List Token) :
    w.run (.reference slot) ts = return none := by
  obtain ⟨fuel, hfuel⟩ : ∃ fuel, w.enough ts = fuel + 1 := ⟨_, rfl⟩
  simp only [run_eq, hfuel, Matcher.run, denote, follow, h]

/-- A run of a workspace answers what the matcher gives under the rules in force, and it answers
whenever matching comes to an end. -/
theorem run_iff_gives (w : Workspace) (m : Matcher) (ts : List Token) (found : Option Node) :
    (w.run m ts).answer? = some found ↔ m.Gives w.rules ts found := by
  constructor
  · intro h
    exact ⟨w.enough ts, h⟩
  · rintro ⟨fuel, hf⟩
    exact (w.below_run m fuel ts).answer hf

end Workspace

end TokenGrammar
