import TokenGrammar.Proofs.Runs

namespace TokenGrammar

namespace Matcher

/-- The second matcher is the first one with bounds of repetitions changed as `bound` allows, and
with parts replaced as `swap` allows. -/
inductive Variant (bound : Option Nat → Option Nat → Prop) (swap : Matcher → Matcher → Prop) :
    Matcher → Matcher → Prop where
  | swap {m m'} : swap m m' → Variant bound swap m m'
  | terminal {spec} : Variant bound swap (.terminal spec) (.terminal spec)
  | sequence {ms ms'} : List.Forall₂ (Variant bound swap) ms ms' →
      Variant bound swap (.sequence ms) (.sequence ms')
  | alternation {ms ms'} : List.Forall₂ (Variant bound swap) ms ms' →
      Variant bound swap (.alternation ms) (.alternation ms')
  | optional {m m'} : Variant bound swap m m' → Variant bound swap (.optional m) (.optional m')
  | repetition {max max' m m'} : bound max max' → Variant bound swap m m' →
      Variant bound swap (.repetition max m) (.repetition max' m')
  | rule {name m m'} : Variant bound swap m m' →
      Variant bound swap (.rule name m) (.rule name m')
  | reference {slot} : Variant bound swap (.reference slot) (.reference slot)
  | handle {slot} : Variant bound swap (.handle slot) (.handle slot)
  | custom {f} : Variant bound swap (.custom f) (.custom f)

section

variable {bound : Option Nat → Option Nat → Prop} {swap : Matcher → Matcher → Prop}
  {m m' : Matcher}

/-- Induction over the two matchers at once, one hypothesis for each pair of parts. -/
@[elab_as_elim]
theorem Variant.parts_induction {motive : ∀ m m', Variant bound swap m m' → Prop}
    (swapped : ∀ m m' (hs : swap m m'), motive m m' (.swap hs))
    (terminal : ∀ spec, motive (.terminal spec) (.terminal spec) .terminal)
    (sequence : ∀ ms ms' (hs : List.Forall₂ (Variant bound swap) ms ms'),
      List.Forall₂ (fun m m' => ∃ h, motive m m' h) ms ms' →
      motive (.sequence ms) (.sequence ms') (.sequence hs))
    (alternation : ∀ ms ms' (hs : List.Forall₂ (Variant bound swap) ms ms'),
      List.Forall₂ (fun m m' => ∃ h, motive m m' h) ms ms' →
      motive (.alternation ms) (.alternation ms') (.alternation hs))
    (optional : ∀ m m' (h : Variant bound swap m m'), motive m m' h →
      motive (.optional m) (.optional m') (.optional h))
    (repetition : ∀ max max' m m' (hb : bound max max') (h : Variant bound swap m m'),
      motive m m' h → motive (.repetition max m) (.repetition max' m') (.repetition hb h))
    (rule : ∀ name m m' (h : Variant bound swap m m'), motive m m' h →
      motive (.rule name m) (.rule name m') (.rule h))
    (reference : ∀ slot, motive (.reference slot) (.reference slot) .reference)
    (handle : ∀ slot, motive (.handle slot) (.handle slot) .handle)
    (custom : ∀ f, motive (.custom f) (.custom f) .custom) {m m' : Matcher}
    (h : Variant bound swap m m') : motive m m' h :=
  Variant.rec (motive_1 := motive)
    (motive_2 := fun ms ms' _ => List.Forall₂ (fun m m' => ∃ h, motive m m' h) ms ms')
    (swapped _ _) (terminal _) (sequence _ _) (alternation _ _) (optional _ _)
    (repetition _ _ _ _) (rule _ _ _) (reference _) (handle _) (custom _) .nil
    (fun h _ ih ihs => .cons ⟨h, ih⟩ ihs) h

theorem Variant.refl (hb : ∀ max, bound max max) (m : Matcher) : Variant bound swap m m := by
  have all (ms : List Matcher) (ih : ∀ m ∈ ms, Variant bound swap m m) :
      List.Forall₂ (Variant bound swap) ms ms := List.forall₂_same.mpr ih
  induction m using Matcher.parts_induction with
  | terminal spec => exact .terminal
  | sequence ms ih => exact .sequence (all ms ih)
  | alternation ms ih => exact .alternation (all ms ih)
  | optional m ih => exact .optional ih
  | repetition max m ih => exact .repetition (hb max) ih
  | rule name m ih => exact .rule ih
  | reference slot => exact .reference
  | handle slot => exact .handle
  | custom f => exact .custom

theorem Variant.rel_refl (hb : ∀ max, bound max max) (old : Option Matcher) :
    Option.Rel (Variant bound swap) old old := by
  cases old with
  | none => exact .none
  | some m => exact .some (.refl hb m)

theorem Variant.flip (h : Variant bound swap m m') :
    Variant (fun max max' => bound max' max) (fun m m' => swap m' m) m' m := by
  induction h using Variant.parts_induction with
  | swapped m m' hs => exact .swap hs
  | terminal spec => exact .terminal
  | sequence ms ms' _ ih => exact .sequence (ih.imp (fun _ _ h => h.2)).flip
  | alternation ms ms' _ ih => exact .alternation (ih.imp (fun _ _ h => h.2)).flip
  | optional m m' _ ih => exact .optional ih
  | repetition max max' m m' hb _ ih => exact .repetition hb ih
  | rule name m m' _ ih => exact .rule ih
  | reference slot => exact .reference
  | handle slot => exact .handle
  | custom f => exact .custom

theorem Variant.rel_flip {old new : Option Matcher} (h : Option.Rel (Variant bound swap) old new) :
    Option.Rel (Variant (fun max max' => bound max' max) (fun m m' => swap m' m)) new old := by
  cases h with
  | none => exact .none
  | some h => exact .some h.flip

/-- What a matcher finds in `s` its variant finds too, if that is so for links, for bounds and for
replaced parts. -/
theorem Variant.denote_below {s : List Token} {link link' : Slot → Recognizer}
    (hlink : ∀ slot, Recognizer.Below s (link slot) (link' slot))
    (hbound : ∀ max max' r, bound max max' →
      Recognizer.Below s (Recognizer.repetition max r) (Recognizer.repetition max' r))
    (hswap : ∀ m m', swap m m' → Recognizer.Below s (m.denote link) (m'.denote link'))
    (h : Variant bound swap m m') : Recognizer.Below s (m.denote link) (m'.denote link') := by
  have all {ms ms' : List Matcher}
      (ih : List.Forall₂ (fun m m' => ∃ _ : Variant bound swap m m',
        Recognizer.Below s (m.denote link) (m'.denote link')) ms ms') :
      List.Forall₂ (Recognizer.Below s) (denoteAll link ms) (denoteAll link' ms') := by
    simp only [denoteAll_eq_map, List.forall₂_map_left_iff, List.forall₂_map_right_iff]
    exact ih.imp (fun _ _ h => h.2)
  induction h using Variant.parts_induction with
  | swapped m m' hs => exact hswap m m' hs
  | terminal spec => exact fun ts _ => .refl _
  | sequence ms ms' _ ih => exact .sequence (all ih)
  | alternation ms ms' _ ih => exact .alternation (all ih)
  | optional m m' _ ih => exact ih.optional
  | repetition max max' m m' hb _ ih => exact (ih.repetition max).trans (hbound max max' _ hb)
  | rule name m m' _ ih => exact ih.rule name
  | reference slot => exact hlink slot
  | handle slot => exact hlink slot
  | custom f => exact fun ts _ => .refl _

/-- One link more through rules and through variants of them. -/
theorem Variant.follow_succ_below {s : List Token} {rules rules' : Rules} {fuel fuel' : Nat}
    {slot : Slot} (hlink : ∀ next, Recognizer.Below s (follow rules fuel next)
      (follow rules' fuel' next))
    (hbound : ∀ max max' r, bound max max' →
      Recognizer.Below s (Recognizer.repetition max r) (Recognizer.repetition max' r))
    (hswap : ∀ m m', swap m m' → Recognizer.Below s (m.denote (follow rules fuel))
      (m'.denote (follow rules' fuel')))
    (h : Option.Rel (Variant bound swap) (rules slot) (rules' slot)) :
    Recognizer.Below s (follow rules (fuel + 1) slot) (follow rules' (fuel' + 1) slot) := by
  intro ts hts
  simp only [follow]
  generalize rules slot = old, rules' slot = new at h
  cases h with
  | none => exact .refl _
  | some hv => exact hv.denote_below hlink hbound hswap ts hts

section Same

variable {s : List Token} {rules rules' : Rules}
  (hbound : ∀ max max', bound max max' → ∀ r rest, rest <:+ s →
    Recognizer.repetition max r rest = Recognizer.repetition max' r rest)
  (hswap : ∀ m m', swap m m' → ∀ (link link' : Slot → Recognizer) (rest : List Token),
    rest <:+ s → m.denote link rest = m'.denote link' rest)

include hbound hswap

/-- Bounds and replaced parts that make no difference on `s` and its rests make none to a matcher
there. -/
theorem Variant.denote_eq {link link' : Slot → Recognizer}
    (hlink : ∀ slot rest, rest <:+ s → link slot rest = link' slot rest)
    (h : Variant bound swap m m') {rest : List Token} (hr : rest <:+ s) :
    m.denote link rest = m'.denote link' rest := by
  -- `Below` goes one way only, so the variants are taken in both directions.
  have hto : Recognizer.Below s (m.denote link) (m'.denote link') := by
    refine h.denote_below ?_ ?_ ?_
    · intro slot ts hts
      rw [hlink slot ts hts]
      exact .refl _
    · intro max max' r hb ts hts
      rw [hbound max max' hb r ts hts]
      exact .refl _
    · intro old new hs ts hts
      rw [hswap old new hs link link' ts hts]
      exact .refl _
  have hfrom : Recognizer.Below s (m'.denote link') (m.denote link) := by
    refine h.flip.denote_below ?_ ?_ ?_
    · intro slot ts hts
      rw [hlink slot ts hts]
      exact .refl _
    · intro max' max r hb ts hts
      rw [hbound max max' hb r ts hts]
      exact .refl _
    · intro new old hs ts hts
      rw [hswap old new hs link link' ts hts]
      exact .refl _
  exact (hto rest hr).antisymm (hfrom rest hr)

/-- However deep the rules lead into each other, every link is followed on a rest of `s`. -/
theorem Variant.follow_eq
    (h : ∀ slot, Option.Rel (Variant bound swap) (rules slot) (rules' slot)) (fuel : Nat)
    (slot : Slot) {rest : List Token} (hr : rest <:+ s) :
    follow rules fuel slot rest = follow rules' fuel slot rest := by
  induction fuel generalizing slot rest with
  | zero => rfl
  | succ fuel ih =>
    have hslot := h slot
    simp only [follow]
    generalize rules slot = old, rules' slot = new at hslot
    cases hslot with
    | none => rfl
    | some hm => exact hm.denote_eq hbound hswap (fun slot ts hts => ih slot hts) hr

theorem Variant.run_eq (hrules : ∀ slot, Option.Rel (Variant bound swap) (rules slot) (rules' slot))
    (h : Variant bound swap m m') (fuel : Nat) : m.run rules fuel s = m'.run rules' fuel s :=
  h.denote_eq hbound hswap (fun slot _ hr => follow_eq hbound hswap hrules fuel slot hr)
    (List.suffix_refl s)

end Same

/-- A variant owns what the matcher owns, but for what the replaced parts may lose. -/
theorem Variant.owned (lost : Nat → Prop)
    (hswap : ∀ m m', swap m m' → ∀ id ∈ m.owned, id ∈ m'.owned ∨ lost id)
    (h : Variant bound swap m m') : ∀ id ∈ m.owned, id ∈ m'.owned ∨ lost id := by
  have all {ms ms' : List Matcher}
      (ih : List.Forall₂ (fun m m' => ∃ _ : Variant bound swap m m',
        ∀ id ∈ m.owned, id ∈ m'.owned ∨ lost id) ms ms') :
      ∀ id ∈ ownedAll ms, id ∈ ownedAll ms' ∨ lost id := by
    induction ih with
    | nil => exact fun id h => .inl h
    | cons hm _ ihs =>
      intro id hid
      rcases List.mem_append.mp hid with hid | hid
      · exact (hm.2 id hid).imp_left (List.mem_append_left _)
      · exact (ihs id hid).imp_left (List.mem_append_right _)
  induction h using Variant.parts_induction with
  | swapped m m' hs => exact hswap m m' hs
  | sequence ms ms' _ ih => exact all ih
  | alternation ms ms' _ ih => exact all ih
  | optional m m' _ ih => exact ih
  | repetition max max' m m' hb _ ih => exact ih
  | rule name m m' _ ih => exact ih
  | terminal | reference | handle | custom => exact fun id h => .inl h

/-- Where replaced parts own the same tables, so do variants. -/
theorem Variant.mem_owned (hswap : ∀ m m', swap m m' → m.owned = m'.owned)
    (h : Variant bound swap m m') (id : Nat) : id ∈ m.owned ↔ id ∈ m'.owned := by
  constructor
  · intro hid
    have hkept := h.owned (fun _ => False) (fun old new hs id hid => .inl (hswap old new hs ▸ hid))
    exact (hkept id hid).resolve_right not_false
  · intro hid
    have hkept := h.flip.owned (fun _ => False)
      (fun new old hs id hid => .inl (hswap old new hs ▸ hid))
    exact (hkept id hid).resolve_right not_false

end

end Matcher

end TokenGrammar
