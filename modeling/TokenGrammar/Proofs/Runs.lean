import Mathlib.Data.List.Forall2
import TokenGrammar.Matcher.Basic

namespace TokenGrammar

namespace Run

variable {α β : Type}

/-- The answer of a run that came to an end. -/
def answer? (x : Run α) : Option α := Option.map Prod.fst x

@[simp]
theorem answer_pure (a : α) : (Pure.pure a : Run α).answer? = some a := rfl

@[simp]
theorem answer_emit (e : Event) : (emit e).answer? = some () := rfl

@[simp]
theorem answer_bind (x : Run α) (f : α → Run β) :
    (x >>= f).answer? = x.answer?.bind (fun a => (f a).answer?) := by
  change (Run.bind x f).answer? = _
  unfold Run.bind answer?
  cases x with
  | none => rfl
  | some p =>
    obtain ⟨a, log⟩ := p
    dsimp only [Option.map_some, Option.bind_some]
    cases f a <;> rfl

@[simp]
theorem answer_map (f : α → β) (x : Run α) : (f <$> x).answer? = x.answer?.map f := by
  cases x <;> rfl

/-- Two runs one after the other come to an end if both do, and their events stand in this order. -/
theorem bind_eq_some_iff {x : Run α} {f : α → Run β} {b : β} {log : List Event} :
    (x >>= f) = some (b, log) ↔
      ∃ a before after, x = some (a, before) ∧ f a = some (b, after) ∧ log = before ++ after := by
  change Run.bind x f = _ ↔ _
  constructor
  · intro h
    unfold Run.bind at h
    split at h
    · cases h
    · rename_i a before
      split at h
      · cases h
      · rename_i b' after hf
        cases h
        exact ⟨a, before, after, rfl, hf, rfl⟩
  · rintro ⟨a, before, after, rfl, hf, rfl⟩
    simp only [Run.bind, hf]
    rfl

theorem map_eq_some_iff {f : α → β} {x : Run α} {b : β} {log : List Event} :
    (f <$> x) = some (b, log) ↔ ∃ a, x = some (a, log) ∧ f a = b := by
  constructor
  · intro h
    obtain ⟨⟨a, log'⟩, hx, he⟩ := Option.map_eq_some_iff.mp h
    cases he
    exact ⟨a, hx, rfl⟩
  · rintro ⟨a, rfl, rfl⟩
    rfl

/-- Where the first run comes to an end, the second comes to the same one. -/
def Below (x y : Run α) : Prop := ∀ p, x = some p → y = some p

theorem Below.refl (x : Run α) : x.Below x := fun _ h => h

theorem Below.trans {x y z : Run α} (h : x.Below y) (h' : y.Below z) : x.Below z :=
  fun p hp => h' p (h p hp)

theorem Below.antisymm {x y : Run α} (h : x.Below y) (h' : y.Below x) : x = y :=
  Option.ext (fun p => ⟨h p, h' p⟩)

theorem unfinished_below (x : Run α) : (unfinished : Run α).Below x := by
  intro p h
  cases h

theorem Below.bind {x y : Run α} {f g : α → Run β} (h : x.Below y)
    (hf : ∀ a, (f a).Below (g a)) : (x >>= f).Below (y >>= g) := by
  rintro ⟨b, log⟩ hp
  obtain ⟨a, before, after, hx, hb, rfl⟩ := bind_eq_some_iff.mp hp
  exact bind_eq_some_iff.mpr ⟨a, before, after, h _ hx, hf a _ hb, rfl⟩

theorem Below.map {x y : Run α} (f : α → β) (h : x.Below y) : (f <$> x).Below (f <$> y) := by
  rintro ⟨b, log⟩ hp
  obtain ⟨a, hx, rfl⟩ := map_eq_some_iff.mp hp
  exact map_eq_some_iff.mpr ⟨a, h _ hx, rfl⟩

theorem Below.answer {x y : Run α} (h : x.Below y) {a : α} (ha : x.answer? = some a) :
    y.answer? = some a := by
  obtain ⟨p, hp, rfl⟩ := Option.map_eq_some_iff.mp ha
  rw [h p hp]
  rfl

end Run

namespace Recognizer

open Run

/-- The first recognizer stays below the second on `s` and every rest of it. -/
def Below (s : List Token) (r r' : Recognizer) : Prop := ∀ ts, ts <:+ s → (r ts).Below (r' ts)

theorem restOf_suffix {ts s : List Token} (h : ts <:+ s) (node : Node) : node.restOf ts <:+ s :=
  (List.drop_suffix _ _).trans h

variable {s : List Token} {r r' : Recognizer} {rs rs' : List Recognizer}

theorem Below.trans {r'' : Recognizer} (h : Below s r r') (h' : Below s r' r'') :
    Below s r r'' :=
  fun ts hts => (h ts hts).trans (h' ts hts)

theorem sequenceFrom_below (h : List.Forall₂ (Below s) rs rs') (index : Nat) {ts : List Token}
    (hts : ts <:+ s) : (sequenceFrom index rs ts).Below (sequenceFrom index rs' ts) := by
  induction h generalizing index ts with
  | nil => exact .refl _
  | cons hr _ ih =>
    refine (hr ts hts).bind ?_
    intro found
    cases found with
    | none => exact .refl _
    | some node => exact (ih _ (restOf_suffix hts node)).map _

theorem firstFrom_below (h : List.Forall₂ (Below s) rs rs') (index : Nat) {ts : List Token}
    (hts : ts <:+ s) : (firstFrom index rs ts).Below (firstFrom index rs' ts) := by
  induction h generalizing index with
  | nil => exact .refl _
  | cons hr _ ih =>
    refine (hr ts hts).bind ?_
    intro found
    cases found with
    | none => exact ih _
    | some node => exact .refl _

theorem iterate_below (h : Below s r r') (max : Option Nat) (fuel count : Nat) {ts : List Token}
    (hts : ts <:+ s) : (iterate max r fuel count ts).Below (iterate max r' fuel count ts) := by
  induction fuel generalizing count ts with
  | zero => exact .refl _
  | succ fuel ih =>
    simp only [iterate]
    split
    · refine (h ts hts).bind ?_
      intro found
      cases found with
      | none => exact .refl _
      | some node =>
        dsimp only
        split
        · exact .refl _
        · exact (ih _ (restOf_suffix hts node)).map _
    · exact .refl _

theorem Below.sequence (h : List.Forall₂ (Below s) rs rs') :
    Below s (Recognizer.sequence rs) (Recognizer.sequence rs') :=
  fun _ hts => (sequenceFrom_below h 0 hts).map _

theorem Below.alternation (h : List.Forall₂ (Below s) rs rs') :
    Below s (Recognizer.alternation rs) (Recognizer.alternation rs') := by
  intro ts hts
  refine (firstFrom_below h 0 hts).bind ?_
  intro found
  rw [h.length_eq]
  exact .refl _

theorem Below.optional (h : Below s r r') :
    Below s (Recognizer.optional r) (Recognizer.optional r') :=
  fun ts hts => (h ts hts).map _

theorem Below.repetition (h : Below s r r') (max : Option Nat) :
    Below s (Recognizer.repetition max r) (Recognizer.repetition max r') :=
  fun _ hts => ((iterate_below h max _ 0 hts).map _).map _

theorem Below.rule (h : Below s r r') (name : String) :
    Below s (Recognizer.rule name r) (Recognizer.rule name r') :=
  fun ts hts => (h ts hts).map _

end Recognizer

namespace Matcher

/-- Induction over matchers, one hypothesis for each part. -/
@[elab_as_elim]
theorem parts_induction {motive : Matcher → Prop}
    (terminal : ∀ spec, motive (.terminal spec))
    (sequence : ∀ ms, (∀ m ∈ ms, motive m) → motive (.sequence ms))
    (alternation : ∀ ms, (∀ m ∈ ms, motive m) → motive (.alternation ms))
    (optional : ∀ m, motive m → motive (.optional m))
    (repetition : ∀ max m, motive m → motive (.repetition max m))
    (rule : ∀ name m, motive m → motive (.rule name m))
    (reference : ∀ slot, motive (.reference slot))
    (handle : ∀ slot, motive (.handle slot))
    (custom : ∀ f, motive (.custom f)) (m : Matcher) : motive m :=
  Matcher.rec (motive_1 := motive) (motive_2 := fun ms => ∀ m ∈ ms, motive m)
    terminal sequence alternation optional repetition rule reference handle custom
    (by simp) (fun m ms hm hms => by simpa using ⟨hm, hms⟩) m

theorem denoteAll_eq_map (link : Slot → Recognizer) (ms : List Matcher) :
    denoteAll link ms = ms.map (denote link) := by
  induction ms with
  | nil => rfl
  | cons m ms ih => rw [denoteAll, ih, List.map_cons]

/-- What a matcher finds in `s` depends on its links through the rests of `s` only. -/
theorem denote_below {s : List Token} {link link' : Slot → Recognizer}
    (h : ∀ slot, Recognizer.Below s (link slot) (link' slot)) (m : Matcher) :
    Recognizer.Below s (m.denote link) (m.denote link') := by
  have all (ms : List Matcher)
      (ih : ∀ m ∈ ms, Recognizer.Below s (m.denote link) (m.denote link')) :
      List.Forall₂ (Recognizer.Below s) (denoteAll link ms) (denoteAll link' ms) := by
    simpa [denoteAll_eq_map, List.forall₂_map_left_iff, List.forall₂_map_right_iff,
      List.forall₂_same] using ih
  induction m using parts_induction with
  | terminal spec => exact fun ts _ => .refl _
  | sequence ms ih => exact .sequence (all ms ih)
  | alternation ms ih => exact .alternation (all ms ih)
  | optional m ih => exact ih.optional
  | repetition max m ih => exact ih.repetition max
  | rule name m ih => exact ih.rule name
  | reference slot => exact h slot
  | handle slot => exact h slot
  | custom f => exact fun ts _ => .refl _

theorem follow_succ_below {rules : Rules} {s : List Token} {fuel fuel' : Nat}
    (h : ∀ slot, Recognizer.Below s (follow rules fuel slot) (follow rules fuel' slot))
    (slot : Slot) :
    Recognizer.Below s (follow rules (fuel + 1) slot) (follow rules (fuel' + 1) slot) := by
  intro ts hts
  simp only [follow]
  cases rules slot with
  | none => exact .refl _
  | some m => exact denote_below h m ts hts

theorem follow_below (rules : Rules) (s : List Token) {fuel fuel' : Nat} (le : fuel ≤ fuel')
    (slot : Slot) : Recognizer.Below s (follow rules fuel slot) (follow rules fuel' slot) := by
  induction fuel generalizing fuel' slot with
  | zero => exact fun ts _ => Run.unfinished_below _
  | succ fuel ih =>
    obtain ⟨more, rfl⟩ := Nat.exists_eq_add_of_lt le
    exact follow_succ_below (fun slot => ih (by omega) slot) slot

/-- More fuel keeps a finished run as it is. -/
theorem run_below (rules : Rules) {fuel fuel' : Nat} (le : fuel ≤ fuel') (m : Matcher)
    (ts : List Token) : (m.run rules fuel ts).Below (m.run rules fuel' ts) :=
  denote_below (follow_below rules ts le) m ts (List.suffix_refl ts)

/-- Every rule in force satisfies `P`. -/
def Rules.All (rules : Rules) (P : Matcher → Prop) : Prop :=
  ∀ slot m, rules slot = some m → P m

/-- Matching `ts` comes to an end, and `found` is what it gives. -/
def Gives (rules : Rules) (m : Matcher) (ts : List Token) (found : Option Node) : Prop :=
  ∃ fuel, (m.run rules fuel ts).answer? = some found

/-- Matching `ts` comes to an end. -/
def Ends (rules : Rules) (m : Matcher) (ts : List Token) : Prop :=
  ∃ found, m.Gives rules ts found

theorem Gives.unique {rules : Rules} {m : Matcher} {ts : List Token} {found found' : Option Node}
    (h : m.Gives rules ts found) (h' : m.Gives rules ts found') : found = found' := by
  obtain ⟨fuel, hf⟩ := h
  obtain ⟨fuel', hf'⟩ := h'
  have e := (run_below rules (Nat.le_max_left fuel fuel') m ts).answer hf
  have e' := (run_below rules (Nat.le_max_right fuel fuel') m ts).answer hf'
  exact Option.some.inj (e.symm.trans e')

end Matcher

end TokenGrammar
