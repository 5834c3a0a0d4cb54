import TokenGrammar.Proofs.Runs

namespace TokenGrammar

namespace Recognizer

open Run

theorem sequenceFrom_index (rs : List Recognizer) (i j : Nat) (ts : List Token) :
    (sequenceFrom i rs ts).answer? = (sequenceFrom j rs ts).answer? := by
  induction rs generalizing i j ts with
  | nil => rfl
  | cons r rs ih =>
    simp only [sequenceFrom, answer_bind]
    congr 1
    funext found
    cases found with
    | none => simp
    | some node => simp only [answer_map, ih (i + 1) (j + 1)]

/-- What the other parts find is a group, which disappears in the group of the whole. -/
theorem answer_sequence_cons (r : Recognizer) (rs : List Recognizer) (ts : List Token) :
    (sequence (r :: rs) ts).answer? = (r ts).answer?.bind (fun found =>
      match found with
      | none => some none
      | some node => (sequence rs (node.restOf ts)).answer?.map
          (Option.map (fun group => Node.group "sequence" [node, group]))) := by
  simp only [sequence, sequenceFrom, answer_map, answer_bind, Option.map_bind]
  congr 1
  funext found
  cases found with
  | none => simp
  | some node =>
    simp only [Function.comp_apply, answer_map, Option.map_map, sequenceFrom_index rs 1 0]
    congr 1
    funext nodes
    cases nodes with
    | none => rfl
    | some nodes => simp [Node.group_cons]

theorem firstFrom_index (rs : List Recognizer) (i j : Nat) (ts : List Token) :
    (firstFrom i rs ts).answer?.map (Option.map Prod.snd) =
      (firstFrom j rs ts).answer?.map (Option.map Prod.snd) := by
  induction rs generalizing i j with
  | nil => rfl
  | cons r rs ih =>
    simp only [firstFrom, answer_bind, Option.map_bind]
    congr 1
    funext found
    cases found with
    | none => exact ih (i + 1) (j + 1)
    | some node => rfl

theorem answer_alternation (rs : List Recognizer) (ts : List Token) :
    (alternation rs ts).answer? = (firstFrom 0 rs ts).answer?.map (Option.map Prod.snd) := by
  simp only [alternation, answer_bind, Option.map_eq_bind]
  congr 1
  funext found
  cases found <;> rfl

theorem answer_alternation_cons (r : Recognizer) (rs : List Recognizer) (ts : List Token) :
    (alternation (r :: rs) ts).answer? = (r ts).answer?.bind (fun found =>
      match found with
      | none => (alternation rs ts).answer?
      | some node => some (some node)) := by
  simp only [answer_alternation, firstFrom, answer_bind, Option.map_bind]
  congr 1
  funext found
  cases found with
  | none => exact firstFrom_index rs 1 0 ts
  | some node => rfl

theorem answer_optional (r : Recognizer) (ts : List Token) :
    (optional r ts).answer? =
      (r ts).answer?.map (fun found => some (Node.group "option" found.toList)) := by
  simp only [optional, answer_map]

theorem answer_rule (name : String) (r : Recognizer) (ts : List Token) :
    (rule name r ts).answer? =
      (r ts).answer?.map (Option.map (fun node => Node.production name [node])) := by
  simp only [rule, answer_map]

theorem mayRepeat_iff {max : Option Nat} {count : Nat} {ts : List Token} :
    mayRepeat max count ts = true ↔ ts ≠ [] ∧ ∀ m ∈ max, count < m := by
  cases max <;> simp [mayRepeat]

@[simp]
theorem answer_ended (count : Nat) : (ended count).answer? = some [] := rfl

theorem iterate_of_not_mayRepeat {max : Option Nat} (r : Recognizer) (fuel : Nat) {count : Nat}
    {ts : List Token} (h : mayRepeat max count ts = false) :
    iterate max r fuel count ts = ended count := by
  cases fuel <;> simp only [iterate, h, Bool.false_eq_true, ↓reduceIte]

theorem answer_iterate_succ {max : Option Nat} (r : Recognizer) (fuel : Nat) {count : Nat}
    {ts : List Token} (h : mayRepeat max count ts = true) :
    (iterate max r (fuel + 1) count ts).answer? = (r ts).answer?.bind (fun found =>
      match found with
      | none => some []
      | some node =>
        if node.len = 0 then some []
        else (iterate max r fuel (count + 1) (node.restOf ts)).answer?.map (node :: ·)) := by
  simp only [iterate, h, ↓reduceIte, answer_bind]
  congr 1
  funext found
  cases found with
  | none => rfl
  | some node => by_cases hz : node.len = 0 <;> simp [Node.isEmpty, hz]

theorem length_restOf_lt {node : Node} {ts : List Token} (h : ts ≠ []) (hz : node.len ≠ 0) :
    (node.restOf ts).length < ts.length := by
  have := List.length_pos_iff.mpr h
  simp only [Node.restOf, List.length_drop]
  omega

/-- Iterations that begin alike go on alike if they do so behind every node that takes a token. -/
theorem iterate_succ_congr (r : Recognizer) {max max' : Option Nat} {a b count : Nat}
    {ts : List Token} (hrepeat : mayRepeat max count ts = mayRepeat max' count ts)
    (hrest : ∀ node : Node, (node.restOf ts).length < ts.length →
      iterate max r a (count + 1) (node.restOf ts) =
        iterate max' r b (count + 1) (node.restOf ts)) :
    iterate max r (a + 1) count ts = iterate max' r (b + 1) count ts := by
  simp only [iterate, ← hrepeat]
  split
  · rename_i h
    congr 1
    funext found
    cases found with
    | none => rfl
    | some node =>
      by_cases hz : node.len = 0
      · simp [Node.isEmpty, hz]
      · simp only [hrest node (length_restOf_lt (mayRepeat_iff.mp h).1 hz)]
  · rfl

/-- Each iteration takes a token, so fuel for as many as there are tokens is enough. -/
theorem iterate_enough (max : Option Nat) (r : Recognizer) {a b : Nat} (count : Nat)
    {ts : List Token} (ha : ts.length ≤ a) (hb : ts.length ≤ b) :
    iterate max r a count ts = iterate max r b count ts := by
  have hnil (fuel count : Nat) : iterate max r fuel count [] = ended count :=
    iterate_of_not_mayRepeat r fuel rfl
  induction a generalizing b count ts with
  | zero =>
    obtain rfl : ts = [] := by simpa using ha
    rw [hnil, hnil]
  | succ a ih =>
    cases b with
    | zero =>
      obtain rfl : ts = [] := by simpa using hb
      rw [hnil, hnil]
    | succ b =>
      apply iterate_succ_congr r rfl
      intro node hlt
      exact ih _ (by omega) (by omega)

/-- What is found depends on how many more iterations the bound allows. -/
theorem answer_iterate_shift (max : Option Nat) (r : Recognizer) (fuel count : Nat)
    (ts : List Token) : (iterate (max.map (· + 1)) r fuel (count + 1) ts).answer? =
      (iterate max r fuel count ts).answer? := by
  have hshift (count : Nat) (ts : List Token) :
      mayRepeat (max.map (· + 1)) (count + 1) ts = mayRepeat max count ts := by
    cases max <;> simp [mayRepeat]
  induction fuel generalizing count ts with
  | zero =>
    simp only [iterate, hshift]
    split <;> rfl
  | succ fuel ih =>
    cases h : mayRepeat max count ts with
    | false =>
      rw [iterate_of_not_mayRepeat r _ h, iterate_of_not_mayRepeat r _ ((hshift count ts).trans h)]
      rfl
    | true =>
      simp only [answer_iterate_succ r fuel h,
        answer_iterate_succ r fuel ((hshift count ts).trans h), ih]

theorem answer_repetition (max : Option Nat) (r : Recognizer) (ts : List Token) :
    (repetition max r ts).answer? = (iterate max r ts.length 0 ts).answer?.map
      (fun nodes => some (Node.group "repetition" nodes)) := by
  simp only [repetition, answer_map, Option.map_map]
  rfl

/-- Without an iteration the group is empty. -/
theorem answer_repetition_stop (r : Recognizer) {max : Option Nat} {ts : List Token}
    (h : ts = [] ∨ max = some 0) :
    (repetition max r ts).answer? = some (some (Node.group "repetition" [])) := by
  have hstop : mayRepeat max 0 ts = false := by
    rcases h with rfl | rfl <;> simp [mayRepeat]
  rw [answer_repetition, iterate_of_not_mayRepeat r _ hstop]
  rfl

theorem answer_repetition_step (r : Recognizer) {max : Option Nat} {ts : List Token}
    (hmax : max ≠ some 0) (hts : ts ≠ []) :
    (repetition max r ts).answer? = (r ts).answer?.bind (fun found =>
      match found with
      | none => some (some (Node.group "repetition" []))
      | some node =>
        if node.len = 0 then some (some (Node.group "repetition" []))
        else (repetition (max.map (· - 1)) r (node.restOf ts)).answer?.map
          (Option.map (fun group => Node.group "repetition" [node, group]))) := by
  have hrepeat : mayRepeat max 0 ts = true := by
    refine mayRepeat_iff.mpr ⟨hts, ?_⟩
    rintro m rfl
    exact Nat.pos_of_ne_zero (fun hm => hmax (congrArg some hm))
  have hless : (max.map (· - 1)).map (· + 1) = max := by
    cases max with
    | none => rfl
    | some m =>
      have hm : m ≠ 0 := fun hm => hmax (congrArg some hm)
      exact congrArg some (Nat.sub_add_cancel (Nat.pos_of_ne_zero hm))
  obtain ⟨fuel, hfuel⟩ : ∃ k, ts.length = k + 1 :=
    Nat.exists_eq_add_one.mpr (List.length_pos_iff.mpr hts)
  rw [answer_repetition, hfuel, answer_iterate_succ r fuel hrepeat, Option.map_bind]
  congr 1
  funext found
  cases found with
  | none => rfl
  | some node =>
    by_cases hz : node.len = 0
    · simp [hz]
    · have hlt := length_restOf_lt hts hz
      have henough : iterate (max.map (· - 1)) r fuel 0 (node.restOf ts) =
          iterate (max.map (· - 1)) r (node.restOf ts).length 0 (node.restOf ts) :=
        iterate_enough _ r 0 (by omega) (Nat.le_refl _)
      have hrest := answer_iterate_shift (max.map (· - 1)) r fuel 0 (node.restOf ts)
      rw [hless, henough] at hrest
      simp only [Function.comp_apply, hz, ↓reduceIte, answer_repetition, hrest, Option.map_map]
      congr 1
      funext nodes
      simp [Node.group_cons]

end Recognizer

end TokenGrammar
