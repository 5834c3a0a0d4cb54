import TokenGrammar.Proofs.Answers

namespace TokenGrammar

open Matcher

/-- What `m` finds at the front of a token list, when matching comes to an end. The tail of a
sequence and what follows the first iteration of a repetition count as matchers of the same kind;
what they find is a group. -/
inductive Matches (rules : Rules) : Matcher → List Token → Option Node → Prop where
  | terminalHit {spec t ts} : spec.accepts t = true →
      Matches rules (.terminal spec) (t :: ts) (some (.terminal t))
  | terminalMiss {spec t ts} : spec.accepts t = false →
      Matches rules (.terminal spec) (t :: ts) none
  | terminalEnd {spec} : Matches rules (.terminal spec) [] none
  | sequenceNil {ts} : Matches rules (.sequence []) ts (some (.group "sequence" []))
  | sequenceMiss {m ms ts} : Matches rules m ts none → Matches rules (.sequence (m :: ms)) ts none
  | sequenceBreak {m ms ts node} : Matches rules m ts (some node) →
      Matches rules (.sequence ms) (node.restOf ts) none →
      Matches rules (.sequence (m :: ms)) ts none
  | sequenceCons {m ms ts node tail} : Matches rules m ts (some node) →
      Matches rules (.sequence ms) (node.restOf ts) (some tail) →
      Matches rules (.sequence (m :: ms)) ts (some (.group "sequence" [node, tail]))
  | alternationNil {ts} : Matches rules (.alternation []) ts none
  | alternationHit {m ms ts node} : Matches rules m ts (some node) →
      Matches rules (.alternation (m :: ms)) ts (some node)
  | alternationMiss {m ms ts found} : Matches rules m ts none →
      Matches rules (.alternation ms) ts found → Matches rules (.alternation (m :: ms)) ts found
  | optionalHit {m ts node} : Matches rules m ts (some node) →
      Matches rules (.optional m) ts (some (.group "option" [node]))
  | optionalMiss {m ts} : Matches rules m ts none →
      Matches rules (.optional m) ts (some (.group "option" []))
  | repetitionEnd {max m} : Matches rules (.repetition max m) [] (some (.group "repetition" []))
  | repetitionFull {m ts} :
      Matches rules (.repetition (some 0) m) ts (some (.group "repetition" []))
  | repetitionMiss {max m ts} : Matches rules m ts none →
      Matches rules (.repetition max m) ts (some (.group "repetition" []))
  | repetitionStill {max m ts node} : Matches rules m ts (some node) → node.len = 0 →
      Matches rules (.repetition max m) ts (some (.group "repetition" []))
  | repetitionCons {max m ts node tail} : max ≠ some 0 → ts ≠ [] →
      Matches rules m ts (some node) → node.len ≠ 0 →
      Matches rules (.repetition (max.map (· - 1)) m) (node.restOf ts) (some tail) →
      Matches rules (.repetition max m) ts (some (.group "repetition" [node, tail]))
  | ruleHit {name m ts node} : Matches rules m ts (some node) →
      Matches rules (.rule name m) ts (some (.production name [node]))
  | ruleMiss {name m ts} : Matches rules m ts none → Matches rules (.rule name m) ts none
  | reference {slot m ts found} : rules slot = some m → Matches rules m ts found →
      Matches rules (.reference slot) ts found
  | referenceDead {slot ts} : rules slot = none → Matches rules (.reference slot) ts none
  | handle {slot m ts found} : rules slot = some m → Matches rules m ts found →
      Matches rules (.handle slot) ts found
  | handleDead {slot ts} : rules slot = none → Matches rules (.handle slot) ts none
  | custom {f ts} : Matches rules (.custom f) ts (f ts)

/-- A part of a sequence brings with it what the sequence does, and an alternative what the
alternation does. -/
theorem Matcher.customs_cons {P : (List Token → Option Node) → Prop} {m : Matcher}
    {ms : List Matcher} : (∀ f ∈ (Matcher.sequence (m :: ms)).customs, P f) ↔
      (∀ f ∈ m.customs, P f) ∧ ∀ f ∈ (Matcher.sequence ms).customs, P f :=
  List.forall_mem_append

section Sound

variable {rules : Rules} {link : Slot → Recognizer}

/-- A recognizer answers only what the rules derive for `m`. -/
def Sound (rules : Rules) (m : Matcher) (r : Recognizer) : Prop :=
  ∀ ts found, (r ts).answer? = some found → Matches rules m ts found

theorem Sound.terminal (spec : TerminalSpec) :
    Sound rules (.terminal spec) (Recognizer.terminal spec) := by
  intro ts found h
  cases ts with
  | nil => cases h; exact .terminalEnd
  | cons t ts =>
    simp only [Recognizer.terminal] at h
    split at h
    · rename_i ha
      cases h
      exact .terminalHit ha
    · rename_i ha
      cases h
      exact .terminalMiss (by simpa using ha)

theorem Sound.sequence {ms : List Matcher} (h : ∀ m ∈ ms, Sound rules m (m.denote link)) :
    Sound rules (.sequence ms) (Recognizer.sequence (denoteAll link ms)) := by
  induction ms with
  | nil =>
    intro ts found hs
    cases hs
    exact .sequenceNil
  | cons m ms ih =>
    have hm := h m List.mem_cons_self
    have hms := ih (fun m' hm' => h m' (List.mem_cons_of_mem _ hm'))
    intro ts found hs
    rw [denoteAll, Recognizer.answer_sequence_cons, Option.bind_eq_some_iff] at hs
    obtain ⟨first, hfirst, hs⟩ := hs
    cases first with
    | none => cases hs; exact .sequenceMiss (hm ts none hfirst)
    | some node =>
      obtain ⟨tail, htail, rfl⟩ := Option.map_eq_some_iff.mp hs
      cases tail with
      | none => exact .sequenceBreak (hm ts _ hfirst) (hms _ _ htail)
      | some tail => exact .sequenceCons (hm ts _ hfirst) (hms _ _ htail)

theorem Sound.alternation {ms : List Matcher} (h : ∀ m ∈ ms, Sound rules m (m.denote link)) :
    Sound rules (.alternation ms) (Recognizer.alternation (denoteAll link ms)) := by
  induction ms with
  | nil =>
    intro ts found hs
    cases hs
    exact .alternationNil
  | cons m ms ih =>
    have hm := h m List.mem_cons_self
    have hms := ih (fun m' hm' => h m' (List.mem_cons_of_mem _ hm'))
    intro ts found hs
    rw [denoteAll, Recognizer.answer_alternation_cons, Option.bind_eq_some_iff] at hs
    obtain ⟨first, hfirst, hs⟩ := hs
    cases first with
    | none => exact .alternationMiss (hm ts none hfirst) (hms ts found hs)
    | some node => cases hs; exact .alternationHit (hm ts _ hfirst)

theorem Sound.optional {m : Matcher} {r : Recognizer} (h : Sound rules m r) :
    Sound rules (.optional m) (Recognizer.optional r) := by
  intro ts found hs
  rw [Recognizer.answer_optional] at hs
  obtain ⟨inner, hinner, rfl⟩ := Option.map_eq_some_iff.mp hs
  cases inner with
  | none => exact .optionalMiss (h ts _ hinner)
  | some node => exact .optionalHit (h ts _ hinner)

theorem Sound.rule {m : Matcher} {r : Recognizer} (h : Sound rules m r) (name : String) :
    Sound rules (.rule name m) (Recognizer.rule name r) := by
  intro ts found hs
  rw [Recognizer.answer_rule] at hs
  obtain ⟨inner, hinner, rfl⟩ := Option.map_eq_some_iff.mp hs
  cases inner with
  | none => exact .ruleMiss (h ts _ hinner)
  | some node => exact .ruleHit (h ts _ hinner)

/-- The iterations are taken from the front, on a list that each of them makes shorter. -/
theorem Sound.repetition {m : Matcher} {r : Recognizer} (h : Sound rules m r)
    (max : Option Nat) : Sound rules (.repetition max m) (Recognizer.repetition max r) := by
  intro ts found hs
  generalize hn : ts.length = n
  induction n using Nat.strongRecOn generalizing max ts found with
  | ind n ih =>
    by_cases hts : ts = []
    · subst hts
      rw [Recognizer.answer_repetition_stop r (.inl rfl)] at hs
      cases hs
      exact .repetitionEnd
    · by_cases hmax : max = some 0
      · subst hmax
        rw [Recognizer.answer_repetition_stop r (.inr rfl)] at hs
        cases hs
        exact .repetitionFull
      · rw [Recognizer.answer_repetition_step r hmax hts, Option.bind_eq_some_iff] at hs
        obtain ⟨first, hfirst, hs⟩ := hs
        cases first with
        | none => cases hs; exact .repetitionMiss (h ts _ hfirst)
        | some node =>
          by_cases hz : node.len = 0
          · simp only [hz, ↓reduceIte] at hs
            cases hs
            exact .repetitionStill (h ts _ hfirst) hz
          · simp only [hz, ↓reduceIte] at hs
            obtain ⟨tail, htail, rfl⟩ := Option.map_eq_some_iff.mp hs
            have hlt := Recognizer.length_restOf_lt hts hz
            have hrest := ih _ (hn ▸ hlt) _ _ _ htail rfl
            cases tail with
            | none =>
              rw [Recognizer.answer_repetition] at htail
              obtain ⟨_, _, he⟩ := Option.map_eq_some_iff.mp htail
              cases he
            | some tail => exact .repetitionCons hmax hts (h ts _ hfirst) hz hrest

theorem sound_denote (h : ∀ slot, Sound rules (.reference slot) (link slot) ∧
    Sound rules (.handle slot) (link slot)) (m : Matcher) : Sound rules m (m.denote link) := by
  induction m using parts_induction with
  | terminal spec => exact .terminal spec
  | sequence ms ih => exact .sequence ih
  | alternation ms ih => exact .alternation ih
  | optional m ih => exact ih.optional
  | repetition max m ih => exact ih.repetition max
  | rule name m ih => exact ih.rule name
  | reference slot => exact (h slot).1
  | handle slot => exact (h slot).2
  | custom f =>
    intro ts found hs
    cases hs
    exact .custom

theorem sound_follow (rules : Rules) (fuel : Nat) (slot : Slot) :
    Sound rules (.reference slot) (follow rules fuel slot) ∧
      Sound rules (.handle slot) (follow rules fuel slot) := by
  induction fuel generalizing slot with
  | zero => exact ⟨nofun, nofun⟩
  | succ fuel ih =>
    simp only [Sound, follow]
    cases hr : rules slot with
    | none =>
      refine ⟨?_, ?_⟩
      · intro ts found hs
        cases hs
        exact .referenceDead hr
      · intro ts found hs
        cases hs
        exact .handleDead hr
    | some m =>
      have hm := sound_denote ih m
      exact ⟨fun ts found hs => .reference hr (hm ts found hs),
        fun ts found hs => .handle hr (hm ts found hs)⟩

theorem matches_of_gives {m : Matcher} {ts : List Token} {found : Option Node}
    (h : m.Gives rules ts found) : Matches rules m ts found := by
  obtain ⟨fuel, hf⟩ := h
  exact sound_denote (sound_follow rules fuel) m ts found hf

end Sound

section Complete

variable {rules : Rules}

/-- One amount of fuel for two finished matches. -/
theorem Matcher.Gives.common {m m' : Matcher} {ts ts' : List Token} {found found' : Option Node}
    (h : m.Gives rules ts found) (h' : m'.Gives rules ts' found') :
    ∃ fuel, (m.run rules fuel ts).answer? = some found ∧
      (m'.run rules fuel ts').answer? = some found' := by
  obtain ⟨fuel, hf⟩ := h
  obtain ⟨fuel', hf'⟩ := h'
  exact ⟨max fuel fuel', (run_below rules (Nat.le_max_left _ _) m ts).answer hf,
    (run_below rules (Nat.le_max_right _ _) m' ts').answer hf'⟩

/-- The answer of a sequence from the answers of its first part and of the others. -/
theorem run_sequence_cons (m : Matcher) (ms : List Matcher) (fuel : Nat) (ts : List Token) :
    ((Matcher.sequence (m :: ms)).run rules fuel ts).answer? =
      (m.run rules fuel ts).answer?.bind (fun found =>
        match found with
        | none => some none
        | some node => ((Matcher.sequence ms).run rules fuel (node.restOf ts)).answer?.map
            (Option.map (fun tail => Node.group "sequence" [node, tail]))) :=
  Recognizer.answer_sequence_cons _ _ _

theorem run_alternation_cons (m : Matcher) (ms : List Matcher) (fuel : Nat) (ts : List Token) :
    ((Matcher.alternation (m :: ms)).run rules fuel ts).answer? =
      (m.run rules fuel ts).answer?.bind (fun found =>
        match found with
        | none => ((Matcher.alternation ms).run rules fuel ts).answer?
        | some node => some (some node)) :=
  Recognizer.answer_alternation_cons _ _ _

/-- The answer of a repetition that may begin an iteration. -/
theorem run_repetition_step (m : Matcher) (fuel : Nat) {max : Option Nat} {ts : List Token}
    (hmax : max ≠ some 0) (hts : ts ≠ []) :
    ((Matcher.repetition max m).run rules fuel ts).answer? =
      (m.run rules fuel ts).answer?.bind (fun found =>
        match found with
        | none => some (some (Node.group "repetition" []))
        | some node =>
          if node.len = 0 then some (some (Node.group "repetition" []))
          else
            ((Matcher.repetition (max.map (· - 1)) m).run rules fuel (node.restOf ts)).answer?.map
              (Option.map (fun tail => Node.group "repetition" [node, tail]))) :=
  Recognizer.answer_repetition_step _ hmax hts

/-- A repetition whose body finds nothing, or nothing that takes a token, is empty. -/
theorem gives_repetition_stop {m : Matcher} {ts : List Token} {found : Option Node}
    (h : m.Gives rules ts found) (hz : ∀ node ∈ found, node.len = 0) (max : Option Nat) :
    (Matcher.repetition max m).Gives rules ts (some (.group "repetition" [])) := by
  by_cases hts : ts = []
  · exact ⟨0, Recognizer.answer_repetition_stop _ (.inl hts)⟩
  · by_cases hmax : max = some 0
    · exact ⟨0, Recognizer.answer_repetition_stop _ (.inr hmax)⟩
    · obtain ⟨fuel, hf⟩ := h
      refine ⟨fuel, ?_⟩
      rw [run_repetition_step m fuel hmax hts, hf]
      cases found with
      | none => rfl
      | some node => simp [hz node rfl]

theorem gives_of_matches {m : Matcher} {ts : List Token} {found : Option Node}
    (h : Matches rules m ts found) : m.Gives rules ts found := by
  induction h with
  | terminalHit ha => exact ⟨0, by simp [run, denote, Recognizer.terminal, ha]⟩
  | terminalMiss ha => exact ⟨0, by simp [run, denote, Recognizer.terminal, ha]⟩
  | terminalEnd => exact ⟨0, rfl⟩
  | sequenceNil => exact ⟨0, rfl⟩
  | sequenceMiss _ ih =>
    obtain ⟨fuel, hf⟩ := ih
    exact ⟨fuel, by simp [run_sequence_cons, hf]⟩
  | sequenceBreak _ _ ih ih' =>
    obtain ⟨fuel, hf, hf'⟩ := ih.common ih'
    exact ⟨fuel, by simp [run_sequence_cons, hf, hf']⟩
  | sequenceCons _ _ ih ih' =>
    obtain ⟨fuel, hf, hf'⟩ := ih.common ih'
    exact ⟨fuel, by simp [run_sequence_cons, hf, hf']⟩
  | alternationNil => exact ⟨0, rfl⟩
  | alternationHit _ ih =>
    obtain ⟨fuel, hf⟩ := ih
    exact ⟨fuel, by simp [run_alternation_cons, hf]⟩
  | alternationMiss _ _ ih ih' =>
    obtain ⟨fuel, hf, hf'⟩ := ih.common ih'
    exact ⟨fuel, by simp [run_alternation_cons, hf, hf']⟩
  | optionalHit _ ih | optionalMiss _ ih =>
    obtain ⟨fuel, hf⟩ := ih
    exact ⟨fuel, (Recognizer.answer_optional _ _).trans (congrArg (Option.map _) hf)⟩
  | repetitionEnd => exact ⟨0, Recognizer.answer_repetition_stop _ (.inl rfl)⟩
  | repetitionFull => exact ⟨0, Recognizer.answer_repetition_stop _ (.inr rfl)⟩
  | repetitionMiss _ ih => exact gives_repetition_stop ih (by simp) _
  | repetitionStill _ hz ih => exact gives_repetition_stop ih (by simpa using hz) _
  | repetitionCons hmax hts _ hz _ ih ih' =>
    obtain ⟨fuel, hf, hf'⟩ := ih.common ih'
    exact ⟨fuel, by simp [run_repetition_step _ _ hmax hts, hf, hz, hf']⟩
  | ruleHit _ ih | ruleMiss _ ih =>
    obtain ⟨fuel, hf⟩ := ih
    exact ⟨fuel, (Recognizer.answer_rule _ _ _).trans (congrArg (Option.map _) hf)⟩
  | reference hr _ ih | handle hr _ ih =>
    obtain ⟨fuel, hf⟩ := ih
    refine ⟨fuel + 1, ?_⟩
    simp only [run, denote, follow, hr]
    exact hf
  | referenceDead hr | handleDead hr => exact ⟨1, by simp [run, denote, follow, hr]⟩
  | custom => exact ⟨0, rfl⟩

/-- What a matcher gives is what the rules derive, so facts about matching can be proved by
induction on a finished match. -/
theorem gives_iff_matches {m : Matcher} {ts : List Token} {found : Option Node} :
    m.Gives rules ts found ↔ Matches rules m ts found :=
  ⟨matches_of_gives, gives_of_matches⟩

/-- A reference gives what the rule in force gives. -/
theorem gives_reference {slot : Slot} {m : Matcher} (h : rules slot = some m) (ts : List Token)
    (found : Option Node) :
    (Matcher.reference slot).Gives rules ts found ↔ m.Gives rules ts found := by
  rw [gives_iff_matches, gives_iff_matches]
  constructor
  · intro hm
    cases hm with
    | reference h' hm =>
      obtain rfl := Option.some.inj (h.symm.trans h')
      exact hm
    | referenceDead h' => cases h.symm.trans h'
  · exact .reference h

theorem Matches.unique {m : Matcher} {ts : List Token} {found found' : Option Node}
    (h : Matches rules m ts found) (h' : Matches rules m ts found') : found = found' :=
  (gives_of_matches h).unique (gives_of_matches h')

end Complete

end TokenGrammar
