import TokenGrammar.Proofs.Matches

namespace TokenGrammar

open Matcher

/-- Where `m` comes to from a position in `s`, if recognition comes to an end; `none` if it fails.
Nothing is built, so neither names nor groups have a say in it. A repetition goes on while tokens
are left, the bound is not reached and the body moves on. -/
inductive Scans (rules : Rules) (s : List Token) : Matcher → Nat → Option Nat → Prop where
  | terminalHit {spec i t} : s[i]? = some t → spec.accepts t = true →
      Scans rules s (.terminal spec) i (some (i + 1))
  | terminalMiss {spec i t} : s[i]? = some t → spec.accepts t = false →
      Scans rules s (.terminal spec) i none
  | terminalEnd {spec i} : s.length ≤ i → Scans rules s (.terminal spec) i none
  | sequenceNil {i} : Scans rules s (.sequence []) i (some i)
  | sequenceMiss {m ms i} : Scans rules s m i none → Scans rules s (.sequence (m :: ms)) i none
  | sequenceCons {m ms i k found} : Scans rules s m i (some k) →
      Scans rules s (.sequence ms) k found → Scans rules s (.sequence (m :: ms)) i found
  | alternationNil {i} : Scans rules s (.alternation []) i none
  | alternationHit {m ms i j} : Scans rules s m i (some j) →
      Scans rules s (.alternation (m :: ms)) i (some j)
  | alternationMiss {m ms i found} : Scans rules s m i none →
      Scans rules s (.alternation ms) i found → Scans rules s (.alternation (m :: ms)) i found
  | optionalHit {m i j} : Scans rules s m i (some j) → Scans rules s (.optional m) i (some j)
  | optionalMiss {m i} : Scans rules s m i none → Scans rules s (.optional m) i (some i)
  | repetitionEnd {max m i} : s.length ≤ i → Scans rules s (.repetition max m) i (some i)
  | repetitionFull {m i} : Scans rules s (.repetition (some 0) m) i (some i)
  | repetitionMiss {max m i} : Scans rules s m i none →
      Scans rules s (.repetition max m) i (some i)
  | repetitionStill {max m i k} : Scans rules s m i (some k) → k ≤ i →
      Scans rules s (.repetition max m) i (some i)
  | repetitionCons {max m i k j} : max ≠ some 0 → i < s.length → Scans rules s m i (some k) →
      i < k → Scans rules s (.repetition (max.map (· - 1)) m) k (some j) →
      Scans rules s (.repetition max m) i (some j)
  | rule {name m i found} : Scans rules s m i found → Scans rules s (.rule name m) i found
  | reference {slot m i found} : rules slot = some m → Scans rules s m i found →
      Scans rules s (.reference slot) i found
  | referenceDead {slot i} : rules slot = none → Scans rules s (.reference slot) i none
  | handle {slot m i found} : rules slot = some m → Scans rules s m i found →
      Scans rules s (.handle slot) i found
  | handleDead {slot i} : rules slot = none → Scans rules s (.handle slot) i none
  | custom {f i} : Scans rules s (.custom f) i ((f (s.drop i)).map (fun node => i + node.len))

/-- Where a match from position `i` on has come to. -/
def endFrom (i : Nat) (found : Option Node) : Option Nat :=
  found.map (fun node => i + node.len)

section

variable {rules : Rules} {s : List Token} {m : Matcher}

theorem Node.restOf_drop (node : Node) (i : Nat) :
    node.restOf (s.drop i) = s.drop (i + node.len) := by
  rw [restOf, List.drop_drop]

theorem Matches.scans {ts : List Token} {found : Option Node} (h : Matches rules m ts found)
    (i : Nat) (hts : ts = s.drop i) : Scans rules s m i (endFrom i found) := by
  induction h generalizing i with
  | @terminalHit _ t ts ha =>
    have ht : s[i]? = some t := by
      rw [← List.head?_drop, ← hts, List.head?_cons]
    exact .terminalHit ht ha
  | @terminalMiss _ t ts ha =>
    have ht : s[i]? = some t := by
      rw [← List.head?_drop, ← hts, List.head?_cons]
    exact .terminalMiss ht ha
  | terminalEnd => exact .terminalEnd (List.drop_eq_nil_iff.mp hts.symm)
  | sequenceNil => exact .sequenceNil
  | sequenceMiss _ ih => exact .sequenceMiss (ih i hts)
  | sequenceBreak _ _ ih ih' =>
    exact .sequenceCons (ih i hts) (ih' _ (hts ▸ Node.restOf_drop _ i))
  | @sequenceCons _ _ _ node tail _ _ ih ih' =>
    have htail := ih' (i + node.len) (hts ▸ Node.restOf_drop _ i)
    simp only [endFrom, Option.map_some, Nat.add_assoc] at htail
    simp only [endFrom, Option.map_some, Node.len_group_pair]
    exact .sequenceCons (ih i hts) htail
  | alternationNil => exact .alternationNil
  | alternationHit _ ih => exact .alternationHit (ih i hts)
  | alternationMiss _ _ ih ih' => exact .alternationMiss (ih i hts) (ih' i hts)
  | optionalHit _ ih =>
    simpa [endFrom, Node.len_group, Node.lenAll] using Scans.optionalHit (ih i hts)
  | optionalMiss _ ih => exact .optionalMiss (ih i hts)
  | repetitionEnd => exact .repetitionEnd (List.drop_eq_nil_iff.mp hts.symm)
  | repetitionFull => exact .repetitionFull
  | repetitionMiss _ ih => exact .repetitionMiss (ih i hts)
  | repetitionStill _ hz ih => exact .repetitionStill (ih i hts) (by simp [hz])
  | @repetitionCons _ _ _ node tail hmax hne _ hz _ ih ih' =>
    have hi : i < s.length := by
      by_contra hle
      exact hne (hts.trans (List.drop_eq_nil_iff.mpr (by omega)))
    have htail := ih' (i + node.len) (hts ▸ Node.restOf_drop _ i)
    simp only [endFrom, Option.map_some, Nat.add_assoc] at htail
    simp only [endFrom, Option.map_some, Node.len_group_pair]
    exact .repetitionCons hmax hi (ih i hts) (by simpa using Nat.pos_of_ne_zero hz) htail
  | ruleHit _ ih =>
    simpa [endFrom, Node.production, Node.len, Node.lenAll] using Scans.rule (ih i hts)
  | ruleMiss _ ih => exact .rule (ih i hts)
  | reference hr _ ih => exact .reference hr (ih i hts)
  | referenceDead hr => exact .referenceDead hr
  | handle hr _ ih => exact .handle hr (ih i hts)
  | handleDead hr => exact .handleDead hr
  | custom => exact hts ▸ .custom

theorem endFrom_eq_some {i j : Nat} {found : Option Node} :
    endFrom i found = some j ↔ ∃ node, found = some node ∧ i + node.len = j := by
  simp [endFrom]

theorem endFrom_eq_none {i : Nat} {found : Option Node} :
    endFrom i found = none ↔ found = none := by
  simp [endFrom]

/-- What recognition finds, a match finds with a node of that length. -/
theorem Scans.matches {i : Nat} {end? : Option Nat} (h : Scans rules s m i end?) :
    ∃ found, Matches rules m (s.drop i) found ∧ endFrom i found = end? := by
  induction h with
  | @terminalHit _ i t ht ha =>
    obtain ⟨hi, rfl⟩ := List.getElem?_eq_some_iff.mp ht
    rw [List.drop_eq_getElem_cons hi]
    exact ⟨_, .terminalHit ha, rfl⟩
  | @terminalMiss _ i t ht ha =>
    obtain ⟨hi, rfl⟩ := List.getElem?_eq_some_iff.mp ht
    rw [List.drop_eq_getElem_cons hi]
    exact ⟨_, .terminalMiss ha, rfl⟩
  | terminalEnd hi =>
    rw [List.drop_eq_nil_iff.mpr hi]
    exact ⟨_, .terminalEnd, rfl⟩
  | sequenceNil => exact ⟨_, .sequenceNil, rfl⟩
  | sequenceMiss _ ih =>
    obtain ⟨found, hm, he⟩ := ih
    obtain rfl := endFrom_eq_none.mp he
    exact ⟨_, .sequenceMiss hm, rfl⟩
  | sequenceCons _ _ ih ih' =>
    obtain ⟨first, hm, he⟩ := ih
    obtain ⟨node, rfl, rfl⟩ := endFrom_eq_some.mp he
    obtain ⟨rest, hms, rfl⟩ := ih'
    rw [← Node.restOf_drop] at hms
    cases rest with
    | none => exact ⟨_, .sequenceBreak hm hms, rfl⟩
    | some tail =>
      exact ⟨_, .sequenceCons hm hms, by simp [endFrom, Node.len_group_pair, Nat.add_assoc]⟩
  | alternationNil => exact ⟨_, .alternationNil, rfl⟩
  | alternationHit _ ih =>
    obtain ⟨found, hm, he⟩ := ih
    obtain ⟨node, rfl, rfl⟩ := endFrom_eq_some.mp he
    exact ⟨_, .alternationHit hm, rfl⟩
  | alternationMiss _ _ ih ih' =>
    obtain ⟨found, hm, he⟩ := ih
    obtain rfl := endFrom_eq_none.mp he
    obtain ⟨rest, hms, he'⟩ := ih'
    exact ⟨_, .alternationMiss hm hms, he'⟩
  | optionalHit _ ih =>
    obtain ⟨found, hm, he⟩ := ih
    obtain ⟨node, rfl, rfl⟩ := endFrom_eq_some.mp he
    exact ⟨_, .optionalHit hm, by simp [endFrom, Node.len_group, Node.lenAll]⟩
  | optionalMiss _ ih =>
    obtain ⟨found, hm, he⟩ := ih
    obtain rfl := endFrom_eq_none.mp he
    exact ⟨_, .optionalMiss hm, rfl⟩
  | repetitionEnd hi =>
    rw [List.drop_eq_nil_iff.mpr hi]
    exact ⟨_, .repetitionEnd, rfl⟩
  | repetitionFull => exact ⟨_, .repetitionFull, rfl⟩
  | repetitionMiss _ ih =>
    obtain ⟨found, hm, he⟩ := ih
    obtain rfl := endFrom_eq_none.mp he
    exact ⟨_, .repetitionMiss hm, rfl⟩
  | repetitionStill _ hk ih =>
    obtain ⟨found, hm, he⟩ := ih
    obtain ⟨node, rfl, rfl⟩ := endFrom_eq_some.mp he
    exact ⟨_, .repetitionStill hm (by omega), rfl⟩
  | @repetitionCons _ _ i _ _ hmax hi _ hk _ ih ih' =>
    obtain ⟨first, hm, he⟩ := ih
    obtain ⟨node, rfl, rfl⟩ := endFrom_eq_some.mp he
    obtain ⟨rest, hms, he'⟩ := ih'
    obtain ⟨tail, rfl, rfl⟩ := endFrom_eq_some.mp he'
    rw [← Node.restOf_drop] at hms
    have hne : s.drop i ≠ [] := fun h => absurd (List.drop_eq_nil_iff.mp h) (by omega)
    refine ⟨_, .repetitionCons hmax hne hm (by omega) hms, ?_⟩
    simp [endFrom, Node.len_group_pair, Nat.add_assoc]
  | rule _ ih =>
    obtain ⟨found, hm, rfl⟩ := ih
    cases found with
    | none => exact ⟨_, .ruleMiss hm, rfl⟩
    | some node =>
      exact ⟨_, .ruleHit hm, by simp [endFrom, Node.production, Node.len]⟩
  | reference hr _ ih =>
    obtain ⟨found, hm, he⟩ := ih
    exact ⟨_, .reference hr hm, he⟩
  | referenceDead hr => exact ⟨_, .referenceDead hr, rfl⟩
  | handle hr _ ih =>
    obtain ⟨found, hm, he⟩ := ih
    exact ⟨_, .handle hr hm, he⟩
  | handleDead hr => exact ⟨_, .handleDead hr, rfl⟩
  | custom => exact ⟨_, .custom, rfl⟩

/-- From one position a matcher comes to one other, or to none. -/
theorem Scans.unique {i : Nat} {end? end?' : Option Nat} (h : Scans rules s m i end?)
    (h' : Scans rules s m i end?') : end? = end?' := by
  obtain ⟨found, hm, rfl⟩ := h.matches
  obtain ⟨found', hm', rfl⟩ := h'.matches
  rw [hm.unique hm']

/-- From every position on, a matcher gives nothing where recognition fails, and otherwise a node
that is as long as recognition moves. -/
theorem Matcher.gives_iff_scans (rules : Rules) (m : Matcher) (s : List Token) (i : Nat) :
    (m.Gives rules (s.drop i) none ↔ Scans rules s m i none) ∧
      ∀ j, (∃ node, m.Gives rules (s.drop i) (some node) ∧ i + node.len = j) ↔
        Scans rules s m i (some j) := by
  refine ⟨⟨?_, ?_⟩, fun j => ⟨?_, ?_⟩⟩
  · intro h
    exact (matches_of_gives h).scans i rfl
  · intro h
    obtain ⟨found, hm, he⟩ := h.matches
    obtain rfl := endFrom_eq_none.mp he
    exact gives_of_matches hm
  · rintro ⟨node, h, rfl⟩
    exact (matches_of_gives h).scans i rfl
  · intro h
    obtain ⟨found, hm, he⟩ := h.matches
    obtain ⟨node, rfl, hj⟩ := endFrom_eq_some.mp he
    exact ⟨node, gives_of_matches hm, hj⟩

end

end TokenGrammar
