import TokenGrammar.Proofs.Splicing

namespace TokenGrammar

namespace Yield

variable {a b : Yield} {ts : List Token} {parts : List Node}

/-- A repetition of `a` makes no iteration on `ts`. -/
inductive Idle (a : Yield) (ts : List Token) : Prop where
  | nothingLeft : ts = [] → Idle a ts
  | miss : a ts = some none → Idle a ts
  | still {parts : List Node} : a ts = some (some parts) → Node.lenAll parts = 0 → Idle a ts

/-- A repetition of `a` is idle, or it does not come to an end, or there is an iteration. -/
theorem idle_or (a : Yield) (ts : List Token) : a.Idle ts ∨
    ts ≠ [] ∧ (a ts = none ∨ ∃ parts, a ts = some (some parts) ∧ Node.lenAll parts ≠ 0) := by
  by_cases hts : ts = []
  · exact .inl (.nothingLeft hts)
  · rcases ha : a ts with _ | _ | parts
    · exact .inr ⟨hts, .inl rfl⟩
    · exact .inl (.miss ha)
    · by_cases hz : Node.lenAll parts = 0
      · exact .inl (.still ha hz)
      · exact .inr ⟨hts, .inr ⟨parts, rfl, hz⟩⟩

theorem Idle.iterate (h : a.Idle ts) (n : Nat) : a.iterate n ts = some (some []) := by
  cases n with
  | zero => rfl
  | succ n =>
    cases h with
    | nothingLeft hts => simp [Yield.iterate, hts]
    | miss ha => simp [Yield.iterate, ha]
    | still ha hz => simp [Yield.iterate, ha, hz]

theorem iterate_unfinished (hts : ts ≠ []) (ha : a ts = none) (n : Nat) :
    a.iterate (n + 1) ts = none := by
  simp [iterate, hts, ha]

theorem iterate_step (hts : ts ≠ []) (ha : a ts = some (some parts))
    (hz : Node.lenAll parts ≠ 0) (n : Nat) : a.iterate (n + 1) ts =
      (a.iterate n (ts.drop (Node.lenAll parts))).map (Option.map (parts ++ ·)) := by
  simp [iterate, hts, ha, hz]

theorem iterate_ne_failure (a : Yield) (n : Nat) (ts : List Token) :
    a.iterate n ts ≠ some none := by
  induction n generalizing ts with
  | zero => simp [iterate, nothing]
  | succ n ih =>
    rcases a.idle_or ts with hidle | ⟨hts, hnone | ⟨parts, hparts, hz⟩⟩
    · simp [hidle.iterate]
    · simp [iterate_unfinished hts hnone]
    · have := ih (ts.drop (Node.lenAll parts))
      simpa [iterate_step hts hparts hz] using this

/-- An iteration takes a token, so more of them than there are tokens are never made. -/
theorem iterate_enough {m n : Nat} (hm : ts.length ≤ m) (hn : ts.length ≤ n) :
    a.iterate m ts = a.iterate n ts := by
  induction m generalizing n ts with
  | zero =>
    have hts : ts = [] := by simpa using hm
    rw [(Idle.nothingLeft hts).iterate, (Idle.nothingLeft hts).iterate]
  | succ m ih =>
    rcases a.idle_or ts with hidle | ⟨hts, hstep⟩
    · rw [hidle.iterate, hidle.iterate]
    · have hpos := List.length_pos_iff.mpr hts
      obtain ⟨n, rfl⟩ : ∃ k, n = k + 1 := ⟨n - 1, by omega⟩
      rcases hstep with hnone | ⟨parts, hparts, hz⟩
      · rw [iterate_unfinished hts hnone, iterate_unfinished hts hnone]
      · have hlt : (ts.drop (Node.lenAll parts)).length < ts.length := by
          rw [List.length_drop]
          omega
        have hrest : a.iterate m (ts.drop (Node.lenAll parts)) =
            a.iterate n (ts.drop (Node.lenAll parts)) := ih (by omega) (by omega)
        rw [iterate_step hts hparts hz, iterate_step hts hparts hz, hrest]

/-- An iteration sees `ts` and rests of it only. -/
theorem iterate_congr (h : ∀ rest, rest <:+ ts → a rest = b rest) (n : Nat) :
    a.iterate n ts = b.iterate n ts := by
  induction n generalizing ts with
  | zero => rfl
  | succ n ih =>
    have hhere := h ts (List.suffix_refl ts)
    have hrest (k : Nat) : a.iterate n (ts.drop k) = b.iterate n (ts.drop k) :=
      ih (fun rest hr => h rest (hr.trans (List.drop_suffix k ts)))
    simp only [iterate, hhere, hrest]

/-- Where the first iterations end, the others go on; if something stopped the first ones early, it
stops the others at once. -/
theorem iterate_add (a : Yield) (j k : Nat) :
    (a.iterate j).andThen (a.iterate k) = a.iterate (j + k) := by
  induction j with
  | zero => rw [Nat.zero_add, iterate, nothing_andThen]
  | succ j ih =>
    funext ts
    rw [Nat.succ_add]
    rcases a.idle_or ts with hidle | ⟨hts, hnone | ⟨parts, hparts, hz⟩⟩
    · simp [andThen, hidle.iterate, Node.lenAll]
    · simp [andThen, iterate_unfinished hts hnone]
    · simp only [andThen, iterate_step hts hparts hz, ← ih]
      rcases a.iterate j (ts.drop (Node.lenAll parts)) with _ | _ | more
      · rfl
      · rfl
      · simp [Node.lenAll_append, List.drop_drop, Function.comp_def]

/-- A block of iterations that takes no token has none in it. -/
theorem Idle.of_iterate {k : Nat} (h : (a.iterate (k + 1)).Idle ts) : a.Idle ts := by
  rcases a.idle_or ts with hidle | ⟨hts, hstep⟩
  · exact hidle
  · cases h with
    | nothingLeft hnil => exact .nothingLeft hnil
    | miss hmiss => exact absurd hmiss (a.iterate_ne_failure (k + 1) ts)
    | still hstill hzero =>
      rcases hstep with hnone | ⟨parts, hparts, hz⟩
      · rw [iterate_unfinished hts hnone] at hstill
        cases hstill
      · rw [iterate_step hts hparts hz] at hstill
        obtain ⟨_, _, hmore⟩ := Option.map_eq_some_iff.mp hstill
        obtain ⟨more, _, rfl⟩ := Option.map_eq_some_iff.mp hmore
        rw [Node.lenAll_append] at hzero
        omega

/-- Iterations in blocks are the same iterations one by one. -/
theorem iterate_iterate (a : Yield) (k n : Nat) :
    (a.iterate (k + 1)).iterate n = a.iterate ((k + 1) * n) := by
  induction n with
  | zero => rfl
  | succ n ih =>
    funext ts
    have hsplit : a.iterate ((k + 1) * (n + 1)) =
        (a.iterate (k + 1)).andThen (a.iterate ((k + 1) * n)) := by
      rw [iterate_add, Nat.mul_succ, Nat.add_comm]
    rcases (a.iterate (k + 1)).idle_or ts with hidle | ⟨hts, hnone | ⟨parts, hparts, hz⟩⟩
    · rw [hidle.iterate, hidle.of_iterate.iterate]
    · rw [iterate_unfinished hts hnone, hsplit]
      simp [andThen, hnone]
    · rw [iterate_step hts hparts hz, hsplit, ih]
      simp [andThen, hparts]

theorem iterate_orElse_nothing (a : Yield) (n : Nat) :
    (a.orElse nothing).iterate n = a.iterate n := by
  induction n with
  | zero => rfl
  | succ n ih =>
    funext ts
    rcases ha : a ts with _ | _ | parts
    · simp [iterate, orElse, ha]
    · simp [iterate, orElse, nothing, ha, Node.lenAll]
    · simp [iterate, orElse, ha, ih]

theorem orElse_of_ne_failure (h : ∀ ts, a ts ≠ some none) (b : Yield) : a.orElse b = a := by
  funext ts
  have hts := h ts
  rcases ha : a ts with _ | _ | parts
  · simp [orElse, ha]
  · exact absurd ha hts
  · simp [orElse, ha]

/-- A repetition comes to an end where its body does on every rest. -/
theorem exists_iterate_eq (h : ∀ rest, rest <:+ ts → a rest ≠ none) (n : Nat) :
    ∃ parts, a.iterate n ts = some (some parts) := by
  induction n generalizing ts with
  | zero => exact ⟨[], rfl⟩
  | succ n ih =>
    rcases a.idle_or ts with hidle | ⟨hts, hnone | ⟨parts, hparts, hz⟩⟩
    · exact ⟨[], hidle.iterate _⟩
    · exact absurd hnone (h ts (List.suffix_refl ts))
    · have hrest : ∀ rest, rest <:+ ts.drop (Node.lenAll parts) → a rest ≠ none :=
        fun rest hr => h rest (hr.trans (List.drop_suffix _ ts))
      obtain ⟨more, hmore⟩ := ih hrest
      refine ⟨parts ++ more, ?_⟩
      rw [iterate_step hts hparts hz, hmore]
      rfl

/-- A smaller bound leaves a front of what a larger one does. -/
theorem iterate_front {j k : Nat} {first both : List Node} (hj : a.iterate j ts = some (some first))
    (hk : a.iterate (j + k) ts = some (some both)) : first <+: both := by
  rw [← iterate_add] at hk
  simp only [andThen, hj] at hk
  obtain ⟨_, _, hmore⟩ := Option.map_eq_some_iff.mp hk
  obtain ⟨more, _, rfl⟩ := Option.map_eq_some_iff.mp hmore
  exact List.prefix_append first more

end Yield

namespace Workspace

open Matcher

variable (w : Workspace) (m : Matcher)

theorem repetition_add (j k : Nat) :
    w.Interchangeable (.sequence [.repetition (some j) m, .repetition (some k) m])
      (.repetition (some (j + k)) m) := by
  apply Interchangeable.of_eq
  rw [yields_sequence_cons, yields_sequence_singleton]
  simp only [yields_repetition, Option.getD_some]
  exact (w.yields m).iterate_add j k

/-- On `ts` a repetition without a bound is one with any bound that is no less than `ts` is long. -/
theorem yields_unbounded {ts : List Token} {n : Nat} (h : ts.length ≤ n) :
    w.yields (.repetition none m) ts = (w.yields m).iterate n ts := by
  rw [yields_repetition]
  exact Yield.iterate_enough (Nat.le_refl _) h

theorem repetition_bounded {k : Nat} (hk : 1 ≤ k) :
    w.Interchangeable (.repetition none (.repetition (some k) m)) (.repetition none m) := by
  intro ts
  obtain ⟨k, rfl⟩ : ∃ n, k = n + 1 := ⟨k - 1, by omega⟩
  have hlen : ts.length ≤ (k + 1) * ts.length := Nat.le_mul_of_pos_left _ (Nat.succ_pos k)
  rw [w.yields_unbounded m hlen, ← Yield.iterate_iterate]
  simp only [yields_repetition, Option.getD_none, Option.getD_some]

theorem repetition_repetition :
    w.Interchangeable (.repetition none (.repetition none m)) (.repetition none m) := by
  intro ts
  -- No rest of `ts` is longer than `ts`, so that one bound will do for all inner repetitions.
  have hinner (rest : List Token) (hr : rest <:+ ts) : w.yields (.repetition none m) rest =
      w.yields (.repetition (some (ts.length + 1)) m) rest := by
    rw [w.yields_unbounded m (hr.length_le.trans (Nat.le_succ _)), yields_repetition]
    rfl
  have hblocks := w.repetition_bounded m (Nat.succ_pos ts.length) ts
  rw [yields_repetition] at hblocks ⊢
  exact (Yield.iterate_congr hinner _).trans hblocks

theorem repetition_optional :
    w.Interchangeable (.repetition none (.optional m)) (.repetition none m) := by
  apply Interchangeable.of_eq
  simp only [yields_repetition, yields_optional, Yield.iterate_orElse_nothing]

theorem optional_repetition :
    w.Interchangeable (.optional (.repetition none m)) (.repetition none m) := by
  apply Interchangeable.of_eq
  rw [yields_optional, yields_repetition]
  exact Yield.orElse_of_ne_failure (fun ts => Yield.iterate_ne_failure _ _ ts) _

/-- Matching `ts` comes to an end with a node that has these contents. -/
def Leaves (w : Workspace) (m : Matcher) (ts : List Token) (parts : List Node) : Prop :=
  ∃ node, (w.run m ts).answer? = some (some node) ∧ node.contents = parts

variable {w m} {ts : List Token} {parts : List Node}

theorem Leaves.unique {others : List Node} (h : w.Leaves m ts parts) (h' : w.Leaves m ts others) :
    parts = others := by
  obtain ⟨node, hrun, rfl⟩ := h
  obtain ⟨node', hrun', rfl⟩ := h'
  have hnode := hrun.symm.trans hrun'
  simp only [Option.some.injEq] at hnode
  rw [hnode]

/-- A matcher that finds groups leaves their contents. -/
theorem leaves_of_groups
    (hgroups : ∀ node, (w.run m ts).answer? = some (some node) → ∃ name nodes,
      node = Node.group name nodes)
    (h : w.yields m ts = some (some parts)) : w.Leaves m ts parts := by
  obtain ⟨found, hrun, hfound⟩ := Option.map_eq_some_iff.mp h
  obtain ⟨node, rfl, rfl⟩ := Option.map_eq_some_iff.mp hfound
  obtain ⟨name, nodes, rfl⟩ := hgroups node hrun
  exact ⟨_, hrun, rfl⟩

theorem leaves_repetition {max : Option Nat}
    (h : w.yields (.repetition max m) ts = some (some parts)) :
    w.Leaves (.repetition max m) ts parts := by
  refine leaves_of_groups (fun node hrun => ?_) h
  rw [run_eq, Matcher.run, denote, Recognizer.answer_repetition] at hrun
  obtain ⟨nodes, _, hnode⟩ := Option.map_eq_some_iff.mp hrun
  exact ⟨_, nodes, (Option.some.inj hnode).symm⟩

theorem leaves_optional (h : w.yields (.optional m) ts = some (some parts)) :
    w.Leaves (.optional m) ts parts := by
  refine leaves_of_groups (fun node hrun => ?_) h
  rw [run_eq, Matcher.run, denote, Recognizer.answer_optional] at hrun
  obtain ⟨found, _, hnode⟩ := Option.map_eq_some_iff.mp hrun
  exact ⟨_, found.toList, (Option.some.inj hnode).symm⟩

theorem leaves_sequence {ms : List Matcher}
    (h : w.yields (.sequence ms) ts = some (some parts)) : w.Leaves (.sequence ms) ts parts := by
  refine leaves_of_groups (fun node hrun => ?_) h
  rw [run_eq, Matcher.run, denote, Recognizer.sequence, Run.answer_map] at hrun
  obtain ⟨found, _, hfound⟩ := Option.map_eq_some_iff.mp hrun
  obtain ⟨nodes, _, hnode⟩ := Option.map_eq_some_iff.mp hfound
  exact ⟨_, nodes, hnode.symm⟩

/-- Where matching comes to an end on every rest, all these repetitions do so. Those in the first
group have the contents of the unbounded repetition; of those with a bound, the contents add up, and
a smaller bound leaves a front of what a larger one or none leaves. -/
theorem repetition_laws (h : ∀ rest, rest <:+ ts → m.Ends w.rules rest) :
    ∃ all, w.Leaves (.repetition none m) ts all ∧
      w.Leaves (.repetition none (.repetition none m)) ts all ∧
      w.Leaves (.repetition none (.optional m)) ts all ∧
      w.Leaves (.optional (.repetition none m)) ts all ∧
      (∀ k, 1 ≤ k → w.Leaves (.repetition none (.repetition (some k) m)) ts all) ∧
      ∀ j k, ∃ first both, w.Leaves (.repetition (some j) m) ts first ∧
        w.Leaves (.repetition (some (j + k)) m) ts both ∧
        w.Leaves (.sequence [.repetition (some j) m, .repetition (some k) m]) ts both ∧
        first <+: both ∧ first <+: all := by
  have hends (rest : List Token) (hr : rest <:+ ts) : w.yields m rest ≠ none := by
    obtain ⟨found, hgives⟩ := h rest hr
    have hrun := (w.run_iff_gives m rest found).mpr hgives
    simp [yields, Recognizer.yields, hrun]
  have hbounded (j : Nat) : ∃ parts, w.yields (.repetition (some j) m) ts = some (some parts) := by
    rw [yields_repetition]
    exact Yield.exists_iterate_eq hends j
  obtain ⟨all, hall⟩ := Yield.exists_iterate_eq hends ts.length
  have hrep : w.yields (.repetition none m) ts = some (some all) :=
    (w.yields_unbounded m (Nat.le_refl _)).trans hall
  refine ⟨all, leaves_repetition hrep,
    leaves_repetition ((w.repetition_repetition m ts).trans hrep),
    leaves_repetition ((w.repetition_optional m ts).trans hrep),
    leaves_optional ((w.optional_repetition m ts).trans hrep),
    fun k hk => leaves_repetition ((w.repetition_bounded m hk ts).trans hrep), ?_⟩
  intro j k
  obtain ⟨first, hfirst⟩ := hbounded j
  obtain ⟨both, hboth⟩ := hbounded (j + k)
  refine ⟨first, both, leaves_repetition hfirst, leaves_repetition hboth,
    leaves_sequence ((w.repetition_add m j k ts).trans hboth), ?_, ?_⟩
  · rw [yields_repetition] at hfirst hboth
    exact Yield.iterate_front hfirst hboth
  · have hmore : (w.yields m).iterate (j + ts.length) ts = some (some all) :=
      (Yield.iterate_enough (Nat.le_add_left _ _) (Nat.le_refl _)).trans hall
    rw [yields_repetition] at hfirst
    exact Yield.iterate_front hfirst hmore

end Workspace

section Claims

open Workspace

/-- On three tokens there are two iterations of two parts each, the second of which claims a fourth
token. One of them is all that is left with the bound one; blocks of one leave both. -/
theorem repetition_laws_on_claims :
    Workspace.empty.Leaves (.repetition (some 1) (.custom claimGroups)) (listTokens.take 3)
      [.anonymous "inner" [.terminal ⟨"mark", "("⟩], .terminal ⟨"mark", "("⟩] ∧
    ∃ all, all.length = 4 ∧
      Workspace.empty.Leaves (.repetition none (.repetition (some 1) (.custom claimGroups)))
        (listTokens.take 3) all ∧
      Workspace.empty.Leaves
        (.sequence [.repetition (some 1) (.custom claimGroups),
          .repetition (some 1) (.custom claimGroups)]) (listTokens.take 3) all := by
  have hends : ∀ rest, rest <:+ listTokens.take 3 →
      (Matcher.custom claimGroups).Ends Workspace.empty.rules rest :=
    fun rest _ => ⟨claimGroups rest, 0, rfl⟩
  obtain ⟨all, hall, _, _, _, hblocks, hbounds⟩ := repetition_laws hends
  obtain ⟨first, both, hfirst, htwo, hboth, _, _⟩ := hbounds 1 1
  have hone : first = [.anonymous "inner" [.terminal ⟨"mark", "("⟩], .terminal ⟨"mark", "("⟩] :=
    hfirst.unique ⟨_, rfl, rfl⟩
  have hsame : both = all := by
    rw [htwo.unique ⟨_, rfl, rfl⟩, hall.unique ⟨_, rfl, rfl⟩]
  have hlen : all.length = 4 := by
    rw [hall.unique ⟨_, rfl, rfl⟩]
    rfl
  subst hone hsame
  exact ⟨hfirst, both, hlen, hblocks 1 (Nat.le_refl 1), hboth⟩

end Claims

end TokenGrammar
