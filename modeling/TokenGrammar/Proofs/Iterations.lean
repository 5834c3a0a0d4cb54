import TokenGrammar.Node.Production
import TokenGrammar.Proofs.Answers
import TokenGrammar.Proofs.Fuel

namespace TokenGrammar

/-- Why there is no further iteration of `f` on `rest` after `count` of them. -/
inductive Stops (f : List Token → Option Node) (max : Option Nat) (count : Nat)
    (rest : List Token) : Prop where
  | nothingLeft : rest = [] → Stops f max count rest
  | full : max = some count → Stops f max count rest
  | miss : f rest = none → Stops f max count rest
  | still {node} : f rest = some node → node.len = 0 → Stops f max count rest

/-- The greedy iteration of `f` on `ts`, of which `count` iterations were made before. Each node is
found behind the ones before it and takes a token, whether or not there are as many as it claims.
Nothing stops the iteration before one of the nodes, and something does behind the last. -/
structure Greedy (f : List Token → Option Node) (max : Option Nat) (count : Nat)
    (ts : List Token) (nodes : List Node) : Prop where
  found i (h : i < nodes.length) : f (ts.drop (Node.lenAll (nodes.take i))) = some nodes[i]
  takes i (h : i < nodes.length) : 0 < nodes[i].len
  goes_on i (h : i < nodes.length) :
    ¬ Stops f max (count + i) (ts.drop (Node.lenAll (nodes.take i)))
  stops : Stops f max (count + nodes.length) (ts.drop (Node.lenAll nodes))

section

variable {f : List Token → Option Node} {max : Option Nat} {count : Nat} {ts : List Token}
  {node : Node} {nodes others : List Node}

theorem not_stops (hts : ts ≠ []) (hmax : max ≠ some count) (hf : f ts = some node)
    (hz : node.len ≠ 0) : ¬ Stops f max count ts := by
  intro h
  cases h with
  | nothingLeft hnil => exact hts hnil
  | full hfull => exact hmax hfull
  | miss hmiss => cases hf.symm.trans hmiss
  | still hf' hz' =>
    obtain rfl := Option.some.inj (hf.symm.trans hf')
    exact hz hz'

/-- What keeps an iteration from being tried is that nothing is left or the bound is reached. -/
theorem stops_of_not_mayRepeat (h : Recognizer.mayRepeat max count ts = false)
    (hbound : ∀ m ∈ max, count ≤ m) : Stops f max count ts := by
  by_cases hts : ts = []
  · exact .nothingLeft hts
  · cases max with
    | none => simp [Recognizer.mayRepeat, hts] at h
    | some m =>
      have hle := hbound m rfl
      have hge : m ≤ count := by simpa [Recognizer.mayRepeat, hts] using h
      exact .full (congrArg some (Nat.le_antisymm hge hle))

theorem greedy_nil_iff : Greedy f max count ts [] ↔ Stops f max count ts := by
  constructor
  · intro h
    exact h.stops
  · intro h
    exact ⟨nofun, nofun, nofun, h⟩

/-- The first iteration, and the others on what it leaves. -/
theorem greedy_cons_iff : Greedy f max count ts (node :: nodes) ↔
    f ts = some node ∧ 0 < node.len ∧ ¬ Stops f max count ts ∧
      Greedy f max (count + 1) (node.restOf ts) nodes := by
  have rest (i : Nat) : ts.drop (Node.lenAll ((node :: nodes).take (i + 1))) =
      (node.restOf ts).drop (Node.lenAll (nodes.take i)) := by
    simp [Node.restOf, Node.lenAll, List.drop_drop]
  have last : ts.drop (Node.lenAll (node :: nodes)) =
      (node.restOf ts).drop (Node.lenAll nodes) := by
    simp [Node.restOf, Node.lenAll, List.drop_drop]
  have shift (i : Nat) : count + (i + 1) = count + 1 + i := by omega
  constructor
  · intro h
    refine ⟨h.found 0 (Nat.succ_pos _), h.takes 0 (Nat.succ_pos _),
      h.goes_on 0 (Nat.succ_pos _), ?_, ?_, ?_, ?_⟩
    · intro i hi
      exact rest i ▸ h.found (i + 1) (Nat.succ_lt_succ hi)
    · intro i hi
      exact h.takes (i + 1) (Nat.succ_lt_succ hi)
    · intro i hi
      exact rest i ▸ shift i ▸ h.goes_on (i + 1) (Nat.succ_lt_succ hi)
    · exact last ▸ shift nodes.length ▸ h.stops
  · rintro ⟨hf, hlen, hgo, h⟩
    refine ⟨?_, ?_, ?_, ?_⟩
    · intro i hi
      cases i with
      | zero => exact hf
      | succ i => exact (congrArg f (rest i)).trans (h.found i (Nat.lt_of_succ_lt_succ hi))
    · intro i hi
      cases i with
      | zero => exact hlen
      | succ i => exact h.takes i (Nat.lt_of_succ_lt_succ hi)
    · intro i hi
      cases i with
      | zero => exact hgo
      | succ i =>
        rw [rest i, shift i]
        exact h.goes_on i (Nat.lt_of_succ_lt_succ hi)
    · rw [last, List.length_cons, shift]
      exact h.stops

theorem Greedy.length_le (h : Greedy f max count ts nodes) : nodes.length ≤ ts.length := by
  induction nodes generalizing count ts with
  | nil => exact Nat.zero_le _
  | cons node nodes ih =>
    obtain ⟨_, hlen, hgo, hrest⟩ := greedy_cons_iff.mp h
    have hts : ts ≠ [] := fun hnil => hgo (.nothingLeft hnil)
    exact Nat.lt_of_le_of_lt (ih hrest) (Recognizer.length_restOf_lt hts (by omega))

/-- What stops an iteration, and what is found otherwise, leaves no choice. -/
theorem Greedy.unique (h : Greedy f max count ts nodes) (h' : Greedy f max count ts others) :
    others = nodes := by
  induction nodes generalizing count ts others with
  | nil =>
    cases others with
    | nil => rfl
    | cons other others => exact absurd h.stops (greedy_cons_iff.mp h').2.2.1
  | cons node nodes ih =>
    obtain ⟨hf, _, hgo, hrest⟩ := greedy_cons_iff.mp h
    cases others with
    | nil => exact absurd h'.stops hgo
    | cons other others =>
      obtain ⟨hf', _, _, hrest'⟩ := greedy_cons_iff.mp h'
      obtain rfl := Option.some.inj (hf.symm.trans hf')
      rw [ih hrest hrest']

end

namespace Run

variable {α β : Type}

/-- The run comes to an end with the answer `a`, and `e` is the last event that it reports. -/
def Closes (x : Run α) (a : α) (e : Event) : Prop := ∃ log, x = some (a, log ++ [e])

variable {x : Run α} {a : α} {b : β} {e : Event}

theorem closes_emit (e : Event) (a : α) : (do emit e; return a : Run α).Closes a e := ⟨[], rfl⟩

theorem Closes.bind {g : α → Run β} (hx : x.answer? = some a) (h : (g a).Closes b e) :
    (x >>= g).Closes b e := by
  obtain ⟨⟨_, before⟩, rfl, rfl⟩ := Option.map_eq_some_iff.mp hx
  obtain ⟨log, hg⟩ := h
  refine ⟨before ++ log, bind_eq_some_iff.mpr ⟨_, before, log ++ [e], rfl, hg, ?_⟩⟩
  exact List.append_assoc _ _ _

theorem Closes.map (g : α → β) (h : x.Closes a e) : (g <$> x).Closes (g a) e := by
  obtain ⟨log, rfl⟩ := h
  exact ⟨log, rfl⟩

end Run

namespace Recognizer

open Run

/-- On `s` and every rest of it the recognizer comes to an end, and `f` is what it answers. -/
def Computes (s : List Token) (r : Recognizer) (f : List Token → Option Node) : Prop :=
  ∀ ts, ts <:+ s → (r ts).answer? = some (f ts)

variable {s : List Token} {r : Recognizer} {f : List Token → Option Node}

theorem iterate_greedy (hr : Computes s r f) {max : Option Nat} {fuel count : Nat}
    {ts : List Token} (hts : ts <:+ s) (henough : ts.length ≤ fuel)
    (hbound : ∀ m ∈ max, count ≤ m) :
    ∃ nodes, (iterate max r fuel count ts).Closes nodes (.repeated (count + nodes.length)) ∧
      Greedy f max count ts nodes := by
  induction fuel generalizing count ts with
  | zero =>
    obtain rfl : ts = [] := List.eq_nil_of_length_eq_zero (Nat.le_zero.mp henough)
    exact ⟨[], closes_emit _ _, greedy_nil_iff.mpr (.nothingLeft rfl)⟩
  | succ fuel ih =>
    cases hrepeat : mayRepeat max count ts with
    | false =>
      rw [iterate_of_not_mayRepeat r _ hrepeat]
      exact ⟨[], closes_emit _ _, greedy_nil_iff.mpr (stops_of_not_mayRepeat hrepeat hbound)⟩
    | true =>
      obtain ⟨hnil, hless⟩ := mayRepeat_iff.mp hrepeat
      have hopen : max ≠ some count := fun hm => Nat.lt_irrefl count (hless count hm)
      simp only [iterate, hrepeat, ↓reduceIte]
      cases hf : f ts with
      | none =>
        refine ⟨[], .bind ((hr ts hts).trans (congrArg some hf)) (closes_emit _ _), ?_⟩
        exact greedy_nil_iff.mpr (.miss hf)
      | some node =>
        by_cases hz : node.len = 0
        · refine ⟨[], .bind ((hr ts hts).trans (congrArg some hf)) ?_, ?_⟩
          · simp only [Node.isEmpty, hz, BEq.rfl, ↓reduceIte]
            exact .bind (answer_emit _) (closes_emit _ _)
          · exact greedy_nil_iff.mpr (.still hf hz)
        · have hlt := length_restOf_lt hnil hz
          have hnext : ∀ m ∈ max, count + 1 ≤ m := hless
          obtain ⟨nodes, hclose, hgreedy⟩ := ih (restOf_suffix hts node) (by omega) hnext
          refine ⟨node :: nodes, .bind ((hr ts hts).trans (congrArg some hf)) ?_, ?_⟩
          · have hnode : node.isEmpty = false := by simpa [Node.isEmpty] using hz
            simp only [hnode, Bool.false_eq_true, ↓reduceIte, List.length_cons]
            have := hclose.map (node :: ·)
            rwa [Nat.add_assoc, Nat.add_comm 1] at this
          · exact greedy_cons_iff.mpr
              ⟨hf, Nat.pos_of_ne_zero hz, not_stops hnil hopen hf hz, hgreedy⟩

end Recognizer

namespace Workspace

variable {w : Workspace} {m : Matcher} {f : List Token → Option Node} {ts : List Token}

theorem enough_mono (w : Workspace) {rest : List Token} (h : rest.length ≤ ts.length) :
    w.enough rest ≤ w.enough ts :=
  Nat.succ_le_succ (Nat.mul_le_mul_right _ (Nat.succ_le_succ h))

/-- The links allowed for a token list are enough for each of its rests. -/
theorem computes_of_gives (h : ∀ rest, rest <:+ ts → m.Gives w.rules rest (f rest)) :
    Recognizer.Computes ts (m.run w.rules (w.enough ts)) f := by
  intro rest hrest
  have hrun := (w.run_iff_gives m rest (f rest)).mpr (h rest hrest)
  exact (Matcher.run_below w.rules (w.enough_mono hrest.length_le) m rest).answer hrun

/-- A repetition comes to an end if its body does, and reports how often it iterated. What it found
is the greedy iteration of what the body finds, of which there is only one, with at most one
iteration a token; it is a group of what each of these nodes leaves when it is pushed. -/
theorem repetition_greedy (h : ∀ rest, rest <:+ ts → m.Gives w.rules rest (f rest))
    (max : Option Nat) :
    ∃ nodes group, (w.run (.repetition max m) ts).Closes (some group) (.repeated nodes.length) ∧
      group = ((Production.grouped "repetition").pushAll nodes).finish ∧
      group.contents = nodes.flatMap Node.spliced ∧
      nodes.length ≤ ts.length ∧ Greedy f max 0 ts nodes ∧
      ∀ others, Greedy f max 0 ts others → others = nodes := by
  obtain ⟨nodes, hclose, hgreedy⟩ := Recognizer.iterate_greedy (computes_of_gives h)
    (List.suffix_refl ts) (Nat.le_refl _) (fun m _ => Nat.zero_le m)
  rw [Nat.zero_add] at hclose
  refine ⟨nodes, Node.group "repetition" nodes, (hclose.map _).map some, ?_, rfl,
    hgreedy.length_le, hgreedy, fun _ => hgreedy.unique⟩
  rw [Production.finish_grouped]

end Workspace

section Claims

/-- A function that finds the first token twice, whether or not there is a second one. -/
def claimTwice : List Token → Option Node
  | t :: _ => some (.production "twice" [.terminal t, .terminal t])
  | [] => none

/-- On three tokens the second node claims a fourth one, and nothing is left behind it. -/
theorem repetition_greedy_on_claims :
    ∃ group, (Workspace.empty.run (.repetition none (.custom claimTwice))
        (listTokens.take 3)).Closes (some group) (.repeated 2) ∧
      group.contents = [
        .production "twice" [.terminal ⟨"mark", "("⟩, .terminal ⟨"mark", "("⟩],
        .production "twice" [.terminal ⟨"mark", "("⟩, .terminal ⟨"mark", "("⟩]] := by
  have hgives : ∀ rest, rest <:+ listTokens.take 3 →
      (Matcher.custom claimTwice).Gives Workspace.empty.rules rest (claimTwice rest) :=
    fun _ _ => ⟨0, rfl⟩
  obtain ⟨nodes, group, hclose, _, hparts, _, _, honly⟩ :=
    Workspace.repetition_greedy hgives none
  have hgreedy : Greedy claimTwice none 0 (listTokens.take 3) [
      .production "twice" [.terminal ⟨"mark", "("⟩, .terminal ⟨"mark", "("⟩],
      .production "twice" [.terminal ⟨"mark", "("⟩, .terminal ⟨"mark", "("⟩]] := by
    refine greedy_cons_iff.mpr ⟨rfl, by decide, not_stops nofun nofun rfl (by decide), ?_⟩
    refine greedy_cons_iff.mpr ⟨rfl, by decide, not_stops nofun nofun rfl (by decide), ?_⟩
    exact greedy_nil_iff.mpr (.nothingLeft rfl)
  obtain rfl := honly _ hgreedy
  exact ⟨group, hclose, hparts⟩

end Claims

end TokenGrammar
