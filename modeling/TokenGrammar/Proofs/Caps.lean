import TokenGrammar.Proofs.Answers
import TokenGrammar.Proofs.Lockstep

namespace TokenGrammar

/-- The second settings have the bound `k` where the first have none. -/
def Settings.Capped (k : Nat) (s s' : Settings) : Prop :=
  s.parse = s'.parse ∧
    (s.repetition = s'.repetition ∨ s.repetition = ⟨none⟩ ∧ s'.repetition = ⟨some k⟩)

theorem Settings.Capped.refl (k : Nat) (s : Settings) : s.Capped k s := ⟨rfl, .inl rfl⟩

namespace Recognizer

theorem mayRepeat_capped {count k : Nat} {ts : List Token} (h : count + ts.length ≤ k) :
    mayRepeat none count ts = mayRepeat (some k) count ts := by
  cases ts with
  | nil => rfl
  | cons t ts =>
    rw [List.length_cons] at h
    have hlt : count < k := by omega
    simp [mayRepeat, hlt]

/-- An iteration takes a token, so the tokens run out before a bound is reached that is no less than
their number. -/
theorem iterate_capped (r : Recognizer) (fuel : Nat) {count k : Nat} {ts : List Token}
    (h : count + ts.length ≤ k) :
    iterate none r fuel count ts = iterate (some k) r fuel count ts := by
  induction fuel generalizing count ts with
  | zero => simp only [iterate, mayRepeat_capped h]
  | succ fuel ih =>
    apply iterate_succ_congr r (mayRepeat_capped h)
    intro node hlt
    exact ih (by omega)

/-- A repetition makes at most as many iterations as there are tokens, so a bound that is no less
does not show. -/
theorem repetition_capped (r : Recognizer) {k : Nat} {ts : List Token} (h : ts.length ≤ k) :
    Recognizer.repetition none r ts = Recognizer.repetition (some k) r ts := by
  rw [repetition, repetition, r.iterate_capped ts.length ((Nat.zero_add _).trans_le h)]

end Recognizer

theorem sameRepetitions_capped {k : Nat} {ts : List Token} (h : ts.length ≤ k) :
    SameRepetitions (Settings.Capped k) ts := by
  rintro _ _ ⟨s, s', ⟨_, hs⟩, rfl, rfl⟩ r rest hrest
  rcases hs with hs | ⟨hs, hs'⟩
  · rw [hs]
  · rw [hs, hs']
    exact r.repetition_capped (hrest.length_le.trans h)

/-- The same calls, but for grammars opened without a bound in one case and with the bound `k` in
the other, lead to workspaces that agree on every token list no longer than `k`: on the start rule,
on parses, on the matchers handed out for rules and on what these find, events included. -/
theorem Workspace.caps_invisible (w : Workspace) (k : Nat) {calls calls' : List Call}
    (hcalls : List.Forall₂ (Call.Alike (Settings.Capped k)) calls calls') {ts : List Token}
    (hts : ts.length ≤ k) :
    (∀ name, (w.performAll calls).matchStart name ts = (w.performAll calls').matchStart name ts) ∧
    (∀ name, (w.performAll calls).parse name ts = (w.performAll calls').parse name ts) ∧
    (∀ name rule, (w.performAll calls).ruleMatcher name rule =
      (w.performAll calls').ruleMatcher name rule) ∧
    ∀ m, (w.performAll calls).run m ts = (w.performAll calls').run m ts := by
  have h := (Alike.refl (Settings.Capped.refl k) w).performAll (Settings.Capped.refl k) hcalls
  have hS := sameRepetitions_capped hts
  refine ⟨h.matchStart_eq hS, h.parse_eq hS (fun _ _ hs => hs.1), h.ruleMatcher_eq, ?_⟩
  intro m
  exact h.run_eq hS (Matcher.Alike.refl (Settings.Capped.refl k) m)

section Lists

theorem caps_invisible_on_lists :
    (Workspace.empty.performAll (.new "lists" {} ::
      (listCalls ++ [.build "lists" "list"]))).parse "lists" listTokens =
    (Workspace.empty.performAll (.new "lists" ⟨⟨some 6⟩, {}⟩ ::
      (listCalls ++ [.build "lists" "list"]))).parse "lists" listTokens := by
  have hnew : Call.Alike (Settings.Capped 6) (.new "lists" {}) (.new "lists" ⟨⟨some 6⟩, {}⟩) :=
    .new ⟨rfl, .inr ⟨rfl, rfl⟩⟩
  have hsame (calls : List Call) : List.Forall₂ (Call.Alike (Settings.Capped 6)) calls calls :=
    List.forall₂_same.mpr (fun c _ => .same c)
  exact (Workspace.caps_invisible .empty 6 (.cons hnew (hsame _)) (by decide)).2.1 "lists"

end Lists

end TokenGrammar
