import TokenGrammar.Proofs.Consumption
import TokenGrammar.Proofs.Derivations
import TokenGrammar.Proofs.Links
import TokenGrammar.Proofs.Lockstep
import TokenGrammar.Proofs.Termination

namespace TokenGrammar

section Outcome

variable {settings : Settings} {ts : List Token} {found : Option Node}

/-- A node leaves nothing if it has as many tokens as there are, or claims more. -/
theorem Node.rest_isEmpty (ts : List Token) (node : Node) :
    (ts.drop node.len).isEmpty = decide (ts.length ≤ node.len) := by
  rw [Bool.eq_iff_iff, List.isEmpty_iff, decide_eq_true_iff, List.drop_eq_nil_iff]

theorem parseOutcome_some (settings : Settings) (ts : List Token) (node : Node) :
    parseOutcome settings ts (some node) =
      if settings.parse.requireComplete = true ∧ node.len < ts.length then
        .error (.incomplete node.len ts.length)
      else .ok node := by
  have hrest : (!(ts.drop node.len).isEmpty) = decide (node.len < ts.length) := by
    rw [Node.rest_isEmpty, ← decide_not, decide_eq_decide, Nat.not_le]
  rw [parseOutcome, hrest]
  simp only [Bool.and_eq_true, decide_eq_true_eq]

theorem parseOutcome_noMatch_iff :
    parseOutcome settings ts found = .error .noMatch ↔ found = none := by
  cases found with
  | none => simp [parseOutcome]
  | some node =>
    rw [parseOutcome_some]
    split <;> simp

theorem parseOutcome_incomplete_iff {consumed total : Nat} :
    parseOutcome settings ts found = .error (.incomplete consumed total) ↔
      settings.parse.requireComplete = true ∧
        ∃ node, found = some node ∧ consumed = node.len ∧ total = ts.length ∧ consumed < total := by
  cases found with
  | none => simp [parseOutcome]
  | some node =>
    rw [parseOutcome_some]
    constructor
    · intro h
      split at h
      · rename_i hshort
        cases h
        exact ⟨hshort.1, node, rfl, rfl, rfl, hshort.2⟩
      · cases h
    · rintro ⟨hall, _, ⟨⟩, rfl, rfl, hlt⟩
      rw [if_pos ⟨hall, hlt⟩]

theorem parseOutcome_ok_iff {node : Node} :
    parseOutcome settings ts found = .ok node ↔
      found = some node ∧ (settings.parse.requireComplete = true → ts.length ≤ node.len) := by
  cases found with
  | none => simp [parseOutcome]
  | some other =>
    rw [parseOutcome_some]
    constructor
    · intro h
      split at h
      · cases h
      · rename_i hlong
        cases h
        exact ⟨rfl, fun hall => Nat.le_of_not_lt (fun hlt => hlong ⟨hall, hlt⟩)⟩
    · rintro ⟨⟨⟩, hlong⟩
      rw [if_neg (fun h => Nat.not_le_of_lt h.2 (hlong h.1))]

/-- The outcome of a parse that does not have to take all tokens, if it has to after all. -/
def demandAll (ts : List Token) : Except ParseError Node → Except ParseError Node
  | .ok node => if node.len < ts.length then .error (.incomplete node.len ts.length) else .ok node
  | .error e => .error e

theorem demandAll_parseOutcome {strict lenient : Settings}
    (hstrict : strict.parse.requireComplete = true)
    (hlenient : lenient.parse.requireComplete = false) (ts : List Token) (found : Option Node) :
    demandAll ts (parseOutcome lenient ts found) = parseOutcome strict ts found := by
  cases found with
  | none => rfl
  | some node => simp [parseOutcome_some, hstrict, hlenient, demandAll]

/-- A node takes up the whole list if it takes its front and leaves nothing. -/
theorem Node.FrontOf.length_le_iff {node : Node} (h : node.FrontOf ts) :
    ts.length ≤ node.len ↔ node.terminals = ts := by
  constructor
  · intro hle
    rw [h.terminals_eq, List.take_of_length_le hle]
  · intro hall
    rw [← node.length_terminals, hall]

end Outcome

namespace Run

variable {α β γ : Type}

theorem map_map (f : α → β) (g : β → γ) (x : Run α) :
    (fun a => g (f a)) <$> x = g <$> f <$> x := by
  cases x <;> rfl

theorem bind_pure (f : α → β) (x : Run α) : (do return f (← x)) = f <$> x := by
  cases x with
  | none => rfl
  | some p =>
    obtain ⟨a, log⟩ := p
    change some (f a, log ++ []) = some (f a, log)
    rw [List.append_nil]

end Run

namespace Workspace

variable {w : Workspace} {name : String} {g : CompiledGrammar}

theorem matchStart_of_compiled (hc : w.compiled.lookup name = some g) (ts : List Token) :
    w.matchStart name ts = .ok (w.run (.handle ⟨g.table, g.start⟩) ts) := by
  simp only [matchStart, hc]

/-- A parse is the match of the start rule with its answer changed, events and end as they are. -/
theorem parse_of_compiled (hc : w.compiled.lookup name = some g) (ts : List Token) :
    w.parse name ts =
      .ok (parseOutcome g.settings ts <$> w.run (.handle ⟨g.table, g.start⟩) ts) := by
  simp only [parse, hc]
  exact congrArg Except.ok (Run.bind_pure _ _)

end Workspace

/-- A matcher that brings no functions with it, nor do the rules behind it, takes the front. -/
theorem Matcher.Throughout.front {rules : Matcher.Rules} {m : Matcher} {ts : List Token}
    {node : Node} (h : m.Throughout rules Matcher.Plain) (hg : m.Gives rules ts (some node)) :
    node.FrontOf ts := by
  obtain ⟨rules', others, hg'⟩ := h.gives hg
  exact gives_front h.1.honest (fun slot m hr => (others slot m hr).honest) hg'

/-- The settings differ at most in what a parse has to take. -/
def Settings.SameBounds (s s' : Settings) : Prop := s.repetition = s'.repetition

theorem sameRepetitions_of_sameBounds (ts : List Token) :
    SameRepetitions Settings.SameBounds ts := by
  rintro _ _ ⟨s, s', hs, rfl, rfl⟩ r rest _
  rw [hs]

namespace Workspace

variable {w w' : Workspace}

/-- Of two grammars that differ in their settings only, the strict one matches as the lenient one
does, and its parse is that of the lenient one with some trees turned down. -/
theorem Alike.demandAll_parse (h : w.Alike Settings.SameBounds w') {name : String}
    {strict lenient : CompiledGrammar} (hc : w.compiled.lookup name = some strict)
    (hc' : w'.compiled.lookup name = some lenient)
    (hstrict : strict.settings.parse.requireComplete = true)
    (hlenient : lenient.settings.parse.requireComplete = false) (ts : List Token) :
    w.matchStart name ts = w'.matchStart name ts ∧
      ∃ parsed, w'.parse name ts = .ok parsed ∧
        w.parse name ts = .ok (demandAll ts <$> parsed) := by
  have hstart := h.matchStart_eq (sameRepetitions_of_sameBounds ts) name
  refine ⟨hstart, _, parse_of_compiled hc' ts, ?_⟩
  rw [matchStart_of_compiled hc, matchStart_of_compiled hc', Except.ok.injEq] at hstart
  rw [parse_of_compiled hc, hstart, ← Run.map_map]
  simp only [demandAll_parseOutcome hstrict hlenient]

/-- A parse finds no match when the start rule does not match. It is incomplete when it has to take
all tokens and the match has fewer, and then tells both numbers, the first of them the smaller one.
Otherwise it gives the very node of the match; if no functions are involved and everything has to be
taken, that is when the terminals of the match are all tokens in order. Grammars that differ in that
setting only match alike, and the strict one turns some trees of the other into incomplete
parses. -/
theorem parse_exact :
    (∀ (w : Workspace) (name : String) (g : CompiledGrammar), w.compiled.lookup name = some g →
      ∀ ts, ∃ run parsed, w.matchStart name ts = .ok run ∧ w.parse name ts = .ok parsed ∧
        (parsed.answer? = none ↔ run.answer? = none) ∧
        (parsed.answer? = some (.error .noMatch) ↔ run.answer? = some none) ∧
        (∀ consumed total, parsed.answer? = some (.error (.incomplete consumed total)) ↔
          g.settings.parse.requireComplete = true ∧ ∃ node, run.answer? = some (some node) ∧
            consumed = node.len ∧ total = ts.length ∧ consumed < total) ∧
        (∀ node, parsed.answer? = some (.ok node) ↔ run.answer? = some (some node) ∧
          (g.settings.parse.requireComplete = true → ts.length ≤ node.len)) ∧
        (g.settings.parse.requireComplete = true →
          (Matcher.handle ⟨g.table, g.start⟩).Throughout w.rules Matcher.Plain →
          ∀ node, parsed.answer? = some (.ok node) ↔
            run.answer? = some (some node) ∧ node.terminals = ts)) ∧
    (∀ (w : Workspace) (calls calls' : List Call),
      List.Forall₂ (Call.Alike Settings.SameBounds) calls calls' →
      ∀ (name : String) (strict lenient : CompiledGrammar),
        (w.performAll calls).compiled.lookup name = some strict →
        (w.performAll calls').compiled.lookup name = some lenient →
        strict.settings.parse.requireComplete = true →
        lenient.settings.parse.requireComplete = false → ∀ ts,
        (w.performAll calls).matchStart name ts = (w.performAll calls').matchStart name ts ∧
        ∃ parsed, (w.performAll calls').parse name ts = .ok parsed ∧
          (w.performAll calls).parse name ts = .ok (demandAll ts <$> parsed)) := by
  refine ⟨?_, ?_⟩
  · intro w name g hc ts
    refine ⟨_, _, matchStart_of_compiled hc ts, parse_of_compiled hc ts, ?_⟩
    generalize hrun : w.run (.handle ⟨g.table, g.start⟩) ts = run
    have hok (node : Node) : (parseOutcome g.settings ts <$> run).answer? = some (.ok node) ↔
        run.answer? = some (some node) ∧
          (g.settings.parse.requireComplete = true → ts.length ≤ node.len) := by
      simp only [Run.answer_map, Option.map_eq_some_iff, parseOutcome_ok_iff]
      constructor
      · rintro ⟨_, hfound, rfl, hlong⟩
        exact ⟨hfound, hlong⟩
      · rintro ⟨hfound, hlong⟩
        exact ⟨_, hfound, rfl, hlong⟩
    refine ⟨?_, ?_, ?_, hok, ?_⟩
    · rw [Run.answer_map, Option.map_eq_none_iff]
    · simp only [Run.answer_map, Option.map_eq_some_iff, parseOutcome_noMatch_iff,
        exists_eq_right]
    · intro consumed total
      simp only [Run.answer_map, Option.map_eq_some_iff, parseOutcome_incomplete_iff]
      constructor
      · rintro ⟨_, hfound, hall, node, rfl, h⟩
        exact ⟨hall, node, hfound, h⟩
      · rintro ⟨hall, node, hfound, h⟩
        exact ⟨_, hfound, hall, node, rfl, h⟩
    · intro hall hplain node
      rw [hok]
      refine and_congr_right ?_
      intro hfound
      rw [← hrun, run_iff_gives] at hfound
      simp only [hall, forall_const]
      exact (hplain.front hfound).length_le_iff
  · intro w calls calls' hcalls name strict lenient hc hc' hstrict hlenient ts
    have hsame (s : Settings) : s.SameBounds s := rfl
    have halike := (Alike.refl hsame w).performAll hsame hcalls
    exact halike.demandAll_parse hc hc' hstrict hlenient ts

end Workspace

section Lists

open Matcher

/-- The grammar of lists opened with some settings, its rules defined, and compiled. -/
def listsWith (settings : Settings) : List Call :=
  .new "lists" settings :: (listCalls ++ [.build "lists" "list"])

theorem build_listsWith (settings : Settings)
    (hopen : ((Workspace.empty.new "lists" settings).performAll listCalls).opened.lookup "lists" =
      some ⟨0, settings⟩)
    (hcheck : (((Workspace.empty.new "lists" settings).performAll listCalls).table 0).check
      "list" = .ok ()) :
    (Workspace.empty.performAll (listsWith settings)).compiled.lookup "lists" =
      some ⟨0, "list", settings⟩ := by
  rw [listsWith, Workspace.performAll_cons, Workspace.performAll_append,
    Workspace.performAll_cons]
  simp only [Workspace.perform, Workspace.build, hopen, hcheck, Named.put]
  rfl

theorem parse_exact_on_lists :
    (∃ parsed, listsCompiled.parse "lists" listTokens = .ok parsed ∧
      parsed.answer? = some (.error (.incomplete 5 6))) ∧
    (∃ parsed, listsCompiled.parse "lists" (listTokens.take 5) = .ok parsed ∧
      parsed.answer? = some (.ok listNode)) ∧
    ∃ parsed, (Workspace.empty.performAll (listsWith ⟨{}, ⟨false⟩⟩)).parse "lists" listTokens =
        .ok parsed ∧
      (Workspace.empty.performAll (listsWith {})).parse "lists" listTokens =
        .ok (demandAll listTokens <$> parsed) := by
  have hc : listsCompiled.compiled.lookup "lists" = some ⟨0, "list", {}⟩ := rfl
  refine ⟨?_, ?_, ?_⟩
  · obtain ⟨run, parsed, hrun, hparsed, _, _, hincomplete, _⟩ :=
      Workspace.parse_exact.1 listsCompiled "lists" _ hc listTokens
    have hfound : run.answer? = some (some listNode) := by
      cases hrun
      rfl
    exact ⟨parsed, hparsed, (hincomplete 5 6).mpr ⟨rfl, listNode, hfound, rfl, rfl, by decide⟩⟩
  · obtain ⟨run, parsed, hrun, hparsed, _, _, _, _, hcovers⟩ :=
      Workspace.parse_exact.1 listsCompiled "lists" _ hc (listTokens.take 5)
    have hfound : run.answer? = some (some listNode) := by
      cases hrun
      rfl
    have hplain : (handle ⟨0, "list"⟩).Throughout listsCompiled.rules Plain :=
      throughout_of_all rfl listsCompiled_customs
    exact ⟨parsed, hparsed, (hcovers rfl hplain listNode).mpr ⟨hfound, rfl⟩⟩
  · have hnew : Call.Alike Settings.SameBounds (.new "lists" {}) (.new "lists" ⟨{}, ⟨false⟩⟩) :=
      .new rfl
    have hsame (calls : List Call) :
        List.Forall₂ (Call.Alike Settings.SameBounds) calls calls :=
      List.forall₂_same.mpr (fun c _ => .same c)
    have hstrict := build_listsWith {} rfl (RuleTable.check_ok rfl rfl)
    have hlenient := build_listsWith ⟨{}, ⟨false⟩⟩ rfl (RuleTable.check_ok rfl rfl)
    exact (Workspace.parse_exact.2 .empty _ _ (.cons hnew (hsame _)) "lists" _ _
      hstrict hlenient rfl rfl listTokens).2

end Lists

end TokenGrammar
