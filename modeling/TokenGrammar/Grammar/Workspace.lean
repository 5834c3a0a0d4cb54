import TokenGrammar.Grammar.Rules
import TokenGrammar.Grammar.Parse

namespace TokenGrammar

/-- Values by name. -/
abbrev Named (α : Type) := List (String × α)

namespace Named

variable {α : Type}

def erase (xs : Named α) (name : String) : Named α := xs.filter (·.1 ≠ name)

/-- The value `a` under `name`, whatever was there before. -/
def put (xs : Named α) (name : String) (a : α) : Named α := (name, a) :: xs.erase name

end Named

/-- A grammar whose rules may still be defined. -/
structure OpenGrammar where
  table : Nat
  settings : Settings

/-- A grammar whose rules are all defined. -/
structure CompiledGrammar where
  table : Nat
  start : String
  settings : Settings

/-- Open grammars, compiled grammars and matchers under names of their own. A rule table lives as
long as one of these reaches it: a grammar by its table, a matcher by its handles, a table by the
handles in its rules. -/
structure Workspace where
  /-- Every table ever opened; a table's number is its position. -/
  tables : List RuleTable
  opened : Named OpenGrammar
  compiled : Named CompiledGrammar
  matchers : Named Matcher

inductive WorkspaceError where
  | noGrammar
  | noCompiled
  | noMatcher (name : String)
deriving DecidableEq

namespace Workspace

def empty : Workspace := ⟨[], [], [], []⟩

def table (w : Workspace) (id : Nat) : RuleTable := w.tables[id]?.getD .empty

/-- The tables that something in the workspace holds by itself. -/
def roots (w : Workspace) : List Nat :=
  w.opened.map (·.2.table) ++ w.compiled.map (·.2.table) ++
    w.matchers.flatMap (·.2.owned)

/-- Whether one of `from_` is `id` or leads to it by at most `steps` handles in rules. -/
def reaches (w : Workspace) (id : Nat) : Nat → List Nat → Bool
  | 0, from_ => from_.contains id
  | steps + 1, from_ =>
    from_.contains id || w.reaches id steps (from_.flatMap fun t => (w.table t).owned).eraseDups

/-- Whether a table is still in use. No way through the tables needs more steps than there are
tables. -/
def isAlive (w : Workspace) (id : Nat) : Bool := w.reaches id w.tables.length w.roots

/-- The tables in use. -/
def alive (w : Workspace) : List Nat := (List.range w.tables.length).filter w.isAlive

/-- The rules in force while the tables of `alive` are in use. -/
def rulesIn (w : Workspace) (alive : List Nat) : Matcher.Rules := fun slot =>
  if alive.contains slot.table then (w.table slot.table).find? slot.name else none

/-- The rules in force. -/
def rules (w : Workspace) : Matcher.Rules := w.rulesIn w.alive

/-- Enough links inside each other for any run over `ts` that comes to an end: a run that goes
through the same link twice without a token between never does. -/
def enough (w : Workspace) (ts : List Token) : Nat :=
  (ts.length + 1) * (w.tables.map (·.slots.length)).foldr (· + ·) 0 + 1

/-- Runs a matcher under the rules in force. The tables in use are found once a run. -/
def run (w : Workspace) (m : Matcher) (ts : List Token) : Run (Option Node) :=
  let alive := w.alive
  m.run (w.rulesIn alive) (w.enough ts) ts

theorem run_eq (w : Workspace) (m : Matcher) (ts : List Token) :
    w.run m ts = m.run w.rules (w.enough ts) ts := rfl

/-- Opens a new grammar under `name` and drops the open and the compiled one of that name. -/
def new (w : Workspace) (name : String) (settings : Settings) : Workspace :=
  { w with
    tables := w.tables ++ [.empty]
    opened := w.opened.put name ⟨w.tables.length, settings⟩
    compiled := w.compiled.erase name }

/-- Replaces a table. -/
def setTable (w : Workspace) (id : Nat) (t : RuleTable) : Workspace :=
  { w with tables := w.tables.set id t }

/-- A matcher for whatever `rule` is when it runs; the name is mentioned at once. -/
def reference (w : Workspace) (name rule : String) : Except WorkspaceError (Matcher × Workspace) :=
  match w.opened.lookup name with
  | none => .error .noGrammar
  | some g =>
    .ok (.reference ⟨g.table, rule⟩, w.setTable g.table ((w.table g.table).mention rule))

/-- The repetition that a grammar's settings bound. -/
def repetition (w : Workspace) (name : String) (body : Matcher) : Except WorkspaceError Matcher :=
  match w.opened.lookup name with
  | none => .error .noGrammar
  | some g => .ok (.repetition g.settings.repetition.max body)

/-- Defines a rule of an open grammar. -/
def define (w : Workspace) (name rule : String) (m : Matcher) :
    Except WorkspaceError (Except GrammarError Workspace) :=
  match w.opened.lookup name with
  | none => .error .noGrammar
  | some g => .ok (((w.table g.table).define rule m).map (w.setTable g.table))

/-- Compiles an open grammar to run from `start`. The open grammar is gone even if that fails;
the event reports a success. -/
def build (w : Workspace) (name start : String) :
    Except WorkspaceError (Except GrammarError (List String × Event) × Workspace) :=
  match w.opened.lookup name with
  | none => .error .noGrammar
  | some g =>
    let closed := { w with opened := w.opened.erase name }
    let t := w.table g.table
    match t.check start with
    | .error e => .ok (.error e, closed)
    | .ok () =>
      .ok (.ok (t.sortedNames, .grammarBuilt t.slots.length start),
        { closed with compiled := w.compiled.put name ⟨g.table, start, g.settings⟩ })

/-- The match of a compiled grammar's start rule. -/
def matchStart (w : Workspace) (name : String) (ts : List Token) :
    Except WorkspaceError (Run (Option Node)) :=
  match w.compiled.lookup name with
  | none => .error .noCompiled
  | some g => .ok (w.run (.handle ⟨g.table, g.start⟩) ts)

/-- The parse of a compiled grammar, by its settings. -/
def parse (w : Workspace) (name : String) (ts : List Token) :
    Except WorkspaceError (Run (Except ParseError Node)) :=
  match w.compiled.lookup name with
  | none => .error .noCompiled
  | some g =>
    .ok do return parseOutcome g.settings ts (← w.run (.handle ⟨g.table, g.start⟩) ts)

/-- A matcher for one rule of a compiled grammar; it keeps the rules alive. -/
def ruleMatcher (w : Workspace) (name rule : String) : Except WorkspaceError (Option Matcher) :=
  match w.compiled.lookup name with
  | none => .error .noCompiled
  | some g =>
    .ok (((w.table g.table).find? rule).map fun _ => .handle ⟨g.table, rule⟩)

/-- The names of a compiled grammar's rules, sorted. -/
def ruleNames (w : Workspace) (name : String) : Except WorkspaceError (List String) :=
  match w.compiled.lookup name with
  | none => .error .noCompiled
  | some g => .ok (w.table g.table).sortedNames

/-- Keeps a matcher under a name. -/
def keep (w : Workspace) (name : String) (m : Matcher) : Workspace :=
  { w with matchers := w.matchers.put name m }

def forget (w : Workspace) (name : String) : Workspace :=
  { w with matchers := w.matchers.erase name }

/-- The matcher kept under a name. -/
def kept (w : Workspace) (name : String) : Except WorkspaceError Matcher :=
  match w.matchers.lookup name with
  | none => .error (.noMatcher name)
  | some m => .ok m

/-- Drops the open and the compiled grammar of a name. -/
def drop (w : Workspace) (name : String) : Workspace :=
  { w with opened := w.opened.erase name, compiled := w.compiled.erase name }

/-- Whether there is an open or a compiled grammar of a name. -/
def hasGrammar (w : Workspace) (name : String) : Bool :=
  (w.opened.lookup name).isSome || (w.compiled.lookup name).isSome

end Workspace

end TokenGrammar
