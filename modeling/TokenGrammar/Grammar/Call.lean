import TokenGrammar.Grammar.Workspace

namespace TokenGrammar

/-- How a matcher is made; its parts are kept under names. -/
inductive Making where
  | terminal (spec : TerminalSpec)
  | custom (f : List Token → Option Node)
  | copy (part : String)
  | sequence (parts : List String)
  | alternation (alternatives : List String)
  | optional (body : String)
  | repetition (max : Option Nat) (body : String)
  | rule (name : String) (body : String)
  /-- A reference, from an open grammar. -/
  | reference (grammar rule : String)
  /-- The repetition that an open grammar's settings bound. -/
  | bounded (grammar body : String)
  /-- The matcher for a rule, from a compiled grammar. -/
  | ruleMatcher (grammar rule : String)

/-- A call on a workspace. One that fails changes nothing, but that a grammar which does not compile
is gone. -/
inductive Call where
  | new (grammar : String) (settings : Settings)
  | make (name : String) (making : Making)
  | define (grammar rule body : String)
  | build (grammar start : String)
  | drop (grammar : String)
  | forget (name : String)

namespace Workspace

/-- The matcher that is made, if there is one, and the workspace with the names that it mentions. -/
def make (w : Workspace) : Making → Except WorkspaceError (Option Matcher × Workspace)
  | .terminal spec => return (some (.terminal spec), w)
  | .custom f => return (some (.custom f), w)
  | .copy part => return (some (← w.kept part), w)
  | .sequence parts => return (some (.sequence (← parts.mapM w.kept)), w)
  | .alternation parts => return (some (.alternation (← parts.mapM w.kept)), w)
  | .optional body => return (some (.optional (← w.kept body)), w)
  | .repetition max body => return (some (.repetition max (← w.kept body)), w)
  | .rule name body => return (some (.rule name (← w.kept body)), w)
  | .reference grammar rule => do
    let (m, w) ← w.reference grammar rule
    return (some m, w)
  | .bounded grammar body => do
    let m ← w.kept body
    return (some (← w.repetition grammar m), w)
  | .ruleMatcher grammar rule => return (← w.ruleMatcher grammar rule, w)

/-- The workspace after a call. -/
def perform (w : Workspace) : Call → Workspace
  | .new grammar settings => w.new grammar settings
  | .make name making =>
    match w.make making with
    | .error _ => w
    | .ok (none, w) => w
    | .ok (some m, w) => w.keep name m
  | .define grammar rule body =>
    match w.kept body >>= w.define grammar rule with
    | .ok (.ok w) => w
    | .ok (.error _) | .error _ => w
  | .build grammar start =>
    match w.build grammar start with
    | .error _ => w
    | .ok (_, w) => w
  | .drop grammar => w.drop grammar
  | .forget name => w.forget name

/-- The workspace after a list of calls. -/
def performAll (w : Workspace) (calls : List Call) : Workspace := calls.foldl perform w

end Workspace

end TokenGrammar
