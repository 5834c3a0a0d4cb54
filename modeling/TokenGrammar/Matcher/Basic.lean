import TokenGrammar.Matcher.Recognizer

namespace TokenGrammar

/-- A rule of a rule table. -/
structure Slot where
  table : Nat
  name : String
deriving DecidableEq, Inhabited

/-- Terminals, the combinators, and links to rules of rule tables. A reference finds its rule when
it runs; a handle does so too, and besides keeps the table alive that it points into. -/
inductive Matcher where
  | terminal (spec : TerminalSpec)
  | sequence (parts : List Matcher)
  | alternation (alternatives : List Matcher)
  | optional (body : Matcher)
  /-- At most `max` times, if that is given. -/
  | repetition (max : Option Nat) (body : Matcher)
  | rule (name : String) (body : Matcher)
  | reference (slot : Slot)
  | handle (slot : Slot)
  | custom (f : List Token → Option Node)
deriving Inhabited

namespace Matcher

mutual

/-- The recognizer of a matcher whose links run as `link` says. -/
def denote (link : Slot → Recognizer) : Matcher → Recognizer
  | .terminal spec => .terminal spec
  | .sequence ms => .sequence (denoteAll link ms)
  | .alternation ms => .alternation (denoteAll link ms)
  | .optional m => .optional (denote link m)
  | .repetition max m => .repetition max (denote link m)
  | .rule name m => .rule name (denote link m)
  | .reference slot | .handle slot => link slot
  | .custom f => .ofFn f

def denoteAll (link : Slot → Recognizer) : List Matcher → List Recognizer
  | [] => []
  | m :: ms => denote link m :: denoteAll link ms

end

/-- The rules in force: what each slot runs, if it is defined and its table is alive. -/
abbrev Rules := Slot → Option Matcher

/-- The recognizer of a slot. Only the way through a link costs fuel, so a run is cut short only
if it goes through more than `fuel` links inside each other. -/
def follow (rules : Rules) : Nat → Slot → Recognizer
  | 0, _ => fun _ => Run.unfinished
  | fuel + 1, slot => fun ts =>
    match rules slot with
    | none => return none
    | some m => m.denote (follow rules fuel) ts

/-- The recognizer of a matcher under the rules in force. -/
def run (rules : Rules) (fuel : Nat) (m : Matcher) : Recognizer := m.denote (follow rules fuel)

mutual

/-- The tables that a matcher keeps alive by its handles. -/
def owned : Matcher → List Nat
  | .handle slot => [slot.table]
  | .sequence ms | .alternation ms => ownedAll ms
  | .optional m | .repetition _ m | .rule _ m => owned m
  | .terminal _ | .reference _ | .custom _ => []

def ownedAll : List Matcher → List Nat
  | [] => []
  | m :: ms => owned m ++ ownedAll ms

end

mutual

/-- The functions that a matcher brings with it. -/
def customs : Matcher → List (List Token → Option Node)
  | .custom f => [f]
  | .sequence ms | .alternation ms => customsAll ms
  | .optional m | .repetition _ m | .rule _ m => customs m
  | .terminal _ | .reference _ | .handle _ => []

def customsAll : List Matcher → List (List Token → Option Node)
  | [] => []
  | m :: ms => customs m ++ customsAll ms

end

end Matcher

end TokenGrammar
