import TokenGrammar.Matcher.Event
import TokenGrammar.Node.Basic

namespace TokenGrammar

/-- Takes a node off the front of a token list, or fails. The combinators decide by the lengths of
the nodes that they get where the next part starts. -/
abbrev Recognizer := List Token → Run (Option Node)

/-- The tokens behind a node at the front of `ts`; none if it claims more than there are. -/
def Node.restOf (ts : List Token) (node : Node) : List Token := ts.drop node.len

namespace Recognizer

open Run

/-- A recognizer that reports nothing. -/
def ofFn (f : List Token → Option Node) : Recognizer := fun ts => return f ts

/-- One token that satisfies `spec`. -/
def terminal (spec : TerminalSpec) : Recognizer
  | [] => return none
  | t :: _ =>
    if spec.accepts t then do
      emit (.terminalMatched spec t.value)
      return some (.terminal t)
    else return none

/-- The nodes of all parts one behind the other; `index` numbers the first. -/
def sequenceFrom (index : Nat) : List Recognizer → List Token → Run (Option (List Node))
  | [], _ => return some []
  | r :: rs, ts => do
    match ← r ts with
    | none =>
      emit (.sequenceFailed index)
      return none
    | some node => Option.map (node :: ·) <$> sequenceFrom (index + 1) rs (node.restOf ts)

/-- All parts one behind the other. -/
def sequence (parts : List Recognizer) : Recognizer := fun ts =>
  Option.map (Node.group "sequence") <$> sequenceFrom 0 parts ts

/-- The node of the first alternative that has one, and its number, counted from `index`. -/
def firstFrom (index : Nat) : List Recognizer → List Token → Run (Option (Nat × Node))
  | [], _ => return none
  | r :: rs, ts => do
    match ← r ts with
    | some node => return some (index, node)
    | none => firstFrom (index + 1) rs ts

/-- The first alternative that matches. -/
def alternation (alternatives : List Recognizer) : Recognizer := fun ts => do
  match ← firstFrom 0 alternatives ts with
  | some (index, node) =>
    emit (.alternativeChosen index)
    return some node
  | none =>
    emit (.noAlternative alternatives.length)
    return none

/-- The body, or nothing where it does not match. -/
def optional (body : Recognizer) : Recognizer := fun ts =>
  (fun node => some (Node.group "option" node.toList)) <$> body ts

/-- Whether there may be a further iteration after `count` of them. -/
def mayRepeat (max : Option Nat) (count : Nat) (ts : List Token) : Bool :=
  !ts.isEmpty && max.all (count < ·)

/-- The end of an iteration, which is reported. -/
def ended (count : Nat) : Run (List Node) := do
  emit (.repeated count)
  return []

/-- The nodes of a body as often as it matches, at most `max` times if that is given. A match
without a token ends the iteration and is dropped, for the next would be the same. `count`
iterations were made before. Each further one costs fuel, without which the run is cut short. -/
def iterate (max : Option Nat) (body : Recognizer) : Nat → Nat → List Token → Run (List Node)
  | 0, count, ts => if mayRepeat max count ts then unfinished else ended count
  | fuel + 1, count, ts =>
    if mayRepeat max count ts then do
      match ← body ts with
      | none => ended count
      | some node =>
        if node.isEmpty then
          emit (.zeroWidth count)
          ended count
        else (node :: ·) <$> iterate max body fuel (count + 1) (node.restOf ts)
    else ended count

/-- The body as often as it matches, at most `max` times if that is given. Each iteration takes a
token, so there is fuel for as many as there are tokens. -/
def repetition (max : Option Nat) (body : Recognizer) : Recognizer := fun ts =>
  some <$> Node.group "repetition" <$> iterate max body ts.length 0 ts

/-- The body as a production called `name`. -/
def rule (name : String) (body : Recognizer) : Recognizer := fun ts =>
  Option.map (fun node => Node.production name [node]) <$> body ts

end Recognizer

end TokenGrammar
