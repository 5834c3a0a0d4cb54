import TokenGrammar.Terminal

namespace TokenGrammar

/-- What matching reports while it runs. -/
inductive Event where
  | terminalMatched (spec : TerminalSpec) (value : String)
  | sequenceFailed (index : Nat)
  | alternativeChosen (index : Nat)
  | noAlternative (count : Nat)
  /-- A repetition ended because its body matched without a token. -/
  | zeroWidth (count : Nat)
  | repeated (count : Nat)
  | grammarBuilt (rules : Nat) (start : String)

namespace Event

def isDebug : Event → Bool
  | .zeroWidth _ | .grammarBuilt _ _ => true
  | _ => false

def message : Event → String
  | .terminalMatched spec value =>
    "terminal " ++ spec.shape.inline ++ " matched " ++ Text.quoted value
  | .sequenceFailed index => s!"sequence failed at element {index}"
  | .alternativeChosen index => s!"alternation chose alternative {index}"
  | .noAlternative count => s!"alternation: none of {count} alternatives matched"
  | .zeroWidth count => s!"repetition stopped on a zero-width match after {count} iterations"
  | .repeated count => s!"repetition matched {count} times"
  | .grammarBuilt rules start => s!"grammar built with {rules} rules, starting at '{start}'"

/-- The event as a line of the log. -/
def line (e : Event) : String := (if e.isDebug then "DEBUG " else "TRACE ") ++ e.message

end Event

/-- An answer and the events before it; `none` if the steps allowed were too few. -/
def Run (α : Type) := Option (α × List Event)

namespace Run

variable {α β : Type}

def pure (a : α) : Run α := some (a, [])

def bind (x : Run α) (f : α → Run β) : Run β :=
  match x with
  | none => none
  | some (a, log) =>
    match f a with
    | none => none
    | some (b, log') => some (b, log ++ log')

/-- The answer changed and the events as they were. -/
def map (f : α → β) (x : Run α) : Run β := Option.map (fun (a, log) => (f a, log)) x

instance : Monad Run where
  map := Run.map
  pure := Run.pure
  bind := Run.bind

/-- A run that did not come to an end. -/
def unfinished : Run α := none

def emit (e : Event) : Run Unit := some ((), [e])

end Run

end TokenGrammar
