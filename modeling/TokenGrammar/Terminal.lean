import TokenGrammar.Pattern
import TokenGrammar.Shape
import TokenGrammar.Token

namespace TokenGrammar

/-- What is asked of a token's value. -/
inductive ValueSpec where
  | exact (value : String)
  | pattern (p : Pattern)

/-- What a terminal asks of one token. -/
inductive TerminalSpec where
  | predicate (p : Token → Bool)
  | literal (value : String)
  | pattern (p : Pattern)
  /-- A token of one kind, with a value that satisfies `value` if it is given. -/
  | structured (kind : String) (value : Option ValueSpec)

def ValueSpec.accepts : ValueSpec → String → Bool
  | .exact expected, value => expected == value
  | .pattern p, value => p.accepts value

namespace TerminalSpec

def accepts : TerminalSpec → Token → Bool
  | .predicate p, t => p t
  | .literal value, t => t.value == value
  | .pattern p, t => p.accepts t.value
  | .structured kind value, t => t.kind == kind && value.all (·.accepts t.value)

end TerminalSpec

def Pattern.shape (p : Pattern) : Shape := .tuple "Regex" [.text p.text]

def ValueSpec.shape : ValueSpec → Shape
  | .exact value => .tuple "Exact" [.text value]
  | .pattern p => .tuple "Pattern" [p.shape]

def TerminalSpec.shape : TerminalSpec → Shape
  | .predicate _ => .plain "Predicate(..)"
  | .literal value => .tuple "Literal" [.text value]
  | .pattern p => .tuple "Pattern" [p.shape]
  | .structured kind value =>
    .record "Structured" [("kind", .text kind), ("value", .option (value.map (·.shape)))]

/-- A pattern that does not compile. -/
structure SpecError where
  pattern : String
  cause : Pattern.Refusal

namespace SpecError

def report (e : SpecError) : String := e.cause.report e.pattern

def message (e : SpecError) : String :=
  s!"Invalid terminal pattern '{e.pattern}': {e.report}"

end SpecError

def Pattern.compile (text : String) : Except SpecError Pattern :=
  (Pattern.ofText text).mapError fun cause => ⟨text, cause⟩

end TokenGrammar
