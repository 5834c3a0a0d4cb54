import TokenGrammar.Pattern.Automaton.Compile
import TokenGrammar.Pattern.Meaning
import TokenGrammar.Pattern.Lead.Search

namespace TokenGrammar

/-- A pattern over text, as it was written and what it means. -/
structure Pattern where
  text : String
  meaning : Pattern.Regex Pattern.Piece

namespace Pattern

/-- Why a text is refused as a pattern. -/
inductive Refusal where
  | faulty (e : Error)
  | tooLarge

/-- What is wrong with `pattern`. -/
def Refusal.report (pattern : String) : Refusal → String
  | .faulty e => e.report pattern
  | .tooLarge => s!"Compiled regex exceeds size limit of {Automaton.limit} bytes."

/-- The pattern that `text` writes. No automaton is needed where a search for words will do. -/
def ofText (text : String) : Except Refusal Pattern := do
  let expr ← (Expr.ofText text).mapError .faulty
  let (_, meaning) ← (Meaning.ofExpr {} expr).mapError .faulty
  if Automaton.fits meaning || isWordSearch meaning then return ⟨text, meaning⟩ else throw .tooLarge

/-- Whether the pattern matches some part of `value`. -/
def accepts (p : Pattern) (value : String) : Bool :=
  let cs := value.toList
  let anywhere := 1 <<< (cs.length + 1) - 1
  let chart := Chart.ofText (p.meaning.leaves.filterMap Piece.look?).eraseDups cs
  (p.meaning.map (Piece.inText chart)).ends cs.length Move.apply anywhere != 0

end Pattern

end TokenGrammar
