import TokenGrammar.Node.Basic
import TokenGrammar.Settings.Basic

namespace TokenGrammar

inductive ParseError where
  | noMatch
  | incomplete (consumed total : Nat)
deriving DecidableEq

def ParseError.message : ParseError → String
  | .noMatch => "Input does not match the start rule"
  | .incomplete consumed total => s!"Start rule consumed {consumed} of {total} tokens"

/-- What a parse of `ts` gives if the start rule answers `found`. -/
def parseOutcome (settings : Settings) (ts : List Token) (found : Option Node) :
    Except ParseError Node :=
  match found with
  | none => .error .noMatch
  | some node =>
    if settings.parse.requireComplete && !(ts.drop node.len).isEmpty then
      .error (.incomplete node.len ts.length)
    else .ok node

end TokenGrammar
