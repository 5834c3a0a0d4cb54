import TokenGrammar.Shape

namespace TokenGrammar

structure RepetitionSettings where
  /-- The most iterations of a grammar's repetition; without one there is no bound. -/
  max : Option Nat := none
deriving DecidableEq, Inhabited

structure ParseSettings where
  /-- Whether the start rule has to take every token. -/
  requireComplete : Bool := true
deriving DecidableEq, Inhabited

structure Settings where
  repetition : RepetitionSettings := {}
  parse : ParseSettings := {}
deriving DecidableEq, Inhabited

namespace Settings

def shape (s : Settings) : Shape :=
  .record "EngineConfig" [
    ("repetition", .record "RepetitionConfig" [
      ("max", .option (s.repetition.max.map .nat))]),
    ("parse", .record "ParseConfig" [
      ("require_complete", .bool s.parse.requireComplete)])]

end Settings

end TokenGrammar
