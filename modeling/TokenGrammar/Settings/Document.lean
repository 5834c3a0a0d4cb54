import TokenGrammar.Json.Decode
import TokenGrammar.Settings.Basic

namespace TokenGrammar

open Json

def RepetitionSettings.ofJson : Json → Decoded RepetitionSettings
  | .object ms => return ⟨← orElse (.ok none) asNat? ((Json.object ms).get? "max")⟩
  | .array items => do
    let max ← orElse (.ok none) asNat? items[0]?
    noMoreThan 1 items
    return ⟨max⟩
  | v => .error (.invalidType v.found "struct RepetitionConfig")

def ParseSettings.ofJson : Json → Decoded ParseSettings
  | .object ms => do
    let field := (Json.object ms).get? "require_complete"
    return ⟨← orElse (.error (.missingField "require_complete")) asBool field⟩
  | .array items => do
    let requireComplete ← orElse (.error (.tooShort 0 "ParseConfig" 1)) asBool items[0]?
    noMoreThan 1 items
    return ⟨requireComplete⟩
  | v => .error (.invalidType v.found "struct ParseConfig")

/-- Members are decoded in the order of their names. -/
def Settings.ofJson : Json → Decoded Settings
  | .object ms => do
    let parse ← orElse (.ok {}) ParseSettings.ofJson ((Json.object ms).get? "parse")
    let repetition ← orElse (.ok {}) RepetitionSettings.ofJson ((Json.object ms).get? "repetition")
    return ⟨repetition, parse⟩
  | .array items => do
    let repetition ← orElse (.ok {}) RepetitionSettings.ofJson items[0]?
    let parse ← orElse (.ok {}) ParseSettings.ofJson items[1]?
    noMoreThan 2 items
    return ⟨repetition, parse⟩
  | v => .error (.invalidType v.found "struct EngineConfig")

end TokenGrammar
