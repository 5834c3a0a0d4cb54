import TokenGrammar.Json.Decode
import TokenGrammar.Token

namespace TokenGrammar

open Json

def Token.toJson (t : Token) : Json :=
  .object [("type", .string t.kind), ("value", .string t.value)]

def Token.ofJson : Json → Decoded Token
  | .object ms => do
    let field (name : String) := (Json.object ms).get? name
    let kind ← (field "type").mapM asString
    let value ← (field "value").mapM asString
    match kind, value with
    | some kind, some value => return ⟨kind, value⟩
    | none, _ => .error (.missingField "type")
    | some _, none => .error (.missingField "value")
  | .array items => do
    let kind ← orElse (.error (.tooShort 0 "SimpleToken" 2)) asString items[0]?
    let value ← orElse (.error (.tooShort 1 "SimpleToken" 2)) asString items[1]?
    noMoreThan 2 items
    return ⟨kind, value⟩
  | v => .error (.invalidType v.found "struct SimpleToken")

end TokenGrammar
