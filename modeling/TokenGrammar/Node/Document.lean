import TokenGrammar.Node.Basic
import TokenGrammar.Json.Printer
import TokenGrammar.Token.Document

namespace TokenGrammar

def Node.productionJson (rule : String) (isGroup : Bool) (contents : List Json) : Json :=
  .object [("rule", .string rule), ("anonymous", .bool isGroup), ("contents", .array contents)]

mutual

def Node.toJson : Node → Json
  | .named rule cs => Node.productionJson rule false (Node.toJsonAll cs)
  | .anonymous rule cs => Node.productionJson rule true (Node.toJsonAll cs)
  | .terminal t => .object [("rule", .string Node.terminalRule), ("token", t.toJson)]

def Node.toJsonAll : List Node → List Json
  | [] => []
  | c :: cs => c.toJson :: Node.toJsonAll cs

end

/-- The indented text of the tree. -/
def Node.toJsonText (node : Node) : String := node.toJson.pretty

end TokenGrammar
