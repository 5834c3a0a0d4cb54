import TokenGrammar.Node.Production
import TokenGrammar.Shape

namespace TokenGrammar

def Token.shape (t : Token) : Shape :=
  .record "SimpleToken" [("kind", .text t.kind), ("value", .text t.value)]

mutual

def Node.shape : Node → Shape
  | .named rule cs =>
    .record "Named" [("rule_name", .text rule), ("contents", .list (Node.shapes cs))]
  | .anonymous rule cs =>
    .record "Anonymous" [("rule_name", .text rule), ("contents", .list (Node.shapes cs))]
  | .terminal t => .tuple "Terminal" [t.shape]

def Node.shapes : List Node → List Shape
  | [] => []
  | c :: cs => c.shape :: Node.shapes cs

end

def Production.shape (p : Production) : Shape :=
  .record "ProductionBuilder" [("rule_name", .text p.rule), ("anonymous", .bool p.isGroup),
    ("contents", .list (Node.shapes p.contents))]

end TokenGrammar
