import TokenGrammar.Node.Basic

namespace TokenGrammar.Node

/-- Labels longer than this are cut. -/
def labelLimit : Nat := 30

/-- The first `limit` characters and an ellipsis, or the whole text if it is no longer. -/
def shortened (limit : Nat) (text : String) : String :=
  if text.length ≤ limit then text else String.ofList (text.toList.take limit) ++ "..."

def icon : Node → String
  | .named _ _ => "§"
  | .anonymous _ _ => "○"
  | .terminal _ => "◦"

def label : Node → String
  | .terminal t => s!"{t.kind} {t.value}"
  | .named rule _ | .anonymous rule _ => rule

/-- The part of a line that stands after the connectors. -/
def heading (node : Node) : String := s!"{node.icon} {shortened labelLimit node.label}"

def connector (last : Bool) : String := if last then "└─ " else "├─ "

/-- What stands before the connectors of a node's children. -/
def indent (last : Bool) : String := if last then "   " else "│  "

mutual

/-- The lines below `node`, each starting with `margin`. -/
def branchLines (margin : String) : Node → List String
  | .terminal _ => []
  | .named _ cs | .anonymous _ cs => branchLinesAll margin cs

def branchLinesAll (margin : String) : List Node → List String
  | [] => []
  | c :: cs =>
    (margin ++ connector cs.isEmpty ++ c.heading)
      :: (branchLines (margin ++ indent cs.isEmpty) c ++ branchLinesAll margin cs)

end

def outlineLines (node : Node) : List String := node.heading :: branchLines "" node

/-- One line a node, children under their parent. Every line ends with a newline. -/
def outline (node : Node) : String :=
  String.join (node.outlineLines.map (· ++ "\n"))

end TokenGrammar.Node
