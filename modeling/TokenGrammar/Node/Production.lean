import TokenGrammar.Node.Basic

namespace TokenGrammar

/-- A node under construction, whose children are pushed one by one. -/
structure Production where
  rule : String
  isGroup : Bool
  contents : List Node

namespace Production

def named (rule : String) : Production := ⟨rule, false, []⟩

/-- A group under construction; its name stands in angle brackets. -/
def grouped (name : String) : Production := ⟨s!"<{name}>", true, []⟩

def push (p : Production) (node : Node) : Production :=
  { p with contents := p.contents ++ node.spliced }

def pushAll (p : Production) (nodes : List Node) : Production :=
  nodes.foldl push p

/-- Tokens consumed by the children so far. -/
def consumed (p : Production) : Nat := Node.lenAll p.contents

def finish (p : Production) : Node :=
  if p.isGroup then .anonymous p.rule p.contents else .named p.rule p.contents

theorem pushAll_eq (p : Production) (nodes : List Node) :
    p.pushAll nodes = { p with contents := p.contents ++ nodes.flatMap Node.spliced } := by
  induction nodes generalizing p with
  | nil => simp [pushAll]
  | cons node nodes ih =>
    rw [pushAll, List.foldl_cons, ← pushAll, ih]
    simp [push]

theorem consumed_push (p : Production) (node : Node) :
    (p.push node).consumed = p.consumed + node.len := by
  simp [consumed, push, Node.lenAll_append]

theorem finish_named (rule : String) (children : List Node) :
    ((named rule).pushAll children).finish = Node.production rule children := by
  simp [pushAll_eq, named, finish, Node.production]

theorem finish_grouped (name : String) (children : List Node) :
    ((grouped name).pushAll children).finish = Node.group name children := by
  simp [pushAll_eq, grouped, finish, Node.group]

end Production

end TokenGrammar
