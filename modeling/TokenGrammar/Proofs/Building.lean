import Mathlib.Algebra.GroupWithZero.Nat
import TokenGrammar.Node.Production

namespace TokenGrammar

/-- How many children a parent gets from this node. -/
def Node.share (node : Node) : Nat := if node.isAnonymous then node.ownLen else 1

theorem Node.length_spliced (node : Node) : node.spliced.length = node.share := by
  cases node <;> rfl

theorem Node.length_flatMap_spliced (nodes : List Node) :
    (nodes.flatMap spliced).length = (nodes.map share).sum := by
  rw [List.length_flatMap, funext length_spliced]

theorem Node.lenAll_eq_sum (nodes : List Node) : lenAll nodes = (nodes.map len).sum := by
  induction nodes with
  | nil => rfl
  | cons node nodes ih => rw [lenAll, ih, List.map_cons, List.sum_cons]

theorem Node.terminalsAll_eq_flatMap (nodes : List Node) :
    terminalsAll nodes = nodes.flatMap terminals := by
  induction nodes with
  | nil => rfl
  | cons node nodes ih => rw [terminalsAll, ih, List.flatMap_cons]

namespace Production

/-- The production was begun empty, and these nodes were pushed since, one by one or several at
once. -/
inductive Took : Production → List Node → Prop where
  | named (rule : String) : Took (.named rule) []
  | grouped (name : String) : Took (.grouped name) []
  | push {p nodes} (node : Node) : Took p nodes → Took (p.push node) (nodes ++ [node])
  | pushAll {p nodes} (more : List Node) : Took p nodes → Took (p.pushAll more) (nodes ++ more)

variable {p : Production} {nodes : List Node}

/-- Pushing looks at one level only: it takes a group by its contents, and leaves the groups in
these alone. -/
theorem Took.contents_eq (h : p.Took nodes) : p.contents = nodes.flatMap Node.spliced := by
  induction h with
  | named | grouped => rfl
  | push node _ ih => simp [Production.push, ih]
  | pushAll more _ ih => simp [pushAll_eq, ih]

theorem ownLen_finish (p : Production) : p.finish.ownLen = p.contents.length := by
  unfold finish
  split <;> rfl

theorem terminals_finish (p : Production) :
    p.finish.terminals = Node.terminalsAll p.contents := by
  unfold finish
  split <;> rfl

theorem Took.consumed_eq (h : p.Took nodes) : p.consumed = (nodes.map Node.len).sum := by
  rw [consumed, h.contents_eq, Node.lenAll_flatMap_spliced, Node.lenAll_eq_sum]

theorem Took.terminals_eq (h : p.Took nodes) :
    p.finish.terminals = nodes.flatMap Node.terminals := by
  rw [terminals_finish, h.contents_eq, Node.terminalsAll_flatMap_spliced,
    Node.terminalsAll_eq_flatMap]

/-- Two groups one behind the other leave what one group over the nodes of both does. -/
theorem contents_push_groups (p : Production) (name name' : String) (xs ys : List Node) :
    ((p.push (Node.group name xs)).push (Node.group name' ys)).contents =
      (p.push (Node.group name (xs ++ ys))).contents := by
  simp [push, Node.group, Node.spliced]

/-- Whatever was pushed, groups with groups in them included, the tokens of these nodes and no
others are consumed. The finished node has them in the order in which they were pushed, and its
length is their number. Of each group it has the children, and every other node is one child. Two
groups pushed one behind the other leave what a single one does. -/
theorem took_exact (h : p.Took nodes) :
    p.consumed = (nodes.map Node.len).sum ∧
    p.finish.terminals = nodes.flatMap Node.terminals ∧
    p.finish.terminals.length = p.finish.len ∧
    p.finish.ownLen = (nodes.map Node.share).sum ∧
    ∀ name name' xs ys, ((p.push (Node.group name xs)).push (Node.group name' ys)).contents =
      (p.push (Node.group name (xs ++ ys))).contents := by
  refine ⟨h.consumed_eq, h.terminals_eq, Node.length_terminals _, ?_, p.contents_push_groups⟩
  rw [ownLen_finish, h.contents_eq, Node.length_flatMap_spliced]

end Production

section Groups

/-- A group that no builder made: there is a group in it. -/
def groupInGroup : Node :=
  .anonymous "outer" [.anonymous "inner" [.terminal ⟨"word", "a"⟩, .terminal ⟨"word", "b"⟩]]

/-- That group, then an item and a word. -/
def mixedProduction : Production :=
  ((Production.grouped "all").push groupInGroup).pushAll
    [.named "item" [.terminal ⟨"word", "c"⟩], .terminal ⟨"word", "d"⟩]

/-- The inner group stays and is one child; all tokens are there all the same. -/
theorem took_exact_on_groups :
    mixedProduction.consumed = 4 ∧ mixedProduction.finish.ownLen = 3 ∧
    mixedProduction.finish.terminals =
      [⟨"word", "a"⟩, ⟨"word", "b"⟩, ⟨"word", "c"⟩, ⟨"word", "d"⟩] := by
  have h : mixedProduction.Took
      [groupInGroup, .named "item" [.terminal ⟨"word", "c"⟩], .terminal ⟨"word", "d"⟩] :=
    .pushAll _ (.push _ (.grouped "all"))
  obtain ⟨hconsumed, hterminals, _, hown, _⟩ := Production.took_exact h
  exact ⟨hconsumed, hown, hterminals⟩

end Groups

end TokenGrammar
