import TokenGrammar.Token

namespace TokenGrammar

/-- A rule that matched, a group that a combinator made, or one consumed token. -/
inductive Node where
  | named (rule : String) (contents : List Node)
  | anonymous (rule : String) (contents : List Node)
  | terminal (token : Token)
deriving Inhabited

namespace Node

/-- The rule name that terminals report. -/
def terminalRule : String := "<terminal>"

def ruleName : Node → String
  | .named rule _ | .anonymous rule _ => rule
  | .terminal _ => terminalRule

def contents : Node → List Node
  | .named _ cs | .anonymous _ cs => cs
  | .terminal _ => []

def token? : Node → Option Token
  | .terminal t => some t
  | _ => none

def isNamed : Node → Bool
  | .named _ _ => true
  | _ => false

def isAnonymous : Node → Bool
  | .anonymous _ _ => true
  | _ => false

def isTerminal : Node → Bool
  | .terminal _ => true
  | _ => false

/-- Number of children; a terminal counts its token. -/
def ownLen : Node → Nat
  | .terminal _ => 1
  | node => node.contents.length

mutual

/-- Number of tokens consumed. -/
def len : Node → Nat
  | .terminal _ => 1
  | .named _ cs | .anonymous _ cs => lenAll cs

def lenAll : List Node → Nat
  | [] => 0
  | c :: cs => c.len + lenAll cs

end

mutual

/-- The consumed tokens from left to right. -/
def terminals : Node → List Token
  | .terminal t => [t]
  | .named _ cs | .anonymous _ cs => terminalsAll cs

def terminalsAll : List Node → List Token
  | [] => []
  | c :: cs => c.terminals ++ terminalsAll cs

end

def isEmpty (node : Node) : Bool := node.len == 0

mutual

/-- Every node with its depth, a parent before its children. -/
def preorderFrom (depth : Nat) : Node → List (Nat × Node)
  | .terminal t => [(depth, .terminal t)]
  | .named rule cs => (depth, .named rule cs) :: preorderAllFrom (depth + 1) cs
  | .anonymous rule cs => (depth, .anonymous rule cs) :: preorderAllFrom (depth + 1) cs

def preorderAllFrom (depth : Nat) : List Node → List (Nat × Node)
  | [] => []
  | c :: cs => preorderFrom depth c ++ preorderAllFrom depth cs

end

def preorder (node : Node) : List (Nat × Node) := preorderFrom 0 node

/-- What a parent takes when this node becomes its child: of a group, its contents. -/
def spliced : Node → List Node
  | .anonymous _ cs => cs
  | node => [node]

/-- A production for `rule` over `children`, groups among them replaced by their contents. -/
def production (rule : String) (children : List Node) : Node :=
  .named rule (children.flatMap spliced)

/-- A group over `children`; its name stands in angle brackets. -/
def group (name : String) (children : List Node) : Node :=
  .anonymous s!"<{name}>" (children.flatMap spliced)

theorem lenAll_append (as bs : List Node) : lenAll (as ++ bs) = lenAll as + lenAll bs := by
  induction as with
  | nil => simp [lenAll]
  | cons a as ih => simp [lenAll, ih, Nat.add_assoc]

theorem terminalsAll_append (as bs : List Node) :
    terminalsAll (as ++ bs) = terminalsAll as ++ terminalsAll bs := by
  induction as with
  | nil => simp [terminalsAll]
  | cons a as ih => simp [terminalsAll, ih]

mutual

theorem length_terminals : (node : Node) → node.terminals.length = node.len
  | .terminal _ => rfl
  | .named _ cs | .anonymous _ cs => length_terminalsAll cs

theorem length_terminalsAll : (nodes : List Node) → (terminalsAll nodes).length = lenAll nodes
  | [] => rfl
  | c :: cs => by
    rw [terminalsAll, lenAll, List.length_append, length_terminals c, length_terminalsAll cs]

end

@[simp]
theorem lenAll_spliced (node : Node) : lenAll node.spliced = node.len := by
  cases node <;> simp [spliced, lenAll, len]

@[simp]
theorem terminalsAll_spliced (node : Node) : terminalsAll node.spliced = node.terminals := by
  cases node <;> simp [spliced, terminalsAll, terminals]

theorem lenAll_flatMap_spliced (nodes : List Node) :
    lenAll (nodes.flatMap spliced) = lenAll nodes := by
  induction nodes with
  | nil => rfl
  | cons node nodes ih => simp [lenAll_append, ih, lenAll]

theorem terminalsAll_flatMap_spliced (nodes : List Node) :
    terminalsAll (nodes.flatMap spliced) = terminalsAll nodes := by
  induction nodes with
  | nil => rfl
  | cons node nodes ih => simp [terminalsAll_append, ih, terminalsAll]

@[simp]
theorem spliced_group (name : String) (nodes : List Node) :
    (group name nodes).spliced = nodes.flatMap spliced := rfl

theorem len_group (name : String) (nodes : List Node) : (group name nodes).len = lenAll nodes := by
  rw [group, len, lenAll_flatMap_spliced]

theorem terminals_group (name : String) (nodes : List Node) :
    (group name nodes).terminals = terminalsAll nodes := by
  rw [group, terminals, terminalsAll_flatMap_spliced]

/-- A group behind a node disappears in the group of both. -/
theorem group_cons (name : String) (node : Node) (nodes : List Node) :
    group name [node, group name nodes] = group name (node :: nodes) := by
  simp [group, spliced]

theorem spliced_group_pair (name : String) (node tail : Node) :
    (group name [node, tail]).spliced = node.spliced ++ tail.spliced := by
  simp

theorem len_group_pair (name : String) (node tail : Node) :
    (group name [node, tail]).len = node.len + tail.len := by
  simp [len_group, lenAll]

mutual

def decideEq : (a b : Node) → Decidable (a = b)
  | .named r cs, .named r' cs' =>
    match decEq r r', decideEqAll cs cs' with
    | isTrue h, isTrue h' => isTrue (by rw [h, h'])
    | isFalse h, _ => isFalse (fun e => h (Node.named.inj e).1)
    | _, isFalse h => isFalse (fun e => h (Node.named.inj e).2)
  | .anonymous r cs, .anonymous r' cs' =>
    match decEq r r', decideEqAll cs cs' with
    | isTrue h, isTrue h' => isTrue (by rw [h, h'])
    | isFalse h, _ => isFalse (fun e => h (Node.anonymous.inj e).1)
    | _, isFalse h => isFalse (fun e => h (Node.anonymous.inj e).2)
  | .terminal t, .terminal t' =>
    match decEq t t' with
    | isTrue h => isTrue (by rw [h])
    | isFalse h => isFalse (fun e => h (Node.terminal.inj e))
  | .named _ _, .anonymous _ _ | .named _ _, .terminal _ | .anonymous _ _, .named _ _
  | .anonymous _ _, .terminal _ | .terminal _, .named _ _ | .terminal _, .anonymous _ _ =>
    isFalse nofun

def decideEqAll : (as bs : List Node) → Decidable (as = bs)
  | [], [] => isTrue rfl
  | a :: as, b :: bs =>
    match Node.decideEq a b, decideEqAll as bs with
    | isTrue h, isTrue h' => isTrue (by rw [h, h'])
    | isFalse h, _ => isFalse (fun e => h (List.cons.inj e).1)
    | _, isFalse h => isFalse (fun e => h (List.cons.inj e).2)
  | [], _ :: _ | _ :: _, [] => isFalse nofun

end

instance : DecidableEq Node := Node.decideEq

end Node

end TokenGrammar
