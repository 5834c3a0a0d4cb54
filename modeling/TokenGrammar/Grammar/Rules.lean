import TokenGrammar.Matcher.Basic

namespace TokenGrammar

/-- The names mentioned so far, in that order, and what each is defined as first. -/
structure RuleTable where
  slots : List (String × Option Matcher)
deriving Inhabited

inductive GrammarError where
  | duplicateRule (name : String)
  | undefinedRule (name : String)
  | noStartRule (name : String)
deriving DecidableEq

def GrammarError.message : GrammarError → String
  | .duplicateRule name => s!"Rule '{name}' is already defined"
  | .undefinedRule name => s!"Rule '{name}' is referenced but never defined"
  | .noStartRule name => s!"Start rule '{name}' is not defined"

namespace RuleTable

def empty : RuleTable := ⟨[]⟩

/-- What `name` runs; nothing if it is not defined. -/
def find? (t : RuleTable) (name : String) : Option Matcher := (t.slots.lookup name).join

def names (t : RuleTable) : List String := t.slots.map (·.1)

/-- The table with `name` in it. -/
def mention (t : RuleTable) (name : String) : RuleTable :=
  if name ∈ t.names then t else ⟨t.slots ++ [(name, none)]⟩

/-- Gives `name`, which is in the table, the definition `m`. -/
def fill (name : String) (m : Matcher) : List (String × Option Matcher) →
    List (String × Option Matcher)
  | [] => []
  | (n, old) :: slots =>
    if n = name then (n, some m) :: slots else (n, old) :: fill name m slots

/-- Defines `name` as `m`, whose matches become productions of that name. -/
def define (t : RuleTable) (name : String) (m : Matcher) : Except GrammarError RuleTable :=
  if (t.find? name).isSome then .error (.duplicateRule name)
  else .ok ⟨fill name (.rule name m) (t.mention name).slots⟩

/-- The names without a definition. -/
def undefined (t : RuleTable) : List String :=
  (t.slots.filter (·.2.isNone)).map (·.1)

/-- The names in order of their code points. -/
def sortedNames (t : RuleTable) : List String := t.names.mergeSort (fun a b => !(b < a))

/-- Whether the table can be used from rule `start` on; the least undefined name is reported. -/
def check (t : RuleTable) (start : String) : Except GrammarError Unit :=
  match t.undefined.mergeSort (fun a b => !(b < a)) with
  | name :: _ => .error (.undefinedRule name)
  | [] => if (t.find? start).isSome then .ok () else .error (.noStartRule start)

/-- The tables that the rules keep alive by their handles. -/
def owned (t : RuleTable) : List Nat :=
  t.slots.flatMap fun (_, m) => (m.map Matcher.owned).getD []

end RuleTable

end TokenGrammar
