import TokenGrammar.Text.Quoted

namespace TokenGrammar

/-- Structural text: named records, named tuples and lists over what stands as it is. -/
inductive Shape where
  /-- Text that stands as it is. -/
  | plain (text : String)
  | list (items : List Shape)
  | tuple (name : String) (items : List Shape)
  | record (name : String) (fields : List (String × Shape))
deriving Inhabited

namespace Shape

def text (s : String) : Shape := .plain (Text.quoted s)

def bool (b : Bool) : Shape := .plain (if b then "true" else "false")

def nat (n : Nat) : Shape := .plain (toString n)

def option : Option Shape → Shape
  | none => .plain "None"
  | some s => .tuple "Some" [s]

/-- `parts` between commas, inside `opening` and `closing`. -/
def enclose (opening closing : String) (parts : List String) : String :=
  opening ++ ", ".intercalate parts ++ closing

mutual

/-- The shape in one line. -/
def inline : Shape → String
  | .plain s => s
  | .list items => enclose "[" "]" (inlineAll items)
  | .tuple name items => enclose (name ++ "(") ")" (inlineAll items)
  | .record name fields => enclose (name ++ " \x7b ") " \x7d" (inlineFields fields)

def inlineAll : List Shape → List String
  | [] => []
  | s :: ss => s.inline :: inlineAll ss

def inlineFields : List (String × Shape) → List String
  | [] => []
  | (k, s) :: fs => (k ++ ": " ++ s.inline) :: inlineFields fs

end

def margin (level : Nat) : String := String.ofList (List.replicate (4 * level) ' ')

/-- `parts` each on its own line and ended by a comma, one level deeper than `opening`. -/
def block (level : Nat) (opening closing : String) (parts : List String) : String :=
  opening ++ "\n" ++ String.join (parts.map fun p => margin (level + 1) ++ p ++ ",\n")
    ++ margin level ++ closing

mutual

/-- The shape with one part a line, at nesting level `level`. -/
def expanded (level : Nat) : Shape → String
  | .plain s => s
  | .list [] => "[]"
  | .list items => block level "[" "]" (expandedAll (level + 1) items)
  | .tuple name items => block level (name ++ "(") ")" (expandedAll (level + 1) items)
  | .record name fields => block level (name ++ " \x7b") "\x7d" (expandedFields (level + 1) fields)

def expandedAll (level : Nat) : List Shape → List String
  | [] => []
  | s :: ss => s.expanded level :: expandedAll level ss

def expandedFields (level : Nat) : List (String × Shape) → List String
  | [] => []
  | (k, s) :: fs => (k ++ ": " ++ s.expanded level) :: expandedFields level fs

end

end Shape

end TokenGrammar
