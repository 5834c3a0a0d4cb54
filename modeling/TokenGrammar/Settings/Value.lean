import TokenGrammar.Number.Binary64

namespace TokenGrammar.Settings

/-- The file that a value comes from, if it comes from one. -/
abbrev Origin := Option String

/-- Configuration values. One that was read from a file knows the file. -/
inductive Value where
  | nil (origin : Origin)
  | bool (origin : Origin) (b : Bool)
  | integer (origin : Origin) (n : Int)
  | float (origin : Origin) (x : Binary64)
  | string (origin : Origin) (s : String)
  | array (origin : Origin) (items : List Value)
  | table (origin : Origin) (entries : List (String × Value))
deriving Inhabited

/-- The form in which keys are compared, without regard to the case of ASCII letters. -/
def keyForm (key : String) : String := String.ofList (key.toList.map Char.toLower)

namespace Value

def origin : Value → Origin
  | .nil o | .bool o _ | .integer o _ | .float o _ | .string o _ | .array o _ | .table o _ => o

def emptyTable : Value := .table none []

/-- The table itself, or an empty one in place of any other value. -/
def asTable : Value → Value
  | .table o entries => .table o entries
  | _ => emptyTable

/-- The items of an array; none of any other value. -/
def items : Value → List Value
  | .array _ vs => vs
  | _ => []

/-- What a table has under `key`. -/
def get? (key : String) : Value → Option Value
  | .table _ entries => entries.lookup (keyForm key)
  | _ => none

/-- The entries with `v` under `key`, in the place of an older value. -/
def replaceIn (key : String) (v : Value) : List (String × Value) → List (String × Value)
  | [] => [(key, v)]
  | (k, old) :: entries =>
    if k = key then (k, v) :: entries else (k, old) :: replaceIn key v entries

/-- The table with `v` under `key`. -/
def replace (root : Value) (key : String) (v : Value) : Value :=
  match root.asTable with
  | .table o entries => .table o (replaceIn (keyForm key) v entries)
  | root => root

mutual

/-- The table `root` with an incoming value under `key`. An incoming table is merged into what is
there, and an empty one changes nothing there. -/
def under (key : String) : (incoming root : Value) → Value
  | .table _ entries, root =>
    root.replace key (mergeAll entries ((root.get? key).getD emptyTable))
  | v, root => root.replace key v

/-- The table `root` with incoming entries merged in one after the other. -/
def mergeAll : List (String × Value) → Value → Value
  | [], root => root
  | (k, v) :: entries, root => mergeAll entries (under k v root)

end

end Value

end TokenGrammar.Settings
