import TokenGrammar.Toml.Value

namespace TokenGrammar.Toml

/-- How a table came to be. A header may complete only a table that other headers mentioned on their
way, and dotted keys extend only what dotted keys began. -/
inductive Standing where
  /-- A header names the table itself. -/
  | declared
  /-- Headers name only tables inside it. -/
  | implied
  /-- Dotted keys lead through it. -/
  | dotted
deriving DecidableEq

inductive Item where
  | leaf (v : Value)
  | table (standing : Standing) (entries : List (String × Item))
  /-- The tables of one double-bracketed header, the last first. -/
  | series (tables : List (List (String × Item)))
deriving Inhabited

abbrev Entries := List (String × Item)

namespace Entries

def put (key : String) (item : Item) : Entries → Entries
  | [] => [(key, item)]
  | (k, old) :: entries =>
    if k = key then (k, item) :: entries else (k, old) :: put key item entries

/-- Whether dotted keys or headers may lead through a table. -/
def mayEnter (dotted : Bool) (standing : Standing) : Bool :=
  !dotted || standing != .declared

/-- The tables with `change` made to the one at the end of `path`; `change` is told its standing.
Tables on the way are made if they are missing. -/
def descend (dotted : Bool) (change : Standing → Entries → Option Entries) :
    List String → Standing → Entries → Option Entries
  | [], standing, entries => change standing entries
  | key :: path, _, entries =>
    match entries.lookup key with
    | none =>
      let fresh := if dotted then Standing.dotted else .implied
      (descend dotted change path fresh []).map fun es => put key (.table fresh es) entries
    | some (.table standing inner) =>
      if mayEnter dotted standing then
        (descend dotted change path standing inner).map
          fun es => put key (.table standing es) entries
      else none
    | some (.series (last :: earlier)) =>
      (descend dotted change path .declared last).map
        fun es => put key (.series (es :: earlier)) entries
    | some (.series []) | some (.leaf _) => none

/-- The tables with one more leaf. Dotted keys end only in tables that dotted keys began. -/
def insert (path : List String) (v : Value) (entries : Entries) : Option Entries :=
  let way := path.dropLast
  descend true (fun standing es => do
    let key ← path.getLast?
    if !way.isEmpty && standing != .dotted then none
    if (es.lookup key).isSome then none
    return put key (.leaf v) es) way .declared entries

/-- The tables with the one at `path` declared by its header. If headers only mentioned it on their
way, it moves behind the other tables beside it. -/
def declare (path : List String) (entries : Entries) : Option Entries :=
  descend false (fun _ es => do
    let key ← path.getLast?
    match es.lookup key with
    | none => return put key (.table .declared []) es
    | some (.table .implied inner) =>
      return es.filter (·.1 != key) ++ [(key, .table .declared inner)]
    | some _ => none) path.dropLast .declared entries

/-- The tables with one more table in the series at `path`. -/
def extend (path : List String) (entries : Entries) : Option Entries :=
  descend false (fun _ es => do
    let key ← path.getLast?
    match es.lookup key with
    | none => return put key (.series [[]]) es
    | some (.series tables) => return put key (.series ([] :: tables)) es
    | some _ => none) path.dropLast .declared entries

/-- The tables with one more leaf below the one that the last header, `section_`, declared. -/
def insertUnder (section_ path : List String) (v : Value) (entries : Entries) : Option Entries :=
  descend false (fun _ es => insert path v es) section_ .declared entries

end Entries

mutual

def Item.value : Item → Value
  | .leaf v => v
  | .table _ entries => .table (Entries.values entries)
  | .series tables => .array (Entries.valuesAll tables).reverse

def Entries.values : List (String × Item) → List (String × Value)
  | [] => []
  | (k, item) :: entries => (k, item.value) :: Entries.values entries

def Entries.valuesAll : List (List (String × Item)) → List Value
  | [] => []
  | es :: tables => .table (Entries.values es) :: Entries.valuesAll tables

end

end TokenGrammar.Toml
