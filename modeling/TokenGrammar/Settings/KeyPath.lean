import TokenGrammar.Settings.Value

namespace TokenGrammar.Settings

inductive KeyStep where
  | child (name : String)
  | index (position : Int)
deriving DecidableEq

/-- A name, then names behind points and positions in brackets, as in `parse.list[0].max`. -/
structure KeyPath where
  head : String
  steps : List KeyStep
deriving DecidableEq

namespace KeyPath

/-- The characters of names; a blank is one of them. -/
def isNameChar (c : Char) : Bool := c.isAlphanum || c == ' ' || c == '_' || c == '-'

def isBlank (c : Char) : Bool := c == ' ' || c == '\t'

/-- A position between brackets, the first of which is read: its text up to the second one and
what follows. -/
def readPosition (cs : List Char) : Option (Int × List Char) :=
  let (negative, rest) := match cs.dropWhile isBlank with
    | '-' :: rest => (true, rest)
    | rest => (false, rest)
  let (digits, rest) := rest.span Char.isDigit
  let n : Int := Decimal.ofDigits digits
  let position := if negative then -n else n
  match rest.dropWhile isBlank with
  | ']' :: rest =>
    if digits.isEmpty || position < -0x8000000000000000 || 0x8000000000000000 ≤ position then none
    else some (position, rest)
  | _ => none

/-- The steps of `cs`; `fuel` is at least the length of `cs`. -/
def readSteps : Nat → List Char → Option (List KeyStep)
  | _, [] => some []
  | 0, _ => none
  | fuel + 1, '.' :: rest =>
    let (name, rest) := rest.span isNameChar
    if name.isEmpty then none
    else (readSteps fuel rest).map (.child (String.ofList name) :: ·)
  | fuel + 1, '[' :: rest =>
    match readPosition rest with
    | none => none
    | some (position, rest) => (readSteps fuel rest).map (.index position :: ·)
  | _, _ => none

/-- The path that `key` writes. -/
def ofText? (key : String) : Option KeyPath :=
  let (head, rest) := key.toList.span isNameChar
  if head.isEmpty then none
  else (readSteps rest.length rest).map fun steps => ⟨String.ofList head, steps⟩

/-- The path of a single name. -/
def ofName (name : String) : KeyPath := ⟨name, []⟩

/-- Where `position` is in an array of `size` items; a negative one counts from the end. -/
def place (size : Nat) (position : Int) : Nat :=
  if 0 ≤ position then position.toNat else size - position.natAbs

/-- The items with `v` at `i`, and nil values before it if there were too few. -/
def setItem (items : List Value) (i : Nat) (v : Value) : List Value :=
  (items ++ List.replicate (i + 1 - items.length) (Value.nil none)).set i v

/-- The value `parent` with `v` at the end of `steps`. What is no table or array where one is
needed is replaced by an empty one. -/
def assign (v : Value) : List KeyStep → Value → Value
  | [], _ => v
  | [.child name], parent => Value.under name v parent.asTable
  | .child name :: steps, parent =>
    let table := parent.asTable
    table.replace name (assign v steps ((table.get? name).getD (.nil none)))
  | .index position :: steps, parent =>
    let origin := match parent with
      | .array o _ => o
      | _ => none
    let items := parent.items
    let i := place items.length position
    .array origin (setItem items i (assign v steps (items[i]?.getD (.nil none))))

/-- The table `root` with `v` at this path. -/
def set (path : KeyPath) (v root : Value) : Value :=
  match path.steps with
  | [] => Value.under path.head v root
  | steps =>
    root.replace path.head (assign v steps ((root.get? path.head).getD (.nil none)))

end KeyPath

end TokenGrammar.Settings
