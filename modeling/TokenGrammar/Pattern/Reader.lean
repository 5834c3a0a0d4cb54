import TokenGrammar.Pattern.Brackets
import TokenGrammar.Text.Newer

namespace TokenGrammar.Pattern

/-- How deep a pattern may nest. -/
def nestLimit : Nat := 250

/-- An item and its place. -/
abbrev Item := Span × Expr

/-- What an opening parenthesis introduces. -/
inductive Opening where
  | switches (changes : FlagChanges)
  | group (changes : FlagChanges)
  | capture

namespace Read

/-- The switches up to the colon or parenthesis that ends them. `seen` holds those so far with
their places, the last first; `negation` is the place of the minus sign. -/
def switches (seen : List (Flag × Nat)) (negation : Option Nat) :
    Nat → Read (List (Flag × Bool))
  | 0 => return []
  | fuel + 1 => do
    let at_ ← here
    match ← peek with
    | none => refuse .flagMissing at_ at_
    | some ':' | some ')' =>
      match negation with
      | some place => if place + 1 = at_ then refuse .negationDangling place at_ else return []
      | none => return []
    | some '-' =>
      match negation with
      | some place => throw ⟨.negationRepeated, ⟨at_, at_ + 1⟩, some ⟨place, place + 1⟩⟩
      | none =>
        bump
        if (← peek).isNone then refuse .flagMissing (at_ + 1) (at_ + 1)
        switches seen (some at_) fuel
    | some c =>
      match Flag.ofLetter? c with
      | none => refuseNext .flagUnknown
      | some flag =>
        match seen.lookup flag with
        | some place => throw ⟨.flagDuplicate, ⟨at_, at_ + 1⟩, some ⟨place, place + 1⟩⟩
        | none =>
          bump
          if (← peek).isNone then refuse .flagMissing (at_ + 1) (at_ + 1)
          return (flag, negation.isNone) :: (← switches ((flag, at_) :: seen) negation fuel)

/-- The letters of the newer standard. -/
def nameLetters : Text.CharSet := Text.Property.alphabetic.union Text.Newer.alphabetic

def nameNumbers : Text.CharSet :=
  (Text.Category.charsOf [.decimalNumber, .letterNumber, .otherNumber]).union Text.Newer.numbers

def isNameChar (first : Bool) (c : Char) : Bool :=
  c = '_' || nameLetters.contains c
    || (!first && (c = '.' || c = '[' || c = ']' || nameNumbers.contains c))

/-- The characters of a group's name up to the bracket that closes it. -/
def nameChars (first : Bool) : Nat → Read (List Char)
  | 0 => return []
  | fuel + 1 => do
    match ← peek with
    | none | some '>' => return []
    | some c =>
      if isNameChar first c then
        bump
        return c :: (← nameChars false fuel)
      else refuseNext .groupNameCharacter

/-- A group's name and the bracket that closes it; no two groups have the same. -/
def groupName : Read Unit := do
  let start ← here
  let name ← nameChars true (← fuel)
  let stop ← here
  if (← peek).isNone then refuse .groupNameUnclosed stop stop
  bump
  if name.isEmpty then refuse .groupNameEmpty start start
  match (← get).names.lookup name with
  | some earlier => throw ⟨.groupNameDuplicate, ⟨start, stop⟩, some earlier⟩
  | none => modify fun c => { c with names := (name, ⟨start, stop⟩) :: c.names }

/-- The parenthesis that comes next and what belongs to it. -/
def openGroup : Read Opening := do
  let start ← here
  bump
  skipBlanks
  if ← bumpAny ["?=", "?!", "?<=", "?<!"] then
    refuse .lookAround start (← here)
  let mark ← here
  if ← bumpAny ["?P<", "?<"] then
    groupName
    return .capture
  else if ← bumpIf "?" then
    if (← peek).isNone then refuse .groupUnclosed start (start + 1)
    let first ← here
    let changes ← switches [] none (← fuel)
    let empty := (← here) = first
    let closed := (← peek) = some ')'
    bump
    if closed then
      if empty then refuse .operandMissing mark mark
      return .switches changes
    else return .group changes
  else return .capture

/-- The parenthesis that closes the group from `start`, and the place of the group. Blanks mean
again what they meant before it. -/
def closeGroup (start : Nat) (outerVerbose : Bool) : Read Span := do
  if (← peek).isNone then refuse .groupUnclosed start (start + 1)
  modify fun c => { c with verbose := outerVerbose }
  bump
  return ⟨start, ← here⟩

/-- A repetition operator stands behind an item. -/
def operandOf (items : List Item) : Read (Item × List Item) := do
  let at_ ← here
  match items with
  | [] => refuse .operandMissing at_ at_
  | (_, .flags _) :: _ | (_, .empty) :: _ => refuse .operandMissing at_ at_
  | item :: items => return (item, items)

/-- The repetition sign that comes next, with the mark of a lazy one. -/
def signRepetition (min : Nat) (max : Option Nat) (items : List Item) : Read (List Item) := do
  let (item, items) ← operandOf items
  bump
  let lazily ← bumpIf "?"
  let span : Span := ⟨item.1.start, ← here⟩
  return (span, .repetition span min max (!lazily) item.2) :: items

/-- A number, if its digits come next, and its place. -/
def count : Read (Except Error Nat) := do
  dropSpaces
  let start ← here
  let digits ← takeWhile Char.isDigit (← fuel)
  let span : Span := ⟨start, ← here⟩
  dropSpaces
  skipBlanks
  let n := digits.foldl (fun n c => 10 * n + (c.toNat - '0'.toNat)) 0
  if digits.isEmpty then return .error ⟨.countMissing, span, none⟩
  else if n < UInt32.size then return .ok n
  else return .error ⟨.countTooLarge, span, none⟩

/-- The numbers up to the closing brace that comes next: a least count and perhaps a greatest. -/
def countRange (start : Nat) : Read (Nat × Option Nat) := do
  let unclosed {α : Type} : Read α := do refuse .countUnclosed start (← here)
  if (← step).isNone then unclosed
  let least ← count
  match ← peek with
  | none => unclosed
  | some ',' =>
    match ← step with
    | none => unclosed
    | some '\x7d' => return (← least, none)
    | some _ =>
      let min ← least
      return (min, some (← (← count)))
  | some _ =>
    let n ← least
    return (n, some n)

/-- The counted repetition whose brace comes next. -/
def countedRepetition (items : List Item) : Read (List Item) := do
  let (item, items) ← operandOf items
  let start ← here
  let (min, max) ← countRange start
  if (← peek) ≠ some '\x7d' then refuse .countUnclosed start (← here)
  let _ ← step
  let lazily ← bumpIf "?"
  let stop ← here
  if max.any (· < min) then refuse .countRangeReversed start stop
  let span : Span := ⟨item.1.start, stop⟩
  return (span, .repetition span min max (!lazily) item.2) :: items

/-- A character, dot, anchor or escape outside classes. -/
def primitive : Read Expr := do
  let start ← here
  match ← peek with
  | some '\\' =>
    match ← escape with
    | .literal c isByte => return .literal ⟨⟨start, ← here⟩, c, isByte⟩
    | .dot => return .dot ⟨start, ← here⟩
    | .assertion a => return .assertion a
    | .shorthand cls negated => return .shorthand ⟨start, ← here⟩ cls negated
    | .property name negated => return .property ⟨start, ← here⟩ name negated
  | c =>
    bump
    match c with
    | some '.' => return .dot ⟨start, start + 1⟩
    | some '^' => return .assertion .lineStart
    | some '$' => return .assertion .lineEnd
    | some c => return .literal ⟨⟨start, start + 1⟩, c, false⟩
    | none => return .empty

/-- The concatenation of items, the last of which comes first. -/
def concatOf (items : List Item) (span : Span) : Expr :=
  match items.reverse with
  | [] => .empty
  | [(_, item)] => item
  | items => .concat span (items.map (·.2))

mutual

/-- The items up to a bar, a closing parenthesis or the end, the last first. -/
def items (sofar : List Item) : Nat → Read (List Item)
  | 0 => return sofar
  | fuel + 1 => do
    skipBlanks
    let start ← here
    match ← peek with
    | none | some '|' | some ')' => return sofar
    | some '(' =>
      let outer := (← get).verbose
      match ← openGroup with
      | .switches changes =>
        modify fun c => { c with verbose := (changes.lookup .verbose).getD c.verbose }
        let place : Span := ⟨start, ← here⟩
        items ((place, .flags changes) :: sofar) fuel
      | .group changes =>
        modify fun c => { c with verbose := (changes.lookup .verbose).getD c.verbose }
        let body ← branches (← here) [] fuel
        let span ← closeGroup start outer
        items ((span, .group span changes body) :: sofar) fuel
      | .capture =>
        let body ← branches (← here) [] fuel
        let span ← closeGroup start outer
        items ((span, .capture span body) :: sofar) fuel
    | some '[' =>
      let cls ← bracketed
      items ((⟨start, ← here⟩, cls) :: sofar) fuel
    | some '?' => items (← signRepetition 0 (some 1) sofar) fuel
    | some '*' => items (← signRepetition 0 none sofar) fuel
    | some '+' => items (← signRepetition 1 none sofar) fuel
    | some '\x7b' => items (← countedRepetition sofar) fuel
    | some _ =>
      let part ← primitive
      items ((⟨start, ← here⟩, part) :: sofar) fuel

/-- The branches up to a closing parenthesis or the end. The first starts at `start`; those of
`sofar`, the last first, are read already. -/
def branches (start : Nat) (sofar : List Expr) : Nat → Read Expr
  | 0 => return .empty
  | fuel + 1 => do
    let first ← here
    let parts ← items [] fuel
    let stop ← here
    let branch := concatOf parts ⟨first, stop⟩
    if (← peek) = some '|' then
      bump
      branches start (branch :: sofar) fuel
    else if sofar.isEmpty then return branch
    else return .alternation ⟨start, stop⟩ (branch :: sofar).reverse

end

/-- A whole pattern. -/
def whole : Read Expr := do
  let expr ← branches 0 [] (← fuel)
  if (← peek).isSome then refuseNext .groupUnopened
  match expr.tooDeep? nestLimit with
  | some span => refuse (.nestedTooDeep nestLimit) span.start span.stop
  | none => return expr

end Read

/-- The structure of a pattern. -/
def Expr.ofText (pattern : String) : Except Error Expr :=
  (Read.whole.run ⟨pattern.length, pattern.toList, 0, false, []⟩).map (·.1)

end TokenGrammar.Pattern
