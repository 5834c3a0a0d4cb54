import TokenGrammar.Pattern.Expr
import TokenGrammar.Text.Property

namespace TokenGrammar.Pattern

/-- A place in a pattern that is being read. -/
structure Cursor where
  /-- The length of the whole pattern. -/
  size : Nat
  rest : List Char
  offset : Nat
  /-- Whether blanks and comments mean nothing here. -/
  verbose : Bool
  /-- The group names so far. -/
  names : List (List Char × Span)

abbrev Read := StateT Cursor (Except Error)

namespace Read

def refuse {α : Type} (fault : Fault) (start stop : Nat) : Read α :=
  throw ⟨fault, ⟨start, stop⟩, none⟩

def here : Read Nat := return (← get).offset

def peek : Read (Option Char) := return (← get).rest.head?

/-- An amount of steps that no reader exceeds. -/
def fuel : Read Nat := return 2 * (← get).size + 2

def bump : Read Unit :=
  modify fun c => { c with rest := c.rest.drop 1, offset := c.offset + 1 }

/-- Refuses the next character. -/
def refuseNext {α : Type} (fault : Fault) : Read α := do
  let at_ ← here
  refuse fault at_ (at_ + 1)

/-- Takes `text` if it comes next. -/
def bumpIf (text : String) : Read Bool := do
  let cs := text.toList
  if cs.isPrefixOf (← get).rest then
    modify fun c => { c with rest := c.rest.drop cs.length, offset := c.offset + cs.length }
    return true
  else return false

/-- Takes the first of `texts` that comes next. -/
def bumpAny : List String → Read Bool
  | [] => return false
  | text :: texts => do
    if ← bumpIf text then return true else bumpAny texts

/-- Length of the blanks and comments that come next; a comment goes to the end of its line. -/
def blankLength (inComment : Bool) : List Char → Nat
  | [] => 0
  | c :: cs =>
    if inComment then 1 + blankLength (c ≠ '\n') cs
    else if Text.Property.isSpace c then 1 + blankLength false cs
    else if c = '#' then 1 + blankLength true cs
    else 0

def skipBlanks : Read Unit :=
  modify fun c =>
    if c.verbose then
      let n := blankLength false c.rest
      { c with rest := c.rest.drop n, offset := c.offset + n }
    else c

/-- Takes one character and the blanks behind it, and looks at what follows. -/
def step : Read (Option Char) := do
  bump
  skipBlanks
  peek

/-- What follows the next character and the blanks behind it. Of a comment only the mark is
skipped. -/
def peekPastBlanks : Read (Option Char) := do
  let c ← get
  let after := c.rest.drop 1
  if c.verbose then
    let far := match after.dropWhile Text.Property.isSpace with
      | '#' :: cs => cs.dropWhile Text.Property.isSpace
      | cs => cs
    return far.head?.or after.head?
  else return after.head?

/-- The characters with `p` that come next, and the blanks behind each. -/
def takeWhile (p : Char → Bool) : Nat → Read (List Char)
  | 0 => return []
  | fuel + 1 => do
    match ← peek with
    | some c =>
      if p c then
        let _ ← step
        return c :: (← takeWhile p fuel)
      else return []
    | none => return []

/-- Takes blanks whether or not they mean something. -/
def dropSpaces : Read Unit :=
  modify fun c =>
    let n := (c.rest.takeWhile Text.Property.isSpace).length
    { c with rest := c.rest.drop n, offset := c.offset + n }

end Read

end TokenGrammar.Pattern
