import TokenGrammar.Pattern.Cursor

namespace TokenGrammar.Pattern

/-- The smallest parts of a pattern, in a class or outside. -/
inductive Primitive where
  | literal (c : Char) (isByte : Bool)
  | dot
  | assertion (a : Assertion)
  | shorthand (cls : Shorthand) (negated : Bool)
  | property (name : PropertyName) (negated : Bool)

namespace Read

def isHex (c : Char) : Bool :=
  c.isDigit || ('a' ≤ c && c ≤ 'f') || ('A' ≤ c && c ≤ 'F')

def hexValue (c : Char) : Nat :=
  if c.isDigit then c.toNat - '0'.toNat
  else if c ≤ 'F' then c.toNat - 'A'.toNat + 10
  else c.toNat - 'a'.toNat + 10

/-- The character whose code point the digits write. -/
def scalar? (digits : List Char) : Option Char :=
  let n := digits.foldl (fun n c => 16 * n + hexValue c) 0
  if h : n.isValidChar then some ⟨n.toUInt32, by
    simpa [UInt32.isValidChar, Nat.toUInt32, Nat.mod_eq_of_lt
      (show n < 4294967296 by rcases h with h | h <;> omega)] using h⟩
  else none

/-- Exactly `count` digits, of which the first comes next. -/
def hexDigits : Nat → Read (List Char)
  | 0 => return []
  | count + 1 => do
    match ← peek with
    | none =>
      let at_ ← here
      refuse .escapeUnfinished at_ at_
    | some c =>
      if isHex c then
        let _ ← step
        return c :: (← hexDigits count)
      else refuseNext .hexDigit

/-- A code point between braces, of which the first comes next. -/
def bracedHex : Read Char := do
  let brace ← here
  let _ ← step
  let digits ← takeWhile isHex (← fuel)
  match ← peek with
  | none => refuse .escapeUnfinished brace (← here)
  | some '\x7d' =>
    let stop ← here
    let _ ← step
    if digits.isEmpty then refuse .hexEmpty brace (← here)
    match scalar? digits with
    | some c => return c
    | none => refuse .hexNotScalar (brace + 1) stop
  | some _ => refuseNext .hexDigit

/-- The code point that a letter introduces, which fixes the number of its digits. -/
def hexEscape (letter : Char) : Read Primitive := do
  match ← step with
  | none =>
    let at_ ← here
    refuse .escapeUnfinished at_ at_
  | some '\x7b' => return .literal (← bracedHex) false
  | some _ =>
    let start ← here
    let digits ← hexDigits (if letter = 'x' then 2 else if letter = 'u' then 4 else 8)
    match scalar? digits with
    | some c => return .literal c (letter = 'x')
    | none => refuse .hexNotScalar start (← here)

/-- The parts of `cs` before and after the first `mark`. -/
def cut? (mark : List Char) : List Char → Option (List Char × List Char)
  | [] => if mark.isEmpty then some ([], []) else none
  | c :: cs =>
    if mark.isPrefixOf (c :: cs) then some ([], (c :: cs).drop mark.length)
    else (cut? mark cs).map fun (before, after) => (c :: before, after)

/-- A property between braces. -/
def propertyName (cs : List Char) : PropertyName :=
  let valued (parts : List Char × List Char) (equal : Bool) : PropertyName :=
    .valued (String.ofList parts.1) (String.ofList parts.2) equal
  match cut? ['!', '='] cs with
  | some parts => valued parts false
  | none =>
    match cut? [':'] cs with
    | some parts => valued parts true
    | none =>
      match cut? ['='] cs with
      | some parts => valued parts true
      | none => .plain (String.ofList cs)

/-- The property behind the letter that comes next. -/
def propertyEscape : Read PropertyName := do
  match ← step with
  | none =>
    let at_ ← here
    refuse .escapeUnfinished at_ at_
  | some '\x7b' =>
    let _ ← step
    let name ← takeWhile (· ≠ '\x7d') (← fuel)
    if (← peek).isNone then
      let at_ ← here
      refuse .escapeUnfinished at_ at_
    bump
    return propertyName name
  | some '\\' => refuseNext .propertyForm
  | some c =>
    let _ ← step
    return .plain c.toString

def boundaryNames : List (String × WordLook) :=
  [("start", .start), ("end", .stop), ("start-half", .startHalf), ("end-half", .stopHalf)]

/-- A kind of word boundary between braces, the first of which comes next. Braces that hold no
letter are left for a repetition. -/
def boundaryName? (start : Nat) : Read (Option WordLook) := do
  let before ← get
  let isNamed (c : Char) : Bool := c.isAlpha || c == '-'
  match ← step with
  | none => refuse .boundaryUnfinished start (← here)
  | some c =>
    if isNamed c then
      let first ← here
      let name ← takeWhile isNamed (← fuel)
      if (← peek) ≠ some '\x7d' then refuse .boundaryUnclosed before.offset (← here)
      let stop ← here
      bump
      match boundaryNames.lookup (String.ofList name) with
      | some look => return some look
      | none => refuse .boundaryUnknown first stop
    else
      set before
      return none

def isMeta (c : Char) : Bool := "\\.+*?()|[]\x7b\x7d^$#&-~".toList.contains c

/-- Escapes that stand for one character. -/
def literalEscape? (c : Char) : Option Char :=
  if c = 'a' then some '\x07'
  else if c = 'f' then some '\x0c'
  else if c = 't' then some '\t'
  else if c = 'n' then some '\n'
  else if c = 'r' then some '\r'
  else if c = 'v' then some '\x0b'
  else if isMeta c then some c
  else if c.toNat < 128 && !c.isAlphanum && c ≠ '<' && c ≠ '>' then some c
  else none

def assertionEscape? (c : Char) : Option Assertion :=
  if c = 'A' then some .textStart
  else if c = 'z' then some .textEnd
  else if c = 'B' then some (.word .inside)
  else if c = '<' then some (.word .start)
  else if c = '>' then some (.word .stop)
  else none

def shorthandEscape? (c : Char) : Option Primitive :=
  if c = 'd' then some (.shorthand .digit false)
  else if c = 'D' then some (.shorthand .digit true)
  else if c = 's' then some (.shorthand .space false)
  else if c = 'S' then some (.shorthand .space true)
  else if c = 'w' then some (.shorthand .word false)
  else if c = 'W' then some (.shorthand .word true)
  else none

/-- The escape whose backslash comes next. -/
def escape : Read Primitive := do
  let start ← here
  bump
  match ← peek with
  | none => refuse .escapeUnfinished start (← here)
  | some c =>
    if c.isDigit then refuse .backreference start ((← here) + 1)
    else if c = 'x' || c = 'u' || c = 'U' then hexEscape c
    else if c = 'p' || c = 'P' then return .property (← propertyEscape) (c = 'P')
    else
      bump
      if c = 'b' then
        if (← peek) = some '\x7b' then
          return .assertion (.word ((← boundaryName? start).getD .boundary))
        else return .assertion (.word .boundary)
      match (literalEscape? c).map (Primitive.literal · false) <|> shorthandEscape? c
          <|> (assertionEscape? c).map Primitive.assertion with
      | some p => return p
      | none => refuse .escapeUnknown start (← here)

end Read

end TokenGrammar.Pattern
