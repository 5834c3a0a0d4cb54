import TokenGrammar.Pattern.Piece
import TokenGrammar.Text.Folding
import TokenGrammar.Text.PropertyName

namespace TokenGrammar.Pattern

open Text (CharSet)

/-- The set of a named ASCII class. -/
def AsciiClass.set : AsciiClass → CharSet
  | .alnum => .unionAll [.between '0' '9', .between 'A' 'Z', .between 'a' 'z']
  | .alpha => .unionAll [.between 'A' 'Z', .between 'a' 'z']
  | .ascii => .between '\x00' '\x7f'
  | .blank => .ofChars ['\t', ' ']
  | .cntrl => .unionAll [.between '\x00' '\x1f', .singleton '\x7f']
  | .digit => .between '0' '9'
  | .graph => .between '!' '~'
  | .lower => .between 'a' 'z'
  | .print => .between ' ' '~'
  | .punct =>
    .unionAll [.between '!' '/', .between ':' '@', .between '[' '\x60', .between '\x7b' '~']
  | .space => .unionAll [.between '\t' '\r', .singleton ' ']
  | .upper => .between 'A' 'Z'
  | .word => asciiWord
  | .xdigit => .unionAll [.between '0' '9', .between 'A' 'F', .between 'a' 'f']

namespace Class

def ofShorthand (unicode : Bool) : Shorthand → CharSet
  | .digit => if unicode then Text.Property.digit else AsciiClass.set .digit
  | .space => if unicode then Text.Property.whiteSpace else AsciiClass.set .space
  | .word => if unicode then Text.Property.word else AsciiClass.set .word

/-- The ASCII letters of a set in both cases, and the set. -/
def asciiFolded (s : CharSet) : CharSet :=
  let shifted (first last target : Char) : List (Nat × Nat) :=
    (s.inter (.between first last)).bounds.toList.map fun (lo, hi) =>
      (lo + target.toNat - first.toNat, hi + target.toNat - first.toNat)
  .unionAll [s, .ofRanges (shifted 'A' 'Z' 'a'), .ofRanges (shifted 'a' 'z' 'A')]

/-- The set with all case variants of its characters, where case means nothing. -/
def folded (flags : Flags) (s : CharSet) : CharSet :=
  if !flags.ignoreCase then s
  else if flags.unicode then Text.Folding.closure s
  else asciiFolded s

def negatedIf (negated : Bool) (s : CharSet) : CharSet := if negated then s.compl else s

/-- Refuses what is more than ASCII where characters are bytes. -/
def checked (flags : Flags) (span : Span) (s : CharSet) : Except Error CharSet :=
  if !flags.unicode && !s.allBelow 128 then .error ⟨.notUtf8, span, none⟩ else .ok s

/-- A letter outside classes. Only a byte above ASCII is none. -/
def ofByte (flags : Flags) (c : Letter) : Except Error Char :=
  if !flags.unicode && c.isByte && 128 ≤ c.char.toNat then .error ⟨.notUtf8, c.span, none⟩
  else .ok c.char

/-- A letter in a class. -/
def ofLetter (flags : Flags) (c : Letter) : Except Error Char := do
  let char ← ofByte flags c
  if !flags.unicode && 128 ≤ char.toNat then throw ⟨.unicodeRefused, c.span, none⟩
  return char

def shorthand (flags : Flags) (span : Span) (cls : Shorthand) (negated : Bool) :
    Except Error CharSet :=
  checked flags span (negatedIf negated (ofShorthand flags.unicode cls))

/-- The characters with a property; case means nothing before they are negated. -/
def property (flags : Flags) (span : Span) (name : PropertyName) (negated : Bool) :
    Except Error CharSet := do
  if !flags.unicode then throw ⟨.unicodeRefused, span, none⟩
  let (found, negated) := match name with
    | .plain name => (Text.PropertyName.find name, negated)
    | .valued name value equal => (Text.PropertyName.findValue name value, negated == equal)
  match found with
  | .ok s => return negatedIf negated (folded flags s)
  | .error .property => throw ⟨.propertyUnknown, span, none⟩
  | .error .value => throw ⟨.propertyValueUnknown, span, none⟩

def combine : SetOp → CharSet → CharSet → CharSet
  | .intersection, s, t => s.inter t
  | .difference, s, t => s.diff t
  | .symmetricDifference, s, t => s.symmDiff t

/-- What stands in brackets or has a name of its own: case means nothing before it is negated. -/
def closed (flags : Flags) (span : Span) (negated : Bool) (s : CharSet) : Except Error CharSet :=
  checked flags span (negatedIf negated (folded flags s))

mutual

def ofSet (flags : Flags) : ClassSet → Except Error CharSet
  | .empty => return .empty
  | .literal c => return .singleton (← ofLetter flags c)
  | .range first last => return .between (← ofLetter flags first) (← ofLetter flags last)
  | .ascii span cls negated => closed flags span negated cls.set
  | .shorthand span cls negated => shorthand flags span cls negated
  | .property span name negated => property flags span name negated
  | .bracketed span negated body => do closed flags span negated (← ofSet flags body)
  | .union _ parts => return .unionAll (← ofSets flags parts)
  | .combined _ op left right => do
    let s ← ofSet flags left
    let t ← ofSet flags right
    return combine op (folded flags s) (folded flags t)

def ofSets (flags : Flags) : List ClassSet → Except Error (List CharSet)
  | [] => return []
  | p :: ps => do
    let s ← ofSet flags p
    return s :: (← ofSets flags ps)

end

end Class

end TokenGrammar.Pattern
