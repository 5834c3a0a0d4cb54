import TokenGrammar.Pattern.Fault

namespace TokenGrammar.Pattern

/-- The switches of a pattern. -/
structure Flags where
  /-- Letters stand for both cases. -/
  ignoreCase : Bool := false
  /-- The line anchors hold at the ends of every line. -/
  multiLine : Bool := false
  /-- The dot takes line ends too. -/
  dotAll : Bool := false
  /-- Blanks and comments in the pattern mean nothing. -/
  verbose : Bool := false
  /-- A carriage return is a line end as well. -/
  carriage : Bool := false
  /-- Classes go by character properties, not by ASCII. -/
  unicode : Bool := true
  /-- Repetitions take as little as they can unless they are marked. -/
  swapGreed : Bool := false
deriving DecidableEq, Inhabited

inductive Flag where
  | ignoreCase | multiLine | dotAll | verbose | carriage | unicode | swapGreed
deriving DecidableEq

namespace Flag

def ofLetter? (c : Char) : Option Flag :=
  if c = 'i' then some .ignoreCase
  else if c = 'm' then some .multiLine
  else if c = 's' then some .dotAll
  else if c = 'x' then some .verbose
  else if c = 'R' then some .carriage
  else if c = 'u' then some .unicode
  else if c = 'U' then some .swapGreed
  else none

def set (flag : Flag) (on : Bool) (flags : Flags) : Flags :=
  match flag with
  | .ignoreCase => { flags with ignoreCase := on }
  | .multiLine => { flags with multiLine := on }
  | .dotAll => { flags with dotAll := on }
  | .verbose => { flags with verbose := on }
  | .carriage => { flags with carriage := on }
  | .unicode => { flags with unicode := on }
  | .swapGreed => { flags with swapGreed := on }

end Flag

/-- Switches to turn on or off, in order. -/
abbrev FlagChanges := List (Flag × Bool)

def FlagChanges.apply (changes : FlagChanges) (flags : Flags) : Flags :=
  changes.foldl (fun fs (flag, on) => flag.set on fs) flags

/-- The named classes of ASCII characters. -/
inductive AsciiClass where
  | alnum | alpha | ascii | blank | cntrl | digit | graph | lower | print | punct | space | upper
  | word | xdigit
deriving DecidableEq

/-- The classes that one letter names. -/
inductive Shorthand where
  | digit | space | word
deriving DecidableEq

/-- A property of characters as it is asked for. -/
inductive PropertyName where
  | plain (name : String)
  | valued (name value : String) (equal : Bool)
deriving DecidableEq

inductive SetOp where
  | intersection | difference | symmetricDifference
deriving DecidableEq

/-- A character as it is written. -/
structure Letter where
  span : Span
  char : Char
  /-- Whether two hexadecimal digits write it. Then it is a byte where characters are bytes. -/
  isByte : Bool
deriving Inhabited

/-- What stands between the brackets of a class. -/
inductive ClassSet where
  | empty
  | literal (c : Letter)
  | range (first last : Letter)
  | ascii (span : Span) (cls : AsciiClass) (negated : Bool)
  | shorthand (span : Span) (cls : Shorthand) (negated : Bool)
  | property (span : Span) (name : PropertyName) (negated : Bool)
  | bracketed (span : Span) (negated : Bool) (body : ClassSet)
  | union (span : Span) (parts : List ClassSet)
  | combined (span : Span) (op : SetOp) (left right : ClassSet)
deriving Inhabited

/-- What the word characters around a place have to be. The halves ask about one side only. -/
inductive WordLook where
  | boundary | inside | start | stop | startHalf | stopHalf
deriving DecidableEq

/-- Conditions on a place in the text. -/
inductive Assertion where
  | lineStart | lineEnd | textStart | textEnd
  | word (look : WordLook)
deriving DecidableEq

/-- A pattern as it is written. Parts that a later check may refuse know their place in the text. -/
inductive Expr where
  | empty
  | flags (changes : FlagChanges)
  | literal (c : Letter)
  | dot (span : Span)
  | assertion (a : Assertion)
  | shorthand (span : Span) (cls : Shorthand) (negated : Bool)
  | property (span : Span) (name : PropertyName) (negated : Bool)
  | bracketed (span : Span) (negated : Bool) (body : ClassSet)
  /-- A greedy repetition takes as much as it can. -/
  | repetition (span : Span) (min : Nat) (max : Option Nat) (greedy : Bool) (body : Expr)
  | group (span : Span) (changes : FlagChanges) (body : Expr)
  | capture (span : Span) (body : Expr)
  | alternation (span : Span) (branches : List Expr)
  | concat (span : Span) (parts : List Expr)
deriving Inhabited

mutual

/-- Where `set` first nests deeper than `room`. -/
def ClassSet.tooDeep? (room : Nat) : ClassSet → Option Span
  | .bracketed span _ body => if room = 0 then some span else ClassSet.tooDeep? (room - 1) body
  | .union span parts => if room = 0 then some span else ClassSet.tooDeepAll? (room - 1) parts
  | .combined span _ left right =>
    if room = 0 then some span
    else (ClassSet.tooDeep? (room - 1) left).or (ClassSet.tooDeep? (room - 1) right)
  | _ => none

def ClassSet.tooDeepAll? (room : Nat) : List ClassSet → Option Span
  | [] => none
  | p :: ps => (ClassSet.tooDeep? room p).or (ClassSet.tooDeepAll? room ps)

end

mutual

/-- Where a pattern first nests deeper than `room`. -/
def Expr.tooDeep? (room : Nat) : Expr → Option Span
  | .bracketed span _ body => if room = 0 then some span else body.tooDeep? (room - 1)
  | .repetition span _ _ _ body => if room = 0 then some span else Expr.tooDeep? (room - 1) body
  | .group span _ body => if room = 0 then some span else Expr.tooDeep? (room - 1) body
  | .capture span body => if room = 0 then some span else Expr.tooDeep? (room - 1) body
  | .alternation span branches =>
    if room = 0 then some span else Expr.tooDeepAll? (room - 1) branches
  | .concat span parts => if room = 0 then some span else Expr.tooDeepAll? (room - 1) parts
  | _ => none

def Expr.tooDeepAll? (room : Nat) : List Expr → Option Span
  | [] => none
  | p :: ps => (Expr.tooDeep? room p).or (Expr.tooDeepAll? room ps)

end

end TokenGrammar.Pattern
