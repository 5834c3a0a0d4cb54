import TokenGrammar.Text.Fields

namespace TokenGrammar.Pattern

/-- The characters of a pattern from `start` up to `stop`, the latter excluded. -/
structure Span where
  start : Nat
  stop : Nat
deriving DecidableEq, Inhabited

inductive Fault where
  | backreference
  | boundaryUnclosed
  | boundaryUnfinished
  | boundaryUnknown
  | classBoundNotLiteral
  | classEscape
  | classRangeReversed
  | classUnclosed
  | countMissing
  | countRangeReversed
  | countTooLarge
  | countUnclosed
  | escapeUnfinished
  | escapeUnknown
  | flagDuplicate
  | flagMissing
  | flagUnknown
  | groupNameCharacter
  | groupNameDuplicate
  | groupNameEmpty
  | groupNameUnclosed
  | groupUnclosed
  | groupUnopened
  | hexDigit
  | hexEmpty
  | hexNotScalar
  | lookAround
  | negationDangling
  | negationRepeated
  | nestedTooDeep (limit : Nat)
  | notUtf8
  | operandMissing
  | propertyForm
  | propertyUnknown
  | propertyValueUnknown
  | unicodeRefused
deriving DecidableEq

def Fault.cause : Fault → String
  | .backreference => "backreferences are not supported"
  | .boundaryUnclosed =>
    "special word boundary assertion is either unclosed or contains an invalid character"
  | .boundaryUnfinished =>
    "found either the beginning of a special word boundary or a bounded repetition on a \\b " ++
    "with an opening brace, but no closing brace"
  | .boundaryUnknown =>
    "unrecognized special word boundary assertion, valid choices are: start, end, start-half or " ++
    "end-half"
  | .classBoundNotLiteral => "invalid range boundary, must be a literal"
  | .classEscape => "invalid escape sequence found in character class"
  | .classRangeReversed => "invalid character class range, the start must be <= the end"
  | .classUnclosed => "unclosed character class"
  | .countMissing => "repetition quantifier expects a valid decimal"
  | .countRangeReversed => "invalid repetition count range, the start must be <= the end"
  | .countTooLarge => "decimal literal invalid"
  | .countUnclosed => "unclosed counted repetition"
  | .escapeUnfinished => "incomplete escape sequence, reached end of pattern prematurely"
  | .escapeUnknown => "unrecognized escape sequence"
  | .flagDuplicate => "duplicate flag"
  | .flagMissing => "expected flag but got end of regex"
  | .flagUnknown => "unrecognized flag"
  | .groupNameCharacter => "invalid capture group character"
  | .groupNameDuplicate => "duplicate capture group name"
  | .groupNameEmpty => "empty capture group name"
  | .groupNameUnclosed => "unclosed capture group name"
  | .groupUnclosed => "unclosed group"
  | .groupUnopened => "unopened group"
  | .hexDigit => "invalid hexadecimal digit"
  | .hexEmpty => "hexadecimal literal empty"
  | .hexNotScalar => "hexadecimal literal is not a Unicode scalar value"
  | .lookAround => "look-around, including look-ahead and look-behind, is not supported"
  | .negationDangling => "dangling flag negation operator"
  | .negationRepeated => "flag negation operator repeated"
  | .nestedTooDeep limit =>
    s!"exceed the maximum number of nested parentheses/brackets ({limit})"
  | .notUtf8 => "pattern can match invalid UTF-8"
  | .operandMissing => "repetition operator missing expression"
  | .propertyForm => "invalid Unicode character class"
  | .propertyUnknown => "Unicode property not found"
  | .propertyValueUnknown => "Unicode property value not found"
  | .unicodeRefused => "Unicode not allowed here"

/-- A fault, where it stands and, if it repeats something, where that stood first. -/
structure Error where
  fault : Fault
  span : Span
  earlier : Option Span
deriving DecidableEq

namespace Error

/-- Line and column, both from one, of the character at `offset`. -/
def position (pattern : List Char) (offset : Nat) : Nat × Nat :=
  (pattern.take offset).foldl
    (fun (line, column) c => if c = '\n' then (line + 1, 1) else (line, column + 1)) (1, 1)

def spans (e : Error) : List Span :=
  match e.earlier with
  | none => [e.span]
  | some s =>
    if s.start < e.span.start ∨ (s.start = e.span.start ∧ s.stop ≤ e.span.stop) then [s, e.span]
    else [e.span, s]

/-- Whether `s` starts and ends on line `line`. -/
def onLine (pattern : List Char) (line : Nat) (s : Span) : Bool :=
  (position pattern s.start).1 == line && (position pattern s.stop).1 == line

/-- Carets under `ss`, columns counted from the left margin; a span of no width has one too. -/
def carets (pattern : List Char) (ss : List Span) : List Char :=
  ss.foldl (fun row s =>
    let first := (position pattern s.start).2 - 1
    let width := (position pattern s.stop).2 - 1 - first
    row ++ List.replicate (first - row.length) ' ' ++ List.replicate (max 1 width) '^') []

/-- Each line of the pattern behind its margin, and under it the carets that fall on it. -/
def marked (pattern : List Char) (ss : List Span) (margin : Nat → List Char) : List (List Char) :=
  ((Text.lines pattern).zipIdx 1).flatMap fun (line, number) =>
    let here := ss.filter (onLine pattern number)
    (margin number ++ line) ::
      (if here.isEmpty then []
       else [List.replicate (margin number).length ' ' ++ carets pattern here])

/-- A span that goes over the end of its line, told in words. -/
def farSpan (pattern : List Char) (s : Span) : String :=
  let (line, column) := position pattern s.start
  let (lastLine, lastColumn) := position pattern s.stop
  s!"on line {line} (column {column}) through line {lastLine} (column {lastColumn - 1})"

/-- The report of a fault in a pattern of one line: the pattern and its carets, four in. -/
def shortReport (pattern : List Char) (e : Error) : List String :=
  (marked pattern e.spans fun _ => List.replicate 4 ' ').map String.ofList

/-- The report of a fault in a longer pattern: numbered lines between dividers, then the spans
that no line holds. -/
def longReport (pattern : List Char) (e : Error) : List String :=
  let count := (Text.lines pattern).length + (if pattern.getLast? = some '\n' then 1 else 0)
  let width := (Nat.toDigits 10 count).length
  let margin (number : Nat) : List Char :=
    let digits := Nat.toDigits 10 number
    List.replicate (width - digits.length) ' ' ++ digits ++ [':', ' ']
  let divider := String.ofList (List.replicate 79 '~')
  let far := e.spans.filter fun s => (position pattern s.start).1 ≠ (position pattern s.stop).1
  divider :: (marked pattern e.spans margin).map String.ofList ++ divider
    :: far.map (farSpan pattern)

/-- What is wrong with `pattern`, shown on its text, and the cause. -/
def report (pattern : String) (e : Error) : String :=
  let cs := pattern.toList
  let body := if cs.contains '\n' then longReport cs e else shortReport cs e
  "\n".intercalate ("regex parse error:" :: body ++ ["error: " ++ e.fault.cause])

end Error

end TokenGrammar.Pattern
