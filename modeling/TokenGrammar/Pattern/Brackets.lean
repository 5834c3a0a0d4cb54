import TokenGrammar.Pattern.Escape

namespace TokenGrammar.Pattern

/-- A part of a class and its place. -/
abbrev Placed := Span × ClassSet

/-- The union of parts, the last of which comes first. -/
def unionOf (parts : List Placed) : ClassSet :=
  match parts.reverse with
  | [] => .empty
  | [(_, part)] => part
  | first :: rest =>
    .union ⟨first.1.start, ((rest.getLast?.getD first).1).stop⟩ (first.2 :: rest.map (·.2))

def asciiClasses : List (String × AsciiClass) :=
  [("alnum", .alnum), ("alpha", .alpha), ("ascii", .ascii), ("blank", .blank), ("cntrl", .cntrl),
    ("digit", .digit), ("graph", .graph), ("lower", .lower), ("print", .print), ("punct", .punct),
    ("space", .space), ("upper", .upper), ("word", .word), ("xdigit", .xdigit)]

/-- The character at `start`, which stands for itself. -/
def plain (start : Nat) (c : Char) : Placed :=
  let span : Span := ⟨start, start + 1⟩
  (span, .literal ⟨span, c, false⟩)

namespace Read

/-- The opening of a class: its span, whether it is negated, and the characters that can only
stand for themselves there. -/
def opening : Read (Span × Bool × List Placed) := do
  let start ← here
  let unclosed {α : Type} : Read α := do refuse .classUnclosed start (← here)
  let mut next ← step
  if next.isNone then unclosed
  let negated := next = some '^'
  if negated then
    next ← step
    if next.isNone then unclosed
  let hyphens ← dashes start (← fuel)
  if hyphens.isEmpty && (← peek) = some ']' then
    let at_ ← here
    if (← step).isNone then unclosed
    return (⟨start, ← here⟩, negated, [plain at_ ']'])
  return (⟨start, ← here⟩, negated, hyphens)
where
  /-- Leading hyphens, the last first. -/
  dashes (start : Nat) : Nat → Read (List Placed)
    | 0 => return []
    | fuel + 1 => do
      if (← peek) = some '-' then
        let at_ ← here
        if (← step).isNone then refuse .classUnclosed start start
        return (← dashes start fuel) ++ [plain at_ '-']
      else return []

/-- A named class of ASCII characters, `[:name:]`, if one comes next. -/
def asciiClass? : Read (Option Placed) := do
  let before ← get
  match before.rest with
  | '[' :: ':' :: cs =>
    let (negated, cs) := match cs with
      | '^' :: cs => (true, cs)
      | cs => (false, cs)
    let name := cs.takeWhile (· ≠ ':')
    match cs.drop name.length, asciiClasses.lookup (String.ofList name) with
    | ':' :: ']' :: rest, some cls =>
      let stop := before.offset + (before.rest.length - rest.length)
      let span : Span := ⟨before.offset, stop⟩
      set { before with rest, offset := stop }
      return some (span, .ascii span cls negated)
    | _, _ => return none
  | _ => return none

/-- One character or escape of a class, and its place. -/
def classPrimitive : Read (Span × Primitive) := do
  let start ← here
  match ← peek with
  | some '\\' =>
    let p ← escape
    return (⟨start, ← here⟩, p)
  | some c =>
    bump
    return (⟨start, ← here⟩, .literal c false)
  | none => return (⟨start, start⟩, .dot)

def classPart (place : Span) : Primitive → Read ClassSet
  | .literal c isByte => return .literal ⟨place, c, isByte⟩
  | .shorthand cls negated => return .shorthand place cls negated
  | .property name negated => return .property place name negated
  | .assertion _ | .dot => refuse .classEscape place.start place.stop

def classBound (place : Span) : Primitive → Read Letter
  | .literal c isByte => return ⟨place, c, isByte⟩
  | _ => refuse .classBoundNotLiteral place.start place.stop

/-- A single part or a range. A hyphen before the closing bracket or another hyphen makes none. -/
def classRange (opened : Span) : Read Placed := do
  let (place, first) ← classPrimitive
  skipBlanks
  match ← peek with
  | none => refuse .classUnclosed opened.start opened.stop
  | some c =>
    let beyond ← peekPastBlanks
    if c ≠ '-' || beyond = some ']' || beyond = some '-' then
      return (place, ← classPart place first)
    if (← step).isNone then refuse .classUnclosed opened.start opened.stop
    let (place', last) ← classPrimitive
    let lo ← classBound place first
    let hi ← classBound place' last
    if hi.char < lo.char then refuse .classRangeReversed place.start place'.stop
    return (⟨place.start, place'.stop⟩, .range lo hi)

/-- The set operator that comes next, if it stands doubled. -/
def setOp? : Read (Option SetOp) := do
  if ← bumpIf "&&" then return some .intersection
  else if ← bumpIf "--" then return some .difference
  else if ← bumpIf "~~" then return some .symmetricDifference
  else return none

/-- What an operator makes of the operands before it, and the place of the result. -/
def operand (left : Option (Span × ClassSet × SetOp)) (union : Span × ClassSet) : Span × ClassSet :=
  match left with
  | none => union
  | some (place, set, op) =>
    let whole : Span := ⟨place.start, union.1.stop⟩
    (whole, .combined whole op set union.2)

/-- The place of a union, which is where it stands if it is empty. -/
def unionPlace (parts : List Placed) (start : Nat) : Span :=
  match parts.reverse with
  | [] => ⟨start, start⟩
  | first :: rest => ⟨first.1.start, ((rest.getLast?.getD first).1).stop⟩

/-- The rest of a class whose opening is `opened`, up to and with its closing bracket. `left` is
what stands before the last operator; `parts` are read since, from `start` on. -/
def classBody (opened : Span) : Nat → Option (Span × ClassSet × SetOp) → Nat → List Placed →
    Read ClassSet
  | 0, _, _, _ => refuse .classUnclosed opened.start opened.stop
  | fuel + 1, left, start, parts => do
    skipBlanks
    match ← peek with
    | none => refuse .classUnclosed opened.start opened.stop
    | some '[' =>
      let at_ ← here
      match ← asciiClass? with
      | some part => classBody opened fuel left start (part :: parts)
      | none =>
        let (inner, negated, first) ← opening
        let body ← classBody inner fuel none inner.stop first
        let place : Span := ⟨at_, ← here⟩
        classBody opened fuel left start ((place, .bracketed place negated body) :: parts)
    | some ']' =>
      bump
      return (operand left (unionPlace parts start, unionOf parts)).2
    | some _ =>
      match ← setOp? with
      | some op =>
        let (place, set) := operand left (unionPlace parts start, unionOf parts)
        classBody opened fuel (some (place, set, op)) (← here) []
      | none => classBody opened fuel left start ((← classRange opened) :: parts)

/-- The class whose bracket comes next. -/
def bracketed : Read Expr := do
  let start ← here
  let (opened, negated, first) ← opening
  let body ← classBody opened (← fuel) none opened.stop first
  return .bracketed ⟨start, ← here⟩ negated body

end Read

end TokenGrammar.Pattern
