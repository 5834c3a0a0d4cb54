import TokenGrammar.Pattern.Class
import TokenGrammar.Pattern.Reader
import TokenGrammar.Pattern.Simple

namespace TokenGrammar.Pattern.Meaning

open Text (CharSet)

/-- A letter, or the set of its case variants where case means nothing and there are some. -/
def ofLetter (flags : Flags) (c : Char) : Regex Piece :=
  let variants := Class.folded flags (.singleton c)
  if variants.only?.isSome then Simple.literal [c] else Simple.set (!flags.unicode) variants

def ofAssertion (flags : Flags) : Assertion → Look
  | .textStart => .textStart
  | .textEnd => .textEnd
  | .lineStart => if flags.multiLine then .lineStart flags.carriage else .textStart
  | .lineEnd => if flags.multiLine then .lineEnd flags.carriage else .textEnd
  | .word look => .word flags.unicode look

/-- What the dot takes. -/
def dot (flags : Flags) : CharSet :=
  if flags.dotAll then .all
  else (CharSet.ofChars (if flags.carriage then ['\n', '\r'] else ['\n'])).compl

mutual

/-- The meaning of a part, and the switches behind it. Switches hold from where they stand to the
end of their group. -/
def ofExpr (flags : Flags) : Expr → Except Error (Flags × Regex Piece)
  | .empty => return (flags, .empty)
  | .flags changes => return (changes.apply flags, .empty)
  | .literal c => return (flags, ofLetter flags (← Class.ofByte flags c))
  | .dot span =>
    if flags.unicode then return (flags, Simple.set false (dot flags))
    else throw ⟨.notUtf8, span, none⟩
  | .assertion a => return (flags, Simple.look (ofAssertion flags a))
  | .shorthand span cls negated =>
    return (flags, Simple.set (!flags.unicode) (← Class.shorthand flags span cls negated))
  | .property span name negated =>
    return (flags, Simple.set (!flags.unicode) (← Class.property flags span name negated))
  | .bracketed span negated body => do
    let s ← Class.ofSet flags body
    return (flags, Simple.set (!flags.unicode) (← Class.closed flags span negated s))
  | .repetition _ min max greedy body => do
    let (flags, r) ← ofExpr flags body
    return (flags, Simple.repeated min max (greedy != flags.swapGreed) r)
  | .group _ changes body => do
    let (_, r) ← ofExpr (changes.apply flags) body
    return (flags, r)
  | .capture _ body => do
    let (_, r) ← ofExpr flags body
    return (flags, .capture r)
  | .alternation _ branches => do
    let (flags, rs) ← ofExprs flags branches
    return (flags, Simple.alternation rs)
  | .concat _ parts => do
    let (flags, rs) ← ofExprs flags parts
    return (flags, Simple.concat rs)

def ofExprs (flags : Flags) : List Expr → Except Error (Flags × List (Regex Piece))
  | [] => return (flags, [])
  | e :: es => do
    let (flags, r) ← ofExpr flags e
    let (flags, rs) ← ofExprs flags es
    return (flags, r :: rs)

end

end TokenGrammar.Pattern.Meaning
