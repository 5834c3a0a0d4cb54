import TokenGrammar.Pattern.Automaton.Memo
import TokenGrammar.Pattern.Automaton.Words
import TokenGrammar.Pattern.Simple

namespace TokenGrammar.Pattern.Automaton

/-- A leaf as far as its size goes. -/
inductive Block where
  | word (w : Word)
  | look
  /-- A set of ASCII characters, as so many ranges. -/
  | ascii (ranges : Nat)
  | boxes (bs : List (List Text.Utf8.Range))

namespace Block

def ofPiece : Piece → Block
  | .literal cs => .word (cs.flatMap String.utf8EncodeChar)
  | .look _ => .look
  | .set _ s =>
    if s.allBelow 128 then .ascii s.bounds.size
    else .boxes (s.bounds.toList.flatMap fun (lo, hi) => Text.Utf8.sequences lo hi)

/-- The least number of bytes that a block takes, if it takes any. -/
def least : Block → Option Nat
  | .word w => some w.length
  | .look => some 0
  | .ascii ranges => if ranges = 0 then none else some 1
  | .boxes _ => some 1

def addTo (direction : Direction) (s : Size) : Block → Size
  | .word w => s.add w.length
  | .look => s.add 1
  | .ascii ranges => (s.add 1).addRanges ranges
  | .boxes bs => s.addBoxes direction bs

end Block

/-- The words of a choice that has nothing else. -/
def wordsOf (rs : List (Regex Block)) : Option (List Word) :=
  rs.mapM fun
    | .leaf (.word w) => some w
    | _ => none

mutual

/-- The automaton with the states of an expression, which have one way in and one way out; none are
added to one that is too large. -/
def add (direction : Direction) : Regex Block → Size → Size
  | .empty, s => s.add 1
  | .leaf block, s => block.addTo direction s
  | .repeated min max _ r, s =>
    let one := add direction r
    let exactly := if min = 0 then s.add 1 else Size.times one min s
    match max with
    | none =>
      if min = 0 then
        if (r.shortest Block.least).any (0 < ·) then one (s.addFork 2)
        else (((one s).addFork 2).addFork 2).add 1
      else exactly.addFork 2
    | some max =>
      if min = 0 ∧ max = 1 then (one (s.addFork 2)).add 1
      else if min = max then exactly
      else Size.times (fun s => one (s.addFork 2)) (max - min) (exactly.add 1)
  | .capture r, s =>
    match direction with
    | .forward => (add direction r (s.add 1)).add 1
    | .backward => add direction r s
  | .concat rs, s => addEach direction rs s
  | .alternation rs, s =>
    match wordsOf rs with
    | some ws => s.addWords direction ws
    | none => addBranches direction 0 rs s

/-- Expressions in the order in which they are read. -/
def addEach (direction : Direction) : List (Regex Block) → Size → Size
  | [], s => s
  | r :: rs, s =>
    if s.tooLarge then s
    else match direction with
    | .forward => addEach direction rs (add direction r s)
    | .backward => add direction r (addEach direction rs s)

/-- The branches of a choice behind `count` others. Its fork and its end are added behind the
first two. -/
def addBranches (direction : Direction) (count : Nat) : List (Regex Block) → Size → Size
  | [], s => s
  | r :: rs, s =>
    if s.tooLarge then s
    else
      let s := add direction r s
      addBranches direction (count + 1) rs
        (if count = 1 then (s.addFork (rs.length + 2)).add 1 else s)

end

/-- Whether a search can only start at the end of the text where `direction` starts. -/
def anchored (r : Regex Piece) : Direction → Bool
  | .forward => r.beginsWith (· == .look .textStart) Piece.isLook
  | .backward => r.finishesWith (· == .look .textEnd) Piece.isLook

/-- An automaton for a whole pattern. In front is what skips bytes that no match takes. -/
def size (r : Regex Piece) (direction : Direction) : Size :=
  let start := if anchored r direction then Size.none.add 1
    else ((Size.none.addFork 2).add 1).addRanges 1
  (add direction (.capture (r.map Block.ofPiece)) start).add 1

/-- Whether both automata of a pattern are small enough: one that reads forward and marks groups,
and one that reads backward and does not. -/
def fits (r : Regex Piece) : Bool :=
  !(size r .forward).tooLarge && !(size r .backward).tooLarge

end TokenGrammar.Pattern.Automaton
