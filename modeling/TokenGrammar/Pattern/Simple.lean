import TokenGrammar.Pattern.Piece

/-!
Simplified expressions. What is built here from simplified parts is simplified again: no part of a
concatenation is empty, a concatenation or a literal beside another; no branch of an alternation
is an alternation; branches share no beginning; no set has a single character; and what can only
be empty is not repeated. The pieces keep their order, so it matches what its parts say.
-/

namespace TokenGrammar.Pattern

open Text (CharSet)

namespace Simple

def literal (cs : List Char) : Regex Piece := .leaf (.literal cs)

def look (l : Look) : Regex Piece := .leaf (.look l)

/-- There is only one empty set. -/
def set (ofBytes : Bool) (s : CharSet) : Regex Piece :=
  match s.only? with
  | some c => literal [c]
  | none => .leaf (.set (ofBytes && !s.isEmpty) s)

/-- An expression without a match. -/
def fail : Regex Piece := set false .empty

def repeated (min : Nat) (max : Option Nat) (greedy : Bool) (body : Regex Piece) : Regex Piece :=
  let (min, max) :=
    if body.onlyEmpty Piece.isLook then (Nat.min min 1, some ((max.map (Nat.min · 1)).getD 1))
    else (min, max)
  if max = some 0 then .empty
  else if min = 1 ∧ max = some 1 then body
  else .repeated min max greedy body

/-! ### Concatenations -/

def partsOf : Regex Piece → List (Regex Piece)
  | .empty => []
  | .concat rs => rs
  | r => [r]

/-- Literals beside each other as one. -/
def joinLiterals : List (Regex Piece) → List (Regex Piece)
  | [] => []
  | .leaf (.literal cs) :: rs =>
    match joinLiterals rs with
    | .leaf (.literal ds) :: rs => literal (cs ++ ds) :: rs
    | rs => literal cs :: rs
  | r :: rs => r :: joinLiterals rs

def concat (rs : List (Regex Piece)) : Regex Piece :=
  match joinLiterals (rs.flatMap partsOf) with
  | [] => .empty
  | [r] => r
  | rs => .concat rs

/-! ### Alternations -/

/-- Whether two expressions are the same. Groups that capture never are: each has its number. -/
def same : Regex Piece → Regex Piece → Bool
  | .empty, .empty => true
  | .leaf a, .leaf b => a == b
  | .repeated min max greedy r, .repeated min' max' greedy' s =>
    min == min' && max == max' && greedy == greedy' && same r s
  | .concat rs, .concat ss => inAll rs ss
  | .alternation rs, .alternation ss => inAll rs ss
  | _, _ => false
where
  inAll : List (Regex Piece) → List (Regex Piece) → Bool
    | [], [] => true
    | r :: rs, s :: ss => same r s && inAll rs ss
    | _, _ => false

/-- How many parts two concatenations begin with alike. -/
def sharedLength : List (Regex Piece) → List (Regex Piece) → Nat
  | r :: rs, s :: ss => if same r s then sharedLength rs ss + 1 else 0
  | _, _ => 0

/-- The parts that all branches begin with, if all are concatenations, and what follows in each. -/
def splitShared (branches : List (Regex Piece)) :
    Option (List (Regex Piece) × List (List (Regex Piece))) :=
  let parts := branches.mapM fun
    | .concat rs => some rs
    | _ => none
  match parts with
  | none | some [] => none
  | some (first :: others) =>
    let count := others.foldl (fun n rs => min n (sharedLength first rs)) first.length
    if count = 0 then none
    else some (first.take count, (first :: others).map (·.drop count))

def branchesOf : Regex Piece → List (Regex Piece)
  | .alternation rs => rs
  | r => [r]

/-- The set that a choice of single characters or of sets is. -/
def choiceOfOne (branches : List (Regex Piece)) : Option CharSet :=
  let chars := branches.mapM fun
    | .leaf (.literal [c]) => some c
    | _ => none
  let sets := branches.mapM fun
    | .leaf (.set _ s) => some s
    | _ => none
  (chars.map .ofChars).or (sets.map .unionAll)

/-- A choice of branches that have fewer than `fuel` expressions in all. -/
def alternationWithin : Nat → List (Regex Piece) → Regex Piece
  | 0, rs => .alternation rs
  | fuel + 1, rs =>
    match rs.flatMap branchesOf with
    | [] => fail
    | [r] => r
    | rs =>
      match choiceOfOne rs with
      | some s => set false s
      | none =>
        match splitShared rs with
        | some (shared, rests) => concat (shared ++ [alternationWithin fuel (rests.map concat)])
        | none => .alternation rs

def alternation (rs : List (Regex Piece)) : Regex Piece :=
  alternationWithin (Regex.nodes (.alternation rs)) rs

end Simple

end TokenGrammar.Pattern
