namespace TokenGrammar.Pattern

/-- Regular expressions over any kind of leaf. -/
inductive Regex (α : Type) where
  | empty
  | leaf (a : α)
  /-- At least `min` times, at most `max` if there is one. -/
  | repeated (min : Nat) (max : Option Nat) (greedy : Bool) (body : Regex α)
  | capture (body : Regex α)
  | concat (parts : List (Regex α))
  | alternation (branches : List (Regex α))
deriving Inhabited

/-- A set of places in a text: a number whose bit `i` says whether place `i` is in it. All places
move at once, so that no text takes more than polynomial time. -/
abbrev Places := Nat

namespace Regex

/-- The number of expressions in an expression, itself one of them. -/
def nodes {α : Type} : Regex α → Nat
  | .empty => 1
  | .leaf _ => 1
  | .repeated _ _ _ r => r.nodes + 1
  | .capture r => r.nodes + 1
  | .concat rs => inAll rs + 1
  | .alternation rs => inAll rs + 1
where
  inAll : List (Regex α) → Nat
    | [] => 0
    | r :: rs => r.nodes + inAll rs

def map {α β : Type} (f : α → β) : Regex α → Regex β
  | .empty => .empty
  | .leaf a => .leaf (f a)
  | .repeated min max greedy r => .repeated min max greedy (r.map f)
  | .capture r => .capture (r.map f)
  | .concat rs => .concat (inAll rs)
  | .alternation rs => .alternation (inAll rs)
where
  inAll : List (Regex α) → List (Regex β)
    | [] => []
    | r :: rs => r.map f :: inAll rs

/-- The leaves in order, in front of others. -/
def leavesOnto {α : Type} (rest : List α) : Regex α → List α
  | .empty => rest
  | .leaf a => a :: rest
  | .repeated _ _ _ r => r.leavesOnto rest
  | .capture r => r.leavesOnto rest
  | .concat rs => ofAll rest rs
  | .alternation rs => ofAll rest rs
where
  ofAll (rest : List α) : List (Regex α) → List α
    | [] => rest
    | r :: rs => r.leavesOnto (ofAll rest rs)

def leaves {α : Type} (r : Regex α) : List α := r.leavesOnto []

/-- Whether no group captures and all leaves satisfy `p`. -/
def isPlain {α : Type} (p : α → Bool) : Regex α → Bool
  | .empty => true
  | .leaf a => p a
  | .repeated _ _ _ r => r.isPlain p
  | .capture _ => false
  | .concat rs => inAll rs
  | .alternation rs => inAll rs
where
  inAll : List (Regex α) → Bool
    | [] => true
    | r :: rs => r.isPlain p && inAll rs

/-! ### Lengths of matches -/

/-- Whether all matches are empty, if `p` says so of the leaves. -/
def onlyEmpty {α : Type} (p : α → Bool) : Regex α → Bool
  | .empty => true
  | .leaf a => p a
  | .repeated _ _ _ r => r.onlyEmpty p
  | .capture r => r.onlyEmpty p
  | .concat rs => inAll rs
  | .alternation rs => inAll rs
where
  inAll : List (Regex α) → Bool
    | [] => true
    | r :: rs => r.onlyEmpty p && inAll rs

/-- The least length of a match, if `least` says that of the leaves; none where a leaf has none. -/
def shortest {α : Type} (least : α → Option Nat) : Regex α → Option Nat
  | .empty => some 0
  | .leaf a => least a
  | .repeated min _ _ r => (r.shortest least).map (min * ·)
  | .capture r => r.shortest least
  | .concat rs => (ofEach rs).map fun ns => ns.foldr (· + ·) 0
  | .alternation rs => (ofEach rs).map fun ns => ns.min?.getD 0
where
  ofEach : List (Regex α) → Option (List Nat)
    | [] => some []
    | r :: rs =>
      match r.shortest least, ofEach rs with
      | some n, some ns => some (n :: ns)
      | _, _ => none

/-! ### Ends of matches -/

/-- Whether each match begins with a leaf that satisfies `p`; all matches of leaves that satisfy
`e`, and of no others, are empty. -/
def beginsWith {α : Type} (p e : α → Bool) : Regex α → Bool
  | .empty => false
  | .leaf a => p a
  | .repeated min _ _ r => 0 < min && r.beginsWith p e
  | .capture r => r.beginsWith p e
  | .concat rs => first rs
  | .alternation rs => inAll rs
where
  first : List (Regex α) → Bool
    | [] => false
    | r :: rs => r.beginsWith p e || (r.onlyEmpty e && first rs)
  inAll : List (Regex α) → Bool
    | [] => true
    | r :: rs => r.beginsWith p e && inAll rs

/-- Whether each match finishes with a leaf that satisfies `p`. -/
def finishesWith {α : Type} (p e : α → Bool) : Regex α → Bool
  | .empty => false
  | .leaf a => p a
  | .repeated min _ _ r => 0 < min && r.finishesWith p e
  | .capture r => r.finishesWith p e
  | .concat rs => last rs
  | .alternation rs => inAll rs
where
  last : List (Regex α) → Bool
    | [] => false
    | r :: rs => last rs || (rs.all (·.onlyEmpty e) && r.finishesWith p e)
  inAll : List (Regex α) → Bool
    | [] => true
    | r :: rs => r.finishesWith p e && inAll rs

/-! ### Places -/

/-- `f` applied `count` times, or until it changes nothing. -/
def iterate (f : Places → Places) : Nat → Places → Places
  | 0, s => s
  | count + 1, s =>
    let t := f s
    if t = s then s else iterate f count t

/-- `s` and what `f` reaches from it in up to `count` steps, or until nothing is new. -/
def closure (f : Places → Places) : Nat → Places → Places
  | 0, s => s
  | count + 1, s =>
    let t := s ||| f s
    if t = s then s else closure f count t

mutual

/-- The places where a match can end that starts in `s`. `move` does so for a leaf; the text has
`size` characters. -/
def ends {α : Type} (size : Nat) (move : α → Places → Places) : Regex α → Places → Places
  | .empty, s => s
  | .leaf a, s => move a s
  | .repeated min max _ r, s =>
    let start := iterate (r.ends size move) min s
    match max with
    | none => closure (r.ends size move) (size + 1) start
    | some max => closure (r.ends size move) (max - min) start
  | .capture r, s => r.ends size move s
  | .concat rs, s => endsAfter size move rs s
  | .alternation rs, s => endsOfAny size move rs s

/-- The same for expressions one behind the other. -/
def endsAfter {α : Type} (size : Nat) (move : α → Places → Places) :
    List (Regex α) → Places → Places
  | [], s => s
  | r :: rs, s => endsAfter size move rs (r.ends size move s)

/-- The same for a choice of expressions. -/
def endsOfAny {α : Type} (size : Nat) (move : α → Places → Places) :
    List (Regex α) → Places → Places
  | [], _ => 0
  | r :: rs, s => r.ends size move s ||| endsOfAny size move rs s

end

end Regex

end TokenGrammar.Pattern
