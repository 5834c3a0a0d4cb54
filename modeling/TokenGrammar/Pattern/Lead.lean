import TokenGrammar.Pattern.Piece

namespace TokenGrammar.Pattern

/-- A word of bytes that matches begin with. -/
structure Lead where
  bytes : List UInt8
  /-- Whether no match goes on behind it. -/
  whole : Bool
deriving DecidableEq

/-- The words that matches begin with, in the order in which they are tried; none if they are too
many. Every match begins with one of them, and a whole word is a match by itself. -/
abbrev Leads := Option (List Lead)

namespace Lead

def ofChars (cs : List Char) : Lead := ⟨cs.flatMap String.utf8EncodeChar, true⟩

/-- Where matches may begin with anything. -/
def empty : Lead := ofChars []

/-- The word as one behind which matches go on. -/
def continued (w : Lead) : Lead := { w with whole := false }

/-- The first `count` bytes. -/
def cut (count : Nat) (w : Lead) : Lead :=
  if w.bytes.length ≤ count then w else ⟨w.bytes.take count, false⟩

def append (w v : Lead) : Lead := ⟨w.bytes ++ v.bytes, v.whole⟩

/-- Equal words beside each other as one, which is whole if they all are. -/
def joinEqual : List Lead → List Lead
  | [] => []
  | w :: ws =>
    match joinEqual ws with
    | v :: vs =>
      if w.bytes = v.bytes then ⟨w.bytes, w.whole && v.whole⟩ :: vs else w :: v :: vs
    | [] => [w]

end Lead

namespace Leads

/-- The most words that count as few. -/
def most : Nat := 250

/-- The most bytes that are kept of a word. -/
def longest : Nat := 100

/-- The most characters of a set that each are a word. -/
def mostOfSet : Nat := 10

/-- The most rounds of a repetition that are followed. -/
def mostRounds : Nat := 10

def continued (ws : Leads) : Leads := ws.map (·.map Lead.continued)

/-- Whether one of the words is whole, so that what follows makes a difference. -/
def anyWhole (ws : Leads) : Bool := ws.any (·.any (·.whole))

/-- The words of one expression behind those of another. -/
def cross (first second : Leads) : Leads :=
  first.bind fun ws =>
    match second.filter fun vs => ws.length * vs.length ≤ most with
    | none => if ws.any (·.bytes.isEmpty) then none else some (ws.map Lead.continued)
    | some vs =>
      let crossed := ws.flatMap fun w => if w.whole then vs.map w.append else [w]
      some ((Lead.joinEqual crossed).map (Lead.cut longest))

/-- The words of either expression, cut short where they would be too many. -/
def union (first second : Leads) : Leads :=
  first.bind fun ws => second.bind fun vs =>
    if ws.length + vs.length ≤ most then some (Lead.joinEqual (ws ++ vs))
    else
      let ws := Lead.joinEqual (ws.map (Lead.cut 4))
      let vs := Lead.joinEqual (vs.map (Lead.cut 4))
      if ws.length + vs.length ≤ most then some (Lead.joinEqual (ws ++ vs)) else none

/-- The words `ws` with those of up to `count` rounds behind. -/
def times (one : Leads) : (count : Nat) → (ws : Leads) → Leads
  | 0, ws => ws
  | count + 1, ws => if ws.anyWhole then times one count (ws.cross one) else ws

def ofPiece : Piece → Leads
  | .look _ => some [.empty]
  | .literal cs => some [(Lead.ofChars cs).cut longest]
  | .set _ s =>
    let size := s.bounds.toList.foldr (fun (lo, hi) n => hi + 1 - lo + n) 0
    if mostOfSet < size then none
    else some (s.bounds.toList.flatMap fun (lo, hi) =>
      (List.range (hi + 1 - lo)).map fun i => Lead.ofChars [Char.ofNat (lo + i)])

mutual

/-- The words that matches of an expression begin with. -/
def ofRegex : Regex Piece → Leads
  | .empty => some [.empty]
  | .leaf p => ofPiece p
  | .repeated min max greedy r =>
    let one := ofRegex r
    if min = 0 then
      let one := if max = some 1 then one else one.continued
      if greedy then union one (some [.empty]) else union (some [.empty]) one
    else
      let ws := times one (Nat.min min mostRounds) (some [.empty])
      if max = some min ∧ min ≤ mostRounds then ws else ws.continued
  | .capture r => ofRegex r
  | .concat rs => ofEach (some [.empty]) rs
  | .alternation rs => ofAny (some []) rs

/-- The words `ws` with those of expressions one behind the other. -/
def ofEach (ws : Leads) : List (Regex Piece) → Leads
  | [] => ws
  | r :: rs => if ws.anyWhole then ofEach (ws.cross (ofRegex r)) rs else ws

/-- The words `ws` and those of a choice of expressions. -/
def ofAny (ws : Leads) : List (Regex Piece) → Leads
  | [] => ws
  | r :: rs => if ws.isNone then none else ofAny (ws.union (ofRegex r)) rs

end

end Leads

end TokenGrammar.Pattern
