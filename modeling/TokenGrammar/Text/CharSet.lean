import TokenGrammar.Text.Fields

namespace TokenGrammar.Text

structure CharSet where
  /-- Inclusive ranges of code points, in increasing order, with a gap between any two. -/
  bounds : Array (Nat × Nat)
deriving DecidableEq, Inhabited

namespace CharSet

def empty : CharSet := ⟨#[]⟩

/-- Inclusive ranges, those that overlap or touch as one. The range so far is `lo` to `hi`; the
others start in increasing order and not before `lo`. -/
def joinedFrom (lo hi : Nat) : List (Nat × Nat) → List (Nat × Nat)
  | [] => [(lo, hi)]
  | (lo', hi') :: rs =>
    if lo' ≤ hi + 1 then joinedFrom lo (max hi hi') rs else (lo, hi) :: joinedFrom lo' hi' rs

/-- The set of these inclusive ranges. -/
def ofRanges (rs : List (Nat × Nat)) : CharSet :=
  match rs.mergeSort (fun r s => r.1 ≤ s.1) with
  | [] => empty
  | (lo, hi) :: rs => ⟨(joinedFrom lo hi rs).toArray⟩

/-- Whether one of the ranges `lo` to `hi`, the last excluded, holds `n`. -/
def search (bounds : Array (Nat × Nat)) (n lo hi : Nat) : Bool :=
  if lo < hi then
    let mid := lo + (hi - lo) / 2
    match bounds[mid]? with
    | none => false
    | some (first, last) =>
      if n < first then search bounds n lo mid
      else if last < n then search bounds n (mid + 1) hi
      else true
  else false
termination_by hi - lo

/-- Whether a code point is in the set. -/
def has (s : CharSet) (n : Nat) : Bool := search s.bounds n 0 s.bounds.size

def contains (s : CharSet) (c : Char) : Bool := s.has c.toNat

def isEmpty (s : CharSet) : Bool := s.bounds.isEmpty

/-- The ranges of code points from `start` to `last` that no range of `rs` holds. -/
def gaps (start last : Nat) : List (Nat × Nat) → List (Nat × Nat)
  | [] => if start ≤ last then [(start, last)] else []
  | (lo, hi) :: rs => (if start < lo then [(start, lo - 1)] else []) ++ gaps (hi + 1) last rs

/-- The code points that are no characters. -/
def surrogates : Nat × Nat := (0xD800, 0xDFFF)

def unionAll (sets : List CharSet) : CharSet := ofRanges (sets.flatMap (·.bounds.toList))

def union (s t : CharSet) : CharSet := unionAll [s, t]

/-- All other characters. -/
def compl (s : CharSet) : CharSet :=
  ⟨(gaps 0 0x10FFFF (ofRanges (surrogates :: s.bounds.toList)).bounds.toList).toArray⟩

def inter (s t : CharSet) : CharSet := (s.compl.union t.compl).compl

def diff (s t : CharSet) : CharSet := (s.compl.union t).compl

def symmDiff (s t : CharSet) : CharSet := (s.diff t).union (t.diff s)

/-- All characters from `first` to `last`. -/
def between (first last : Char) : CharSet :=
  if first ≤ last then (ofRanges [(first.toNat, last.toNat)]).compl.compl else empty

def singleton (c : Char) : CharSet := ⟨#[(c.toNat, c.toNat)]⟩

def ofChars (cs : List Char) : CharSet := ofRanges (cs.map fun c => (c.toNat, c.toNat))

def all : CharSet := empty.compl

/-- The only character of a set. -/
def only? (s : CharSet) : Option Char :=
  match s.bounds.toList with
  | [(lo, hi)] => if lo = hi then some (Char.ofNat lo) else none
  | _ => none

/-- Whether all characters are below `limit`. -/
def allBelow (limit : Nat) (s : CharSet) : Bool := s.bounds.all fun (_, hi) => hi < limit

/-! ### Tables -/

def hexValue (c : Char) : Nat :=
  if c.isDigit then c.toNat - '0'.toNat else c.toNat - 'A'.toNat + 10

def ofHex (cs : List Char) : Nat := cs.foldl (fun n c => 16 * n + hexValue c) 0

/-- Ranges as they are written: `41-5A`, a single code point `AA`, or every other code point from
one to another, `100-12E/2`. -/
def entry (cs : List Char) : List (Nat × Nat) :=
  match fields '-' (cs.takeWhile (· ≠ '/')) with
  | [first, last] =>
    let lo := ofHex first
    let hi := ofHex last
    if cs.contains '/' then (List.range ((hi - lo) / 2 + 1)).map fun i => (lo + 2 * i, lo + 2 * i)
    else [(lo, hi)]
  | parts => [(ofHex parts.flatten, ofHex parts.flatten)]

/-- A table of a set, written as lines of hexadecimal ranges. -/
def ofLines (lines : List String) : CharSet :=
  ofRanges (lines.flatMap fun line => (fields ' ' line.toList).flatMap entry)

end CharSet

end TokenGrammar.Text
