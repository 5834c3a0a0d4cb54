import TokenGrammar.Pattern.Automaton.Basic
import TokenGrammar.Text.Utf8
import Std.Data.HashMap

namespace TokenGrammar.Pattern.Automaton

open Text.Utf8 (Range)

/-- A growing automaton and what is remembered of its states. States that take the same bytes to the
same states are one, as long as the memo remembers the first: each of its places keeps what was put
there last. -/
structure Memo where
  size : Size
  /-- The number of places. -/
  places : Nat
  /-- By place, what a state is known by, and the state. -/
  known : Std.HashMap Nat (List Nat × Nat)

namespace Memo

def start (size : Size) (places : Nat) : Memo := ⟨size, places, ∅⟩

/-- The place of a key: a multiplicative hash of its numbers. -/
def place (m : Memo) (key : List Nat) : Nat :=
  (key.foldl (fun (h : UInt64) n => (h ^^^ n.toUInt64) * 1099511628211)
    14695981039346656037).toNat % m.places

/-- The state known by `key`. It is added where none is remembered, as `grow` says. -/
def state (key : List Nat) (grow : Size → Size) : StateM Memo Nat := fun m =>
  let place := m.place key
  match m.known[place]? with
  | some (known, id) =>
    if known = key then (id, m) else (m.size.states, fresh m place)
  | none => (m.size.states, fresh m place)
where
  fresh (m : Memo) (place : Nat) : Memo :=
    { m with size := grow m.size, known := m.known.insert place (key, m.size.states) }

/-- The state from which the bytes of one of `boxes` lead to `target`. The boxes are in order and
have fewer than `fuel` bytes. States are added behind those that they lead to. -/
def trie (target : Nat) : Nat → List (List Range) → StateM Memo Nat
  | 0, _ => return target
  | fuel + 1, boxes => do
    if boxes.any List.isEmpty then return target
    let groups := boxes.splitBy fun b c => b.head? == c.head?
    let steps ← groups.mapM fun group => do
      let next ← trie target fuel (group.map List.tail)
      return ((group.head?.bind List.head?).toList.flatMap fun (lo, hi) => [lo, hi, next])
    state steps.flatten (·.addRanges steps.length)

/-- The state from which the bytes of a box, read from the last, lead to `target`. -/
def chain (target : Nat) (box : List Range) : StateM Memo Nat :=
  box.foldlM (fun next (lo, hi) => state [next, lo, hi] (·.add 1)) target

end Memo

/-- The automaton with the states for boxes of bytes, which are those of some characters. -/
def Size.addBoxes (s : Size) (direction : Direction) (boxes : List (List Range)) : Size :=
  match direction with
  | .forward => ((Memo.trie s.states 5 boxes).run (.start (s.add 1) 10000)).2.size
  | .backward =>
    let fork := (s.addFork boxes.length).add 1
    ((boxes.forM fun box => discard (Memo.chain (s.states + 1) box)).run (.start fork 1000)).2.size

end TokenGrammar.Pattern.Automaton
