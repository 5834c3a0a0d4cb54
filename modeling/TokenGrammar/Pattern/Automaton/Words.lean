import TokenGrammar.Pattern.Automaton.Basic

namespace TokenGrammar.Pattern.Automaton

/-- A word as bytes. -/
abbrev Word := List UInt8

namespace Words

/-- The words at one state in runs that no word ends between, for one that does cuts the transitions
of the state in two. Of words that end before any other goes on, the first counts. `run` is the run
so far, the last word first. -/
def runs (goesOn ended : Bool) (run : List Word) : List Word → List (List Word)
  | [] => [run.reverse]
  | [] :: ws =>
    if ended && !goesOn then runs goesOn ended run ws else run.reverse :: runs goesOn true [] ws
  | (b :: w) :: ws => runs true ended ((b :: w) :: run) ws

/-- What follows each first byte of some words. -/
def follow (ws : List Word) : List (List Word) :=
  (ws.filterMap List.head?).eraseDups.map fun b =>
    ws.filterMap fun
      | c :: w => if c = b then some w else none
      | [] => none

/-- The automaton with the states of a trie, the last of which is its root. The words have fewer
than `fuel` bytes; a state that no word goes on from is the end of all. -/
def addState : Nat → List Word → Size → Size
  | 0, _, s => s
  | fuel + 1, ws, s =>
    let rs := runs false false [] ws
    let s := rs.foldl (fun s run =>
      let nexts := follow run
      let s := nexts.foldl (fun s next =>
        if next.all List.isEmpty then s else addState fuel next s) s
      match nexts.length with
      | 0 => s
      | 1 => s.add 1
      | n => s.addRanges n) s
    s.addFork ((rs.filter (! ·.isEmpty)).length + (rs.length - 1))

end Words

/-- The automaton with the states for a choice between words. -/
def Size.addWords (s : Size) (direction : Direction) (ws : List Word) : Size :=
  let ws := match direction with
    | .forward => ws
    | .backward => ws.map List.reverse
  Words.addState ((ws.map List.length).foldl max 0 + 1) ws (s.add 1)

end TokenGrammar.Pattern.Automaton
