namespace TokenGrammar.Pattern.Automaton

/-- The most bytes that an automaton may take. -/
def limit : Nat := 10 * 1024 * 1024

/-- What the automaton reads from: the first byte of a text or the last. -/
inductive Direction where
  | forward | backward
deriving DecidableEq

/-- An automaton as far as it is built. A state takes 32 bytes, and those with several transitions
take more; nothing else of an automaton counts. -/
structure Size where
  /-- How many states there are; the next has that number. -/
  states : Nat
  /-- What the states take beside the 32 bytes of each. -/
  extra : Nat
deriving DecidableEq

namespace Size

def none : Size := ⟨0, 0⟩

def bytes (s : Size) : Nat := 32 * s.states + s.extra

def tooLarge (s : Size) : Bool := limit < s.bytes

/-- With some states more. -/
def add (s : Size) (count : Nat) : Size := ⟨s.states + count, s.extra⟩

/-- With a state more that holds transitions for `count` ranges of bytes. -/
def addRanges (s : Size) (count : Nat) : Size := ⟨s.states + 1, s.extra + 8 * count⟩

/-- With a state more that leads to `count` others. -/
def addFork (s : Size) (count : Nat) : Size := ⟨s.states + 1, s.extra + 4 * count⟩

/-- `grow` applied `count` times, or until the automaton is too large. -/
def times (grow : Size → Size) : Nat → Size → Size
  | 0, s => s
  | count + 1, s => if s.tooLarge then s else times grow count (grow s)

end Size

end TokenGrammar.Pattern.Automaton
