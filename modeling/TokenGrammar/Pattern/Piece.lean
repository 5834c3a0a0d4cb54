import TokenGrammar.Pattern.Expr
import TokenGrammar.Pattern.Regex
import TokenGrammar.Text.Property
import Std.Data.HashMap

namespace TokenGrammar.Pattern

open Text (CharSet)

/-- Conditions on the two characters around a place. -/
inductive Look where
  | textStart | textEnd
  /-- Lines end at line feeds and, if `carriage`, at carriage returns and at both as a pair. -/
  | lineStart (carriage : Bool)
  | lineEnd (carriage : Bool)
  | word (unicode : Bool) (look : WordLook)
deriving DecidableEq

/-- The leaves of a meaning. -/
inductive Piece where
  /-- These characters in a row, at least one. -/
  | literal (cs : List Char)
  /-- One character of a set. A set from where characters are bytes is another than that from where
  they are not. -/
  | set (ofBytes : Bool) (s : CharSet)
  | look (l : Look)
deriving DecidableEq

namespace Piece

/-- Whether a piece takes no character. -/
def isLook : Piece → Bool
  | .look _ => true
  | _ => false

def look? : Piece → Option Look
  | .look l => some l
  | _ => none

end Piece

namespace WordLook

/-- Whether there is a word character before a place and after it. -/
def holds (before after : Bool) : WordLook → Bool
  | .boundary => before != after
  | .inside => before == after
  | .start => !before && after
  | .stop => before && !after
  | .startHalf => !before
  | .stopHalf => !after

end WordLook

def asciiWord : CharSet :=
  .unionAll [.between '0' '9', .between 'A' 'Z', .singleton '_', .between 'a' 'z']

namespace Look

/-- Whether the characters around a place, none at an end of the text, satisfy the condition. -/
def holds (before after : Option Char) : Look → Bool
  | .textStart => before.isNone
  | .textEnd => after.isNone
  | .lineStart false => before.isNone || before == some '\n'
  | .lineStart true =>
    before.isNone || before == some '\n' || (before == some '\r' && after != some '\n')
  | .lineEnd false => after.isNone || after == some '\n'
  | .lineEnd true =>
    after.isNone || after == some '\r' || (after == some '\n' && before != some '\r')
  | .word unicode look =>
    let words := if unicode then Text.Property.word else asciiWord
    look.holds (before.any words.contains) (after.any words.contains)

end Look

/-- How a piece moves places, in the text that it was looked up in. -/
inductive Move where
  /-- One on for each set of places, from the places of that set. -/
  | steps (sets : List Places)
  /-- None, from the places of a set. -/
  | stay (at_ : Places)

def Move.apply : Move → Places → Places
  | .steps sets, s => sets.foldl (fun s from_ => (s &&& from_) <<< 1) s
  | .stay at_, s => s &&& at_

/-- The set of the places whose flag is up, the first place first. -/
def placesOf (flags : List Bool) : Places :=
  flags.foldr (fun b places => 2 * places + b.toNat) 0

/-- The characters before and after each place of a text. -/
def surroundings (text : List Char) : List (Option Char × Option Char) :=
  (none :: text.map some).zip (text.map some ++ [none])

/-- A text as far as pieces ask about it: the places in front of each of its characters, and those
where conditions hold. -/
structure Chart where
  /-- By code point. -/
  chars : Std.HashMap Nat Places
  looks : List (Look × Places)

namespace Chart

/-- The chart of a text for these conditions. -/
def ofText (looks : List Look) (text : List Char) : Chart where
  chars := text.zipIdx.foldl (fun chars (c, place) =>
    chars.insert c.toNat (chars.getD c.toNat 0 ||| 1 <<< place)) ∅
  looks := looks.map fun l => (l, placesOf ((surroundings text).map fun (b, a) => l.holds b a))

def ofChar (chart : Chart) (c : Char) : Places := chart.chars.getD c.toNat 0

def ofSet (chart : Chart) (s : CharSet) : Places :=
  chart.chars.fold (fun all n places => if s.has n then all ||| places else all) 0

def ofLook (chart : Chart) (l : Look) : Places := (chart.looks.lookup l).getD 0

end Chart

/-- Where a piece leads in a text. -/
def Piece.inText (chart : Chart) : Piece → Move
  | .literal cs => .steps (cs.map chart.ofChar)
  | .set _ s => .steps [chart.ofSet s]
  | .look l => .stay (chart.ofLook l)

end TokenGrammar.Pattern
