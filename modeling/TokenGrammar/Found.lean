import TokenGrammar.Number.Binary64
import TokenGrammar.Text.Quoted

namespace TokenGrammar

/-- What was found where something else was expected. -/
inductive Found where
  | null
  | bool (b : Bool)
  | integer (n : Int)
  | float (x : Binary64)
  | text (s : String)
  | sequence
  | map
deriving DecidableEq

/-- How messages of one kind of source tell what they found. -/
structure Wording where
  null : String
  integer : Int → String
  layout : Binary64.Layout

namespace Wording

/-- In JSON documents. -/
def document : Wording := ⟨"null", fun _ => "integer", .document⟩

/-- In settings that should be structures; floats are written out. -/
def setting : Wording := ⟨"unit value", fun _ => "integer", .written⟩

/-- The least kind of integer that holds `n`. -/
def integerKind (n : Int) : String :=
  if -0x8000000000000000 ≤ n ∧ n < 0x8000000000000000 then "64-bit integer"
  else if 0 ≤ n ∧ n < 0x10000000000000000 then "64-bit unsigned integer"
  else "128-bit integer"

/-- In single settings. -/
def scalar : Wording := { setting with integer := integerKind }

end Wording

def Found.describe (w : Wording) : Found → String
  | .null => w.null
  | .bool b => s!"boolean `{b}`"
  | .integer n => s!"{w.integer n} `{n}`"
  | .float x => s!"floating point `{x.text w.layout}`"
  | .text s => s!"string {Text.quoted s}"
  | .sequence => "sequence"
  | .map => "map"

end TokenGrammar
