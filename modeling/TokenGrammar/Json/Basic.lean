import TokenGrammar.Number.Binary64

namespace TokenGrammar

/-- JSON values. Objects keep their members in the order in which they were written. -/
inductive Json where
  | null
  | bool (b : Bool)
  /-- A number written without fraction or exponent that fits 64 bits, signed or unsigned. -/
  | integer (n : Int)
  /-- Any other number. -/
  | float (x : Binary64)
  | string (s : String)
  | array (items : List Json)
  | object (members : List (String × Json))
deriving Inhabited

namespace Json

/-- The value of the last member called `key`. -/
def get? (key : String) : Json → Option Json
  | .object members => (members.reverse.lookup key)
  | _ => none

def strings (ss : List String) : Json := .array (ss.map .string)

def ofNat (n : Nat) : Json := .integer n

end Json

end TokenGrammar
