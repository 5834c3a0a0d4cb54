import TokenGrammar.Found
import TokenGrammar.Json.Basic

namespace TokenGrammar

inductive DecodeError where
  | missingField (name : String)
  | invalidType (found : Found) (expected : String)
  | negative (n : Int) (expected : String)
  /-- An array that ends before a field which has to be there. -/
  | tooShort (length : Nat) (name : String) (fields : Nat)
  | tooLong (length : Nat)
deriving DecidableEq

def DecodeError.message : DecodeError → String
  | .missingField name => s!"missing field `{name}`"
  | .invalidType found expected =>
    s!"invalid type: {found.describe .document}, expected {expected}"
  | .negative n expected => s!"invalid value: integer `{n}`, expected {expected}"
  | .tooShort length name fields =>
    let elements := if fields = 1 then "1 element" else s!"{fields} elements"
    s!"invalid length {length}, expected struct {name} with {elements}"
  | .tooLong length => s!"invalid length {length}, expected fewer elements in array"

namespace Json

def found : Json → Found
  | .null => .null
  | .bool b => .bool b
  | .integer n => .integer n
  | .float x => .float x
  | .string s => .text s
  | .array _ => .sequence
  | .object _ => .map

/-- What a value is decoded to, or why it is refused. A structure is an object, whose unknown
members do not matter, or the array of its fields in order. -/
abbrev Decoded (α : Type) := Except DecodeError α

def asString : Json → Decoded String
  | .string s => .ok s
  | v => .error (.invalidType v.found "a string")

def asBool : Json → Decoded Bool
  | .bool b => .ok b
  | v => .error (.invalidType v.found "a boolean")

def asNat : Json → Decoded Nat
  | .integer n => if n < 0 then .error (.negative n "usize") else .ok n.toNat
  | v => .error (.invalidType v.found "usize")

def asNat? : Json → Decoded (Option Nat)
  | .null => .ok none
  | v => v.asNat.map some

/-- Refuses an array with more than `fields` items. -/
def noMoreThan (fields : Nat) (items : List Json) : Decoded Unit :=
  if items.length ≤ fields then .ok () else .error (.tooLong items.length)

/-- The decoded member or item, or `fallback` where there is none. -/
def orElse {α : Type} (fallback : Decoded α) (decode : Json → Decoded α) :
    Option Json → Decoded α
  | none => fallback
  | some v => decode v

end Json

end TokenGrammar
