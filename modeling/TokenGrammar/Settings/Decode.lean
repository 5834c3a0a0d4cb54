import TokenGrammar.Found
import TokenGrammar.Settings.Basic
import TokenGrammar.Settings.Value
import TokenGrammar.Text.Lowercase

namespace TokenGrammar.Settings

inductive LoadError where
  /-- A key that is no path. -/
  | badKey
  /-- A file that has to be there and is not. -/
  | missingFile (path : String)
  | malformedFile (uri : String)
  | wrongType (found : Found) (expected key : String) (origin : Origin)
  | notStruct (found : Found) (name : String)
  | emptyStruct (name : String)
  | missingField (name : String)
deriving DecidableEq

def LoadError.message : LoadError → String
  | .badKey => "malformed key"
  | .missingFile path => s!"configuration file \"{path}\" not found"
  | .malformedFile uri => s!"malformed file {uri}"
  | .wrongType found expected key origin =>
    let place := match origin with
      | some uri => s!" in {uri}"
      | none => ""
    s!"invalid type: {found.describe .scalar}, expected {expected} for key `{key}`{place}"
  | .notStruct found name => s!"invalid type: {found.describe .setting}, expected struct {name}"
  | .emptyStruct name => s!"invalid length 0, expected struct {name} with 1 element"
  | .missingField name => s!"missing field `{name}`"

abbrev Loaded (α : Type) := Except LoadError α

namespace Value

def found : Value → Found
  | .nil _ => .null
  | .bool _ b => .bool b
  | .integer _ n => .integer n
  | .float _ x => .float x
  | .string _ s => .text s
  | .array _ _ => .sequence
  | .table _ _ => .map

end Value

/-- The words for a switch that is on, and for one that is off. -/
def onWords : List String := ["true", "on", "yes"]

def offWords : List String := ["false", "off", "no"]

/-- The greatest number of 64 bits. -/
def greatest : Nat := UInt64.size - 1

/-- The number of 64 bits that digits, behind a plus sign at most, write. -/
def natural? (s : String) : Option Nat :=
  let digits := match s.toList with
    | '+' :: cs => cs
    | cs => cs
  let n := Decimal.ofDigits digits
  if digits.isEmpty || !digits.all Char.isDigit || greatest < n then none else some n

/-- A number of 64 bits that is not negative. -/
def asNat (key : String) (v : Value) : Loaded Nat :=
  let refused (expected : String) : Loaded Nat :=
    .error (.wrongType v.found expected key v.origin)
  match v with
  | .integer _ n =>
    if 0 ≤ n ∧ n ≤ greatest then .ok n.toNat else refused "an unsigned 64 bit or less integer"
  | .bool _ b => .ok b.toNat
  | .float _ x => .ok (x.toNatUpTo greatest)
  | .string _ s =>
    if Text.Lowercase.ofText s ∈ onWords then .ok 1
    else if Text.Lowercase.ofText s ∈ offWords then .ok 0
    else match natural? s with
      | some n => .ok n
      | none => refused "an integer"
  | .nil _ | .array _ _ | .table _ _ => refused "an integer"

def asNat? (key : String) : Value → Loaded (Option Nat)
  | .nil _ => .ok none
  | v => (asNat key v).map some

/-- A switch. A word that is none is reported in lower case. -/
def asBool (key : String) (v : Value) : Loaded Bool :=
  let refused (found : Found) : Loaded Bool :=
    .error (.wrongType found "a boolean" key v.origin)
  match v with
  | .bool _ b => .ok b
  | .integer _ n => .ok (n ≠ 0)
  | .float _ x => .ok !x.isZero
  | .string _ s =>
    let word := Text.Lowercase.ofText s
    if word = "1" ∨ word ∈ onWords then .ok true
    else if word = "0" ∨ word ∈ offWords then .ok false
    else refused (.text word)
  | .nil _ | .array _ _ | .table _ _ => refused v.found

def repetitionOf : Value → Loaded RepetitionSettings
  | .table o entries =>
    match (Value.table o entries).get? "max" with
    | none => .ok {}
    | some v => (asNat? "repetition.max" v).map fun max => ⟨max⟩
  | .array _ [] => .ok {}
  | .array _ (v :: _) => (asNat? "repetition[0]" v).map fun max => ⟨max⟩
  | v => .error (.notStruct v.found "RepetitionConfig")

def parseOf : Value → Loaded ParseSettings
  | .table o entries =>
    match (Value.table o entries).get? "require_complete" with
    | none => .error (.missingField "require_complete")
    | some v => (asBool "parse.require_complete" v).map fun b => ⟨b⟩
  | .array _ [] => .error (.emptyStruct "ParseConfig")
  | .array _ (v :: _) => (asBool "parse[0]" v).map fun b => ⟨b⟩
  | v => .error (.notStruct v.found "ParseConfig")

/-- The settings of a whole configuration; a part that is missing has its defaults. -/
def ofValue (root : Value) : Loaded Settings := do
  let repetition ← match root.get? "repetition" with
    | none => .ok {}
    | some v => repetitionOf v
  let parse ← match root.get? "parse" with
    | none => .ok {}
    | some v => parseOf v
  return ⟨repetition, parse⟩

end TokenGrammar.Settings
