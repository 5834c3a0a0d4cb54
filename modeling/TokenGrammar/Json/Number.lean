import TokenGrammar.Json.Basic
import TokenGrammar.Number.Binary64.Arithmetic
import TokenGrammar.Number.Decimal

namespace TokenGrammar.Json

/-- `n` with one digit more, if 64 bits hold that. -/
def extended? (n : Nat) (c : Char) : Option Nat :=
  let m := 10 * n + Decimal.digitValue c
  if m < UInt64.size then some m else none

/-- The digits `n` with those of a whole number behind, and the power of ten that they count. From
the first that does not fit, none is taken. -/
def addWhole (n : Nat) : List Char → Nat × Int
  | [] => (n, 0)
  | c :: cs =>
    match extended? n c with
    | some n => addWhole n cs
    | none => (n, cs.length + 1)

/-- The same with the digits of a fraction behind. -/
def addFraction (n : Nat) (power : Int) : List Char → Nat × Int
  | [] => (n, power)
  | c :: cs =>
    match extended? n c with
    | some n => addFraction n (power - 1) cs
    | none => (n, power)

/-- The greatest power of ten that is a float. -/
def greatestPower : Int := 308

/-- The float nearest to a power of ten. -/
def powerOfTen (power : Nat) : Binary64 := .ofNat (Nat.pow 10 power)

/-- `x` times a power of ten, by factors that are floats; none if that is too large. -/
def shifted? (x : Binary64) (power : Int) : Option Binary64 :=
  if 0 ≤ power ∧ power ≤ greatestPower then
    match x.mul (powerOfTen power.toNat) with
    | .infinite _ => none
    | y => some y
  else if -greatestPower ≤ power ∧ power < 0 then some (x.div (powerOfTen power.natAbs))
  else if x.isZero then some x
  else if greatestPower < power then none
  else shifted? (x.div (powerOfTen greatestPower.toNat)) (power + greatestPower)
termination_by power.natAbs
decreasing_by simp only [greatestPower] at *; omega

/-- The float that a number is taken for, in two steps that each round: its digits, as many as 64
bits hold, and then the power of ten that they count. So it may differ in the last place from the
float nearest to the number. -/
def float? (negative : Bool) (whole fraction : List Char) (power : Int) : Option Json :=
  let (n, shift) := addWhole 0 whole
  let (n, shift) := addFraction n shift fraction
  (shifted? (.ofNat n) (shift + power)).map fun x => .float (if negative then x.neg else x)

/-- A number without fraction and exponent. Minus zero is no integer. -/
def whole? (negative : Bool) (digits : List Char) : Option Json :=
  let n := Decimal.ofDigits digits
  if negative then
    if n ≠ 0 ∧ n ≤ 0x8000000000000000 then some (.integer (-n)) else float? true digits [] 0
  else if n < UInt64.size then some (.integer n)
  else float? false digits [] 0

/-- An optional sign and at least one digit; no exponent at all is the power zero. -/
def readPower (cs : List Char) : Option (Int × List Char) :=
  let (negative, cs) := match cs with
    | '-' :: cs => (true, cs)
    | '+' :: cs => (false, cs)
    | cs => (false, cs)
  let (ds, rest) := cs.span Char.isDigit
  if ds.isEmpty then none
  else some (if negative then -(Decimal.ofDigits ds : Int) else Decimal.ofDigits ds, rest)

def readNumber (cs : List Char) : Option (Json × List Char) := do
  let (negative, cs) := match cs with
    | '-' :: cs => (true, cs)
    | cs => (false, cs)
  let (whole, rest) := cs.span Char.isDigit
  if whole.isEmpty || (whole.length ≠ 1 && whole.head? == some '0') then none
  let (fraction, rest) ← match rest with
    | '.' :: rest =>
      let (fraction, rest) := rest.span Char.isDigit
      if fraction.isEmpty then none else some (fraction, rest)
    | rest => some ([], rest)
  match rest with
  | 'e' :: rest | 'E' :: rest =>
    let (power, rest) ← readPower rest
    return (← float? negative whole fraction power, rest)
  | rest =>
    if fraction.isEmpty then return (← whole? negative whole, rest)
    else return (← float? negative whole fraction 0, rest)

end TokenGrammar.Json
