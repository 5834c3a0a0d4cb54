import TokenGrammar.Number.Decimal

namespace TokenGrammar

/-- A signed multiple of a power of two, an infinity, or no number. A finite one has a significand
below `2 ^ 53`, and at least `2 ^ 52` unless its exponent is the least. -/
inductive Binary64 where
  | finite (negative : Bool) (significand : Nat) (exponent : Int)
  | infinite (negative : Bool)
  | nan
deriving DecidableEq, Inhabited

namespace Binary64

def leastExponent : Int := -1074

def greatestExponent : Int := 971

/-- The least number of 54 binary digits. -/
def tooMany : Nat := 1 <<< 53

/-- The whole number nearest to `num / den`; of two the even one. -/
def roundEven (num den : Nat) : Nat :=
  let q := num / den
  let r := num % den
  if 2 * r < den then q else if den < 2 * r then q + 1 else q + q % 2

/-- The number `n · base ^ e` as a fraction. -/
def scaled (n base : Nat) (e : Int) : Nat × Nat :=
  if 0 ≤ e then (n * Nat.pow base e.toNat, 1) else (n, Nat.pow base (-e).toNat)

/-- `num / den` in steps of `2 ^ e`, as a fraction. -/
def inSteps (num den : Nat) (e : Int) : Nat × Nat :=
  if 0 ≤ e then (num, den <<< e.toNat) else (num <<< (-e).toNat, den)

/-- The exponent at which the positive fraction `num / den` has 53 binary digits, or the least. -/
def exponentOf (num den : Nat) : Int :=
  let low : Int := (Nat.log2 num : Int) - Nat.log2 den - 53
  let (n, d) := inSteps num den low
  max leastExponent (if n < tooMany * d then low else low + 1)

/-- The number nearest to the positive fraction `num / den`; of two the one with an even
significand. -/
def ofFraction (negative : Bool) (num den : Nat) : Binary64 :=
  let e := exponentOf num den
  let (n, d) := inSteps num den e
  let m := roundEven n d
  let (m, e) := if m = tooMany then (tooMany / 2, e + 1) else (m, e)
  if greatestExponent < e then .infinite negative else .finite negative m e

def ofDecimal (d : Decimal) : Binary64 :=
  let size : Int := (Nat.toDigits 10 d.digits).length + d.exponent
  if d.digits = 0 ∨ size < -400 then .finite d.negative 0 leastExponent
  else if 400 < size then .infinite d.negative
  else
    let (num, den) := scaled d.digits 10 d.exponent
    ofFraction d.negative num den

def isZero : Binary64 → Bool
  | .finite _ 0 _ => true
  | _ => false

/-- The nearest whole number, a half away from zero, brought into the range from 0 to `limit`. -/
def toNatUpTo (limit : Nat) : Binary64 → Nat
  | .finite true _ _ | .infinite true | .nan => 0
  | .infinite false => limit
  | .finite false m e =>
    let (n, d) := scaled m 2 e
    min limit ((2 * n + d) / (2 * d))

/-- The number of decimal digits before the point of a positive fraction, or, negated, of zeros
behind it. -/
def magnitude (num den : Nat) : Int :=
  let guess : Int := (Nat.toDigits 10 num).length - (Nat.toDigits 10 den).length
  let (p, q) := scaled den 10 guess
  if p ≤ num * q then guess + 1 else guess

/-- Whether the fraction `num / den` reads back as `m · 2 ^ e`: it lies between the halfway points
to the neighbours, ends included if `m` is even. -/
def readsBack (m : Nat) (e : Int) (num den : Nat) : Bool :=
  let lowGap := if m = tooMany / 2 ∧ leastExponent < e then 1 else 2
  let (n, d) := inSteps num den e
  let below := (4 * m - lowGap) * d
  let above := (4 * m + 2) * d
  if m % 2 = 0 then below ≤ 4 * n && 4 * n ≤ above else below < 4 * n && 4 * n < above

/-- The digits of the shortest decimal with at least `count` digits that reads back, and the place
of its point before the first digit. At most `fuel` more digits are tried. -/
def shortestFrom (m : Nat) (e : Int) (num den : Nat) (point : Int) : Nat → Nat → Nat × Int
  | count, 0 => (num / den, count)
  | count, fuel + 1 =>
    let grid : Int := point - count
    let (p, q) := scaled 1 10 grid
    let low := num * q / (den * p)
    let fits (k : Nat) : Bool := k ≠ 0 && readsBack m e (k * p) q
    let nearer := 2 * (num * q) ≤ (2 * low + 1) * (den * p)
    match fits low, fits (low + 1) with
    | true, true => (if nearer then low else low + 1, grid)
    | true, false => (low, grid)
    | false, true => (low + 1, grid)
    | false, false => shortestFrom m e num den point (count + 1) fuel

/-- The fewest digits that read back as the positive number `m · 2 ^ e`, without zeros at the end,
and the power of ten that they count. -/
def shortest (m : Nat) (e : Int) : List Char × Int :=
  let (num, den) := scaled m 2 e
  let (k, grid) := shortestFrom m e num den (magnitude num den) 1 17
  let digits := Nat.toDigits 10 k
  let kept := (digits.reverse.dropWhile (· = '0')).reverse
  (kept, grid + (digits.length - kept.length : Nat))

/-- How the text of a number is laid out. -/
structure Layout where
  /-- The places of the point, counted from the first digit, that are written without a power. -/
  positional : Int → Bool
  /-- What stands before a power of ten that is not negative. -/
  powerSign : List Char

/-- Numbers of `10 ^ 16` and above, and those below `10 ^ -5`, have a power of ten, with a sign in
either case. -/
def Layout.document : Layout := ⟨fun point => -5 < point && point ≤ 16, ['+']⟩

/-- No number has a power of ten. -/
def Layout.written : Layout := ⟨fun _ => true, []⟩

/-- Digits with a point `point` places behind the first, zeros filled in on either side. -/
def plain (digits : List Char) (point : Int) : List Char :=
  if point ≤ 0 then '0' :: '.' :: (List.replicate (-point).toNat '0' ++ digits)
  else
    let whole := digits.take point.toNat
    let fraction := digits.drop point.toNat
    whole ++ List.replicate (point.toNat - whole.length) '0' ++ '.' ::
      (if fraction.isEmpty then ['0'] else fraction)

/-- Digits with a point behind the first, if there are more, and a power of ten. -/
def powered (powerSign digits : List Char) (point : Int) : List Char :=
  let power := point - 1
  let powerText := (if power < 0 then ['-'] else powerSign) ++ Nat.toDigits 10 power.natAbs
  match digits with
  | d :: e :: ds => d :: '.' :: e :: ds ++ 'e' :: powerText
  | ds => ds ++ 'e' :: powerText

def text (layout : Layout) : Binary64 → String
  | .nan => "NaN"
  | .infinite negative => if negative then "-inf" else "inf"
  | .finite negative m e =>
    let sign := if negative then ['-'] else []
    if m = 0 then String.ofList (sign ++ ['0', '.', '0'])
    else
      let (digits, grid) := shortest m e
      let point := grid + digits.length
      String.ofList (sign ++
        if layout.positional point then plain digits point
        else powered layout.powerSign digits point)

end Binary64

end TokenGrammar
