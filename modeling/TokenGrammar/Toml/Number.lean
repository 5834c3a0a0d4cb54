import TokenGrammar.Toml.Text
import TokenGrammar.Toml.Value

namespace TokenGrammar.Toml

/-- Digits with `p`, and single underscores between them. -/
def digitRun (p : Char → Bool) : List Char → List Char × List Char
  | c :: '_' :: d :: rest =>
    if p c then
      if p d then
        let (ds, rest) := digitRun p (d :: rest)
        (c :: ds, rest)
      else ([c], '_' :: d :: rest)
    else ([], c :: '_' :: d :: rest)
  | c :: rest =>
    if p c then
      let (ds, rest) := digitRun p rest
      (c :: ds, rest)
    else ([], c :: rest)
  | [] => ([], [])

/-- A whole number that fits 64 bits with a sign. -/
def fitting? (n : Int) : Option Value :=
  if -0x8000000000000000 ≤ n ∧ n < 0x8000000000000000 then some (.integer n) else none

/-- A whole number in another base, whose mark is read. -/
def readBased (base : Nat) (cs : List Char) : Option (Value × List Char) := do
  let isDigit (c : Char) : Bool := (hexValue? c).any (· < base)
  let (digits, rest) := digitRun isDigit cs
  if digits.isEmpty then none
  let n := digits.foldl (fun n c => base * n + (hexValue? c).getD 0) 0
  return (← fitting? n, rest)

/-- Digits without needless zeros in front. -/
def wholeDigits (cs : List Char) : Option (List Char × List Char) :=
  match cs with
  | '0' :: rest => some (['0'], rest)
  | cs =>
    let (digits, rest) := digitRun Char.isDigit cs
    if digits.isEmpty then none else some (digits, rest)

/-- The power of ten behind its mark. -/
def readPower (cs : List Char) : Option (Int × List Char) :=
  let (negative, cs) := match cs with
    | '-' :: cs => (true, cs)
    | '+' :: cs => (false, cs)
    | cs => (false, cs)
  let (digits, rest) := digitRun Char.isDigit cs
  let n : Int := Decimal.ofDigits digits
  if digits.isEmpty then none else some (if negative then -n else n, rest)

/-- A decimal number; one with a fraction or a power is a float, and may not be too large. -/
def readDecimal (negative : Bool) (cs : List Char) : Option (Value × List Char) := do
  let (whole, rest) ← wholeDigits cs
  let (fraction, rest) ← match rest with
    | '.' :: rest =>
      let (fraction, rest) := digitRun Char.isDigit rest
      if fraction.isEmpty then none else some (fraction, rest)
    | rest => some ([], rest)
  let (power, rest) ← match rest with
    | 'e' :: rest | 'E' :: rest => (readPower rest).map fun (power, rest) => (some power, rest)
    | rest => some (none, rest)
  if fraction.isEmpty && power.isNone then
    let n : Int := Decimal.ofDigits whole
    return (← fitting? (if negative then -n else n), rest)
  else
    let x := Binary64.ofDecimal (.ofParts negative whole fraction (power.getD 0))
    if x = .infinite false then none else return (.float x, rest)

/-- A number with its sign. -/
def readNumber (cs : List Char) : Option (Value × List Char) :=
  let signed (negative : Bool) (cs : List Char) : Option (Value × List Char) :=
    match cs with
    | 'i' :: 'n' :: 'f' :: rest => some (.float (.infinite negative), rest)
    | 'n' :: 'a' :: 'n' :: rest => some (.float .nan, rest)
    | cs => readDecimal negative cs
  match cs with
  | '+' :: cs => signed false cs
  | '-' :: cs => signed true cs
  | '0' :: 'x' :: cs => readBased 16 cs
  | '0' :: 'o' :: cs => readBased 8 cs
  | '0' :: 'b' :: cs => readBased 2 cs
  | cs => signed false cs

/-- Exactly `count` digits. -/
def readDigits (count : Nat) (cs : List Char) : Option (Nat × List Char) :=
  let digits := cs.take count
  if digits.length = count && digits.all Char.isDigit then
    some (Decimal.ofDigits digits, cs.drop count)
  else none

def isLeapYear (year : Nat) : Bool := year % 4 == 0 && (year % 100 != 0 || year % 400 == 0)

def daysIn (year month : Nat) : Nat :=
  if month = 2 then (if isLeapYear year then 29 else 28)
  else if month = 4 ∨ month = 6 ∨ month = 9 ∨ month = 11 then 30
  else 31

/-- `n` with zeros in front, `width` digits at least. -/
def padded (width n : Nat) : List Char :=
  let digits := Nat.toDigits 10 n
  List.replicate (width - digits.length) '0' ++ digits

/-- The rest behind `c`, if it comes first. -/
def expect? (c : Char) : List Char → Option (List Char)
  | d :: rest => if d = c then some rest else none
  | [] => none

/-- A date, as it is written again. -/
def readDate (cs : List Char) : Option (List Char × List Char) := do
  let (year, rest) ← readDigits 4 cs
  let (month, rest) ← readDigits 2 (← expect? '-' rest)
  let (day, rest) ← readDigits 2 (← expect? '-' rest)
  if 1 ≤ month ∧ month ≤ 12 ∧ 1 ≤ day ∧ day ≤ daysIn year month then
    return (padded 4 year ++ '-' :: padded 2 month ++ '-' :: padded 2 day, rest)
  else none

/-- The fraction of a second, as it is written again: nine places at most, no zeros at the end. -/
def readFraction (cs : List Char) : Option (List Char × List Char) :=
  match cs with
  | '.' :: rest =>
    let (digits, rest) := rest.span Char.isDigit
    if digits.isEmpty then none
    else
      let kept := ((digits.take 9).reverse.dropWhile (· = '0')).reverse
      some (if kept.isEmpty then [] else '.' :: kept, rest)
  | rest => some ([], rest)

/-- A time of day, as it is written again. -/
def readTime (cs : List Char) : Option (List Char × List Char) := do
  let (hour, rest) ← readDigits 2 cs
  let (minute, rest) ← readDigits 2 (← expect? ':' rest)
  let (second, rest) ← readDigits 2 (← expect? ':' rest)
  let (fraction, rest) ← readFraction rest
  if hour ≤ 23 ∧ minute ≤ 59 ∧ second ≤ 60 then
    return (padded 2 hour ++ ':' :: padded 2 minute ++ ':' :: padded 2 second ++ fraction, rest)
  else none

/-- The distance from universal time, if one is given, as it is written again. -/
def readOffset (cs : List Char) : Option (List Char × List Char) :=
  let distance (sign : Char) (cs : List Char) : Option (List Char × List Char) := do
    let (hour, rest) ← readDigits 2 cs
    let (minute, rest) ← readDigits 2 (← expect? ':' rest)
    let sign := if hour = 0 ∧ minute = 0 then '+' else sign
    if hour ≤ 23 ∧ minute ≤ 59 then
      return (sign :: padded 2 hour ++ ':' :: padded 2 minute, rest)
    else none
  match cs with
  | 'Z' :: rest | 'z' :: rest => some (['Z'], rest)
  | '+' :: rest => distance '+' rest
  | '-' :: rest => distance '-' rest
  | rest => some ([], rest)

/-- Whether a time follows the letter or blank between a date and a time. -/
def startsTime : List Char → Bool
  | 'T' :: _ | 't' :: _ => true
  | ' ' :: c :: d :: ':' :: _ => c.isDigit && d.isDigit
  | _ => false

/-- A date, a time or both. -/
def readMoment (cs : List Char) : Option (Value × List Char) := do
  match cs with
  | _ :: _ :: ':' :: _ =>
    let (time, rest) ← readTime cs
    return (.moment (String.ofList time), rest)
  | cs =>
    let (date, rest) ← readDate cs
    if startsTime rest then
      let (time, rest) ← readTime (rest.drop 1)
      let (offset, rest) ← readOffset rest
      return (.moment (String.ofList (date ++ 'T' :: time ++ offset)), rest)
    else return (.moment (String.ofList date), rest)

/-- Whether the text starts as dates and times do. -/
def startsMoment : List Char → Bool
  | a :: b :: c :: d :: '-' :: _ => [a, b, c, d].all Char.isDigit
  | a :: b :: ':' :: _ => a.isDigit && b.isDigit
  | _ => false

end TokenGrammar.Toml
