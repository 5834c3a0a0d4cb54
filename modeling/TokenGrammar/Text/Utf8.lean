namespace TokenGrammar.Text.Utf8

/-- An inclusive range. -/
abbrev Range := Nat × Nat

/-- The numbers from `first` to `last` as a union of boxes, each a range of digits by place, with
`count` digits to the base 64 behind one that has no bound. -/
def boxes : Nat → Nat → Nat → List (List Range)
  | 0, first, last => [[(first, last)]]
  | count + 1, first, last =>
    let unit := Nat.pow 64 (count + 1)
    let (a, x) := (first / unit, first % unit)
    let (b, y) := (last / unit, last % unit)
    if a = b then (boxes count x y).map ((a, a) :: ·)
    else
      let low := if x = 0 then [] else (boxes count x (unit - 1)).map ((a, a) :: ·)
      let high := if y = unit - 1 then [] else (boxes count 0 y).map ((b, b) :: ·)
      let lo := if x = 0 then a else a + 1
      let hi := if y = unit - 1 then b else b - 1
      let middle := if lo ≤ hi then [(lo, hi) :: List.replicate (count + 1) (0, 63)] else []
      low ++ middle ++ high

/-- The characters whose form has the same length. -/
structure Form where
  first : Nat
  last : Nat
  /-- How many digits come behind the first. -/
  digits : Nat
  /-- What the first byte is above the first digit. -/
  mark : Nat

def forms : List Form :=
  [⟨0, 0x7F, 0, 0⟩, ⟨0x80, 0x7FF, 1, 0xC0⟩, ⟨0x800, 0xFFFF, 2, 0xE0⟩, ⟨0x10000, 0x10FFFF, 3, 0xF0⟩]

/-- The bytes of a box of digits. -/
def Form.bytes (form : Form) : List Range → List Range
  | [] => []
  | (lo, hi) :: rest =>
    (lo + form.mark, hi + form.mark) :: rest.map fun (lo, hi) => (lo + 0x80, hi + 0x80)

/-- The boxes of bytes that the characters from `first` to `last` are, in order. -/
def sequences (first last : Nat) : List (List Range) :=
  forms.flatMap fun form =>
    let first := max first form.first
    let last := min last form.last
    if first ≤ last then (boxes form.digits first last).map form.bytes else []

/-- How many bytes a character is. -/
def size (c : Char) : Nat :=
  if c.toNat < 0x80 then 1 else if c.toNat < 0x800 then 2 else if c.toNat < 0x10000 then 3 else 4

end TokenGrammar.Text.Utf8
