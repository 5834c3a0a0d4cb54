import TokenGrammar.Number.Binary64

namespace TokenGrammar.Binary64

/-- The number nearest to the fraction `num / den`, which may be zero. -/
def nearest (negative : Bool) (num den : Nat) : Binary64 :=
  if num = 0 then .finite negative 0 leastExponent else ofFraction negative num den

def ofNat (n : Nat) : Binary64 := nearest false n 1

def neg : Binary64 → Binary64
  | .finite negative m e => .finite (!negative) m e
  | .infinite negative => .infinite (!negative)
  | .nan => .nan

/-- Zero times an infinity is no number. -/
def mul : Binary64 → Binary64 → Binary64
  | .finite s m e, .finite t n f =>
    let (num, den) := scaled (m * n) 2 (e + f)
    nearest (s != t) num den
  | .finite s m _, .infinite t | .infinite t, .finite s m _ =>
    if m = 0 then .nan else .infinite (s != t)
  | .infinite s, .infinite t => .infinite (s != t)
  | .nan, _ | _, .nan => .nan

/-- Only zero divided by zero and an infinity by an infinity are no numbers. -/
def div : Binary64 → Binary64 → Binary64
  | .finite s m e, .finite t n f =>
    if n = 0 then if m = 0 then .nan else .infinite (s != t)
    else
      let (num, den) := scaled m 2 (e - f)
      nearest (s != t) num (den * n)
  | .finite s _ _, .infinite t => .finite (s != t) 0 leastExponent
  | .infinite s, .finite t _ _ => .infinite (s != t)
  | .infinite _, .infinite _ => .nan
  | .nan, _ | _, .nan => .nan

end TokenGrammar.Binary64
