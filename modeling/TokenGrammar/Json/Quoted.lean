namespace TokenGrammar.Json.Quoted

def hexDigit (n : Nat) : Char := if n < 10 then Char.ofNat (48 + n) else Char.ofNat (87 + n)

def hexValue? (c : Char) : Option Nat :=
  if '0' ≤ c ∧ c ≤ '9' then some (c.toNat - 48)
  else if 'a' ≤ c ∧ c ≤ 'f' then some (c.toNat - 87)
  else if 'A' ≤ c ∧ c ≤ 'F' then some (c.toNat - 55)
  else none

/-- The written form of one character. -/
def escape (c : Char) : List Char :=
  if c = '"' then ['\\', '"']
  else if c = '\\' then ['\\', '\\']
  else if c = '\x08' then ['\\', 'b']
  else if c = '\x0c' then ['\\', 'f']
  else if c = '\n' then ['\\', 'n']
  else if c = '\r' then ['\\', 'r']
  else if c = '\t' then ['\\', 't']
  else if c < ' ' then ['\\', 'u', '0', '0', hexDigit (c.toNat / 16), hexDigit (c.toNat % 16)]
  else [c]

/-- The written text, its closing quote, then `rest`. -/
def encode (text rest : List Char) : List Char :=
  match text with
  | [] => '"' :: rest
  | c :: cs => escape c ++ encode cs rest

/-- The number that four hexadecimal digits write. -/
def unit? (a b c d : Char) : Option Nat := do
  return 4096 * (← hexValue? a) + 256 * (← hexValue? b) + 16 * (← hexValue? c) + (← hexValue? d)

/-- The character that stands for itself after a backslash, or is named by the letter. -/
def simple? (c : Char) : Option Char :=
  if c = '"' ∨ c = '\\' ∨ c = '/' then some c
  else if c = 'b' then some '\x08'
  else if c = 'f' then some '\x0c'
  else if c = 'n' then some '\n'
  else if c = 'r' then some '\r'
  else if c = 't' then some '\t'
  else none

/-- The character of a surrogate pair. -/
def paired (high low : Nat) : Char :=
  Char.ofNat (0x10000 + (high - 0xD800) * 0x400 + (low - 0xDC00))

/-- The text up to the closing quote, and what follows it. -/
def decode : List Char → Option (List Char × List Char)
  | [] => none
  | '"' :: rest => some ([], rest)
  | '\\' :: 'u' :: a :: b :: c :: d :: rest =>
    match unit? a b c d with
    | none => none
    | some n =>
      if 0xDC00 ≤ n ∧ n ≤ 0xDFFF then none
      else if 0xD800 ≤ n ∧ n ≤ 0xDBFF then
        match rest with
        | '\\' :: 'u' :: a' :: b' :: c' :: d' :: rest =>
          match unit? a' b' c' d' with
          | none => none
          | some m =>
            if 0xDC00 ≤ m ∧ m ≤ 0xDFFF then
              (decode rest).map fun (cs, after) => (paired n m :: cs, after)
            else none
        | _ => none
      else (decode rest).map fun (cs, after) => (Char.ofNat n :: cs, after)
  | '\\' :: c :: rest =>
    match simple? c with
    | none => none
    | some e => (decode rest).map fun (cs, after) => (e :: cs, after)
  | c :: rest =>
    if c < ' ' ∨ c = '\\' then none
    else (decode rest).map fun (cs, after) => (c :: cs, after)

theorem unit_hexDigit (n : Nat) (h : n < 32) :
    unit? '0' '0' (hexDigit (n / 16)) (hexDigit (n % 16)) = some n := by
  have all : ∀ n < 32, unit? '0' '0' (hexDigit (n / 16)) (hexDigit (n % 16)) = some n := by decide
  exact all n h

theorem decode_escape (c : Char) (rest : List Char) :
    decode (escape c ++ rest) = (decode rest).map fun (cs, after) => (c :: cs, after) := by
  unfold escape
  split
  · next h => subst h; simp [decode, simple?]
  split
  · next h => subst h; simp [decode, simple?]
  split
  · next h => subst h; simp [decode, simple?]
  split
  · next h => subst h; simp [decode, simple?]
  split
  · next h => subst h; simp [decode, simple?]
  split
  · next h => subst h; simp [decode, simple?]
  split
  · next h => subst h; simp [decode, simple?]
  split
  · next h =>
    have small : c.toNat < 32 := h
    simp only [List.cons_append, List.nil_append, decode, unit_hexDigit c.toNat small]
    rw [if_neg (by omega), if_neg (by omega), Char.ofNat_toNat]
  · next hq hs _ _ _ _ _ hc => simp [decode, hs, hc]

theorem decode_encode (text rest : List Char) :
    decode (encode text rest) = some (text, rest) := by
  induction text with
  | nil => simp [encode, decode]
  | cons c cs ih => rw [encode, decode_escape, ih]; rfl

end TokenGrammar.Json.Quoted
