import TokenGrammar.Pattern.Lead

namespace TokenGrammar.Pattern

namespace Lead

/-- Characters that are frequent in texts. -/
def frequent : List Char := "\n\r (),-./0129:_abcdefghilmnoprstuvxy|".toList

/-- Characters that are nearly everywhere in texts. -/
def everywhere : List Char := [' ', 'e', 't']

def isRare (b : UInt8) : Bool := b < 128 && !frequent.contains (Char.ofNat b.toNat)

/-- Whether a word is found too often for a search to be of use. -/
def isVague (w : Lead) : Bool :=
  match w.bytes with
  | [] => true
  | [b] => 128 ≤ b || everywhere.contains (Char.ofNat b.toNat)
  | _ => false

/-- Words without those that begin with one of `kept` or with an earlier word. -/
def minimal (kept : List (List UInt8)) : List Lead → List Lead
  | [] => []
  | w :: ws =>
    if kept.any (·.isPrefixOf w.bytes) then minimal kept ws else w :: minimal (w.bytes :: kept) ws

def commonStart : List UInt8 → List UInt8 → List UInt8
  | b :: bs, c :: cs => if b = c then b :: commonStart bs cs else []
  | _, _ => []

/-- What all words start with. -/
def shared : List Lead → List UInt8
  | [] => []
  | w :: ws => ws.foldl (fun bs v => commonStart bs v.bytes) w.bytes

/-- How many bytes are kept of words that are more than so many. -/
def lengths : List (Nat × Nat) := [(5, 10), (4, 10), (3, 64), (2, 64), (1, 10)]

/-- Words cut shorter and shorter until they are few enough. -/
def shortened : List (Nat × Nat) → List Lead → List Lead
  | [], ws => ws
  | (length, enough) :: ls, ws =>
    if ws.length ≤ enough then ws else shortened ls (minimal [] (ws.map (cut length)))

/-- The words to look for; none if a search is of no use. Whole words are only given up for words
that are few and not short. -/
def toLookFor (ws : List Lead) : Leads :=
  if ws.any (·.bytes.isEmpty) then none
  else
    let count := ws.length
    let ws := minimal [] ws
    let start := shared ws
    if 1 < count ∧ 1 ≤ start.length ∧ start.length ≤ 3 ∧ start.head?.any isRare then
      some (joinEqual (ws.map (cut 1)))
    else
      let quick := ws.all (·.whole) && ws.length ≤ 16
      let ws := if 4 < start.length ∨ (1 < start.length ∧ !quick) then
        joinEqual (ws.map (cut start.length)) else ws
      let short := shortened lengths ws
      if ws.all (·.whole) && (short.any isVague || short.any (·.bytes.length ≤ 2) ||
        64 < short.length) then some ws
      else if short.any isVague then none
      else some short

end Lead

/-- The number of words from which on a choice of words is searched for as it is. -/
def manyWords : Nat := 3000

/-- Whether an expression is a choice of many words. -/
def isManyWords : Regex Piece → Bool
  | .alternation rs => manyWords ≤ rs.length && rs.all fun
    | .leaf (.literal _) => true
    | _ => false
  | _ => false

/-- Whether the words that matches begin with are all there is to an expression. -/
def isFewWords (r : Regex Piece) : Bool :=
  match (Leads.ofRegex r).bind fun ws => Lead.toLookFor (Lead.joinEqual ws) with
  | some ws => !ws.isEmpty && ws.all (·.whole)
  | none => false

/-- Whether a search for words finds an expression: it captures nothing, looks at nothing around
its matches, and words are all there is to it. -/
def isWordSearch (r : Regex Piece) : Bool :=
  r.isPlain (fun p => !p.isLook) && (isFewWords r || isManyWords r)

end TokenGrammar.Pattern
