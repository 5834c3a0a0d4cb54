namespace TokenGrammar.Toml

def isBlank (c : Char) : Bool := c == ' ' || c == '\t'

def skipBlanks (cs : List Char) : List Char := cs.dropWhile isBlank

/-- Characters that comments and strings may hold as they are. -/
def isPlain (c : Char) : Bool := c == '\t' || (' ' ≤ c && c != '\x7f')

/-- The rest behind a line end, if one comes first. -/
def newline? : List Char → Option (List Char)
  | '\n' :: rest | '\r' :: '\n' :: rest => some rest
  | _ => none

/-- The rest behind a comment, if one comes first. -/
def skipComment (cs : List Char) : List Char :=
  match cs with
  | '#' :: rest => rest.dropWhile isPlain
  | cs => cs

/-- The rest behind what may stand at the end of a line; `none` if something else stands there. -/
def endLine? (cs : List Char) : Option (List Char) :=
  match skipComment (skipBlanks cs) with
  | [] => some []
  | rest => newline? rest

/-- The rest behind blanks, comments and line ends; at most `fuel` lines. -/
def skipGaps : Nat → List Char → List Char
  | 0, cs => cs
  | fuel + 1, cs =>
    let rest := skipComment (skipBlanks cs)
    match newline? rest with
    | some rest => skipGaps fuel rest
    | none => rest

def hexValue? (c : Char) : Option Nat :=
  if c.isDigit then some (c.toNat - '0'.toNat)
  else if 'a' ≤ c ∧ c ≤ 'f' then some (c.toNat - 'a'.toNat + 10)
  else if 'A' ≤ c ∧ c ≤ 'F' then some (c.toNat - 'A'.toNat + 10)
  else none

/-- The character whose code point the next `count` hexadecimal digits write. -/
def codePoint? (count : Nat) (cs : List Char) : Option (Char × List Char) := do
  let digits ← (cs.take count).mapM hexValue?
  if digits.length ≠ count then none
  let n := digits.foldl (fun n d => 16 * n + d) 0
  if n.isValidChar then return (Char.ofNat n, cs.drop count) else none

/-- The character that an escape stands for; its backslash is read. -/
def escaped? : List Char → Option (Char × List Char)
  | 'b' :: rest => some ('\x08', rest)
  | 't' :: rest => some ('\t', rest)
  | 'n' :: rest => some ('\n', rest)
  | 'f' :: rest => some ('\x0c', rest)
  | 'r' :: rest => some ('\r', rest)
  | '"' :: rest => some ('"', rest)
  | '\\' :: rest => some ('\\', rest)
  | 'u' :: rest => codePoint? 4 rest
  | 'U' :: rest => codePoint? 8 rest
  | _ => none

/-- A text of one line up to `quote`, with escapes if `escapes` holds. -/
def lineText (quote : Char) (escapes : Bool) : Nat → List Char → Option (List Char × List Char)
  | 0, _ | _, [] => none
  | fuel + 1, c :: rest =>
    if c = quote then some ([], rest)
    else if escapes && c = '\\' then do
      let (c, rest) ← escaped? rest
      let (cs, rest) ← lineText quote escapes fuel rest
      return (c :: cs, rest)
    else if isPlain c then do
      let (cs, rest) ← lineText quote escapes fuel rest
      return (c :: cs, rest)
    else none

/-- The rest behind blanks and line ends; at most `fuel` lines. -/
def skipLines : Nat → List Char → List Char
  | 0, cs => cs
  | fuel + 1, cs =>
    let rest := skipBlanks cs
    match newline? rest with
    | some rest => skipLines fuel rest
    | none => rest

/-- The rest behind a backslash that ends its line, and all blanks and line ends after it. -/
def joinedLine? (cs : List Char) : Option (List Char) :=
  (newline? (skipBlanks cs)).map fun rest => skipLines (rest.length + 1) rest

/-- A text of several lines up to three of `quote`. One or two more belong to the text. -/
def blockText (quote : Char) (escapes : Bool) : Nat → List Char → Option (List Char × List Char)
  | 0, _ | _, [] => none
  | fuel + 1, c :: rest =>
    if [quote, quote, quote].isPrefixOf (c :: rest) then
      let after := rest.drop 2
      let more := min 2 (after.takeWhile (· = quote)).length
      some (List.replicate more quote, after.drop more)
    else if escapes && c = '\\' then
      match joinedLine? rest with
      | some rest => blockText quote escapes fuel rest
      | none => do
        let (c, rest) ← escaped? rest
        let (cs, rest) ← blockText quote escapes fuel rest
        return (c :: cs, rest)
    else match newline? (c :: rest) with
      | some rest => do
        let (cs, rest) ← blockText quote escapes fuel rest
        return ('\n' :: cs, rest)
      | none =>
        if isPlain c then do
          let (cs, rest) ← blockText quote escapes fuel rest
          return (c :: cs, rest)
        else none

/-- A string of any of the four kinds. A line end right behind the opening of a block is not part
of it. -/
def readString (cs : List Char) : Option (String × List Char) := do
  let (text, rest) ← match cs with
    | '"' :: '"' :: '"' :: rest => blockText '"' true (rest.length + 1) ((newline? rest).getD rest)
    | '\x27' :: '\x27' :: '\x27' :: rest =>
      blockText '\x27' false (rest.length + 1) ((newline? rest).getD rest)
    | '"' :: rest => lineText '"' true (rest.length + 1) rest
    | '\x27' :: rest => lineText '\x27' false (rest.length + 1) rest
    | _ => none
  return (String.ofList text, rest)

def isKeyChar (c : Char) : Bool := c.isAlphanum || c == '_' || c == '-'

/-- One part of a key, bare or in quotes. -/
def readKeyPart (cs : List Char) : Option (String × List Char) := do
  let (text, rest) ← match cs with
    | '"' :: rest => lineText '"' true (rest.length + 1) rest
    | '\x27' :: rest => lineText '\x27' false (rest.length + 1) rest
    | cs =>
      let (name, rest) := cs.span isKeyChar
      if name.isEmpty then none else some (name, rest)
  return (String.ofList text, rest)

/-- The parts of a key, with points between them, up to `limit` of them, and the rest behind the
blanks that follow. -/
def readKey : (limit : Nat) → List Char → Option (List String × List Char)
  | 0, _ => none
  | limit + 1, cs => do
    let (part, rest) ← readKeyPart (skipBlanks cs)
    match skipBlanks rest with
    | '.' :: rest =>
      let (parts, rest) ← readKey limit rest
      return (part :: parts, rest)
    | rest => return ([part], rest)

end TokenGrammar.Toml
