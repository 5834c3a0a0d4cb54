import TokenGrammar.Toml.Moment
import TokenGrammar.Toml.Tree

namespace TokenGrammar.Toml

/-- Arrays and tables in a value, and the parts of a key, stay below this depth. -/
def depthLimit : Nat := 80

mutual

/-- A value, which nests at most `depth` deep. Each step of `fuel` takes a character. -/
def readValue (depth : Nat) : (fuel : Nat) → List Char → Option (Value × List Char)
  | 0, _ => none
  | fuel + 1, cs =>
    match cs with
    | '"' :: _ | '\x27' :: _ => (readString cs).map fun (s, rest) => (.string s, rest)
    | 't' :: 'r' :: 'u' :: 'e' :: rest => some (.bool true, rest)
    | 'f' :: 'a' :: 'l' :: 's' :: 'e' :: rest => some (.bool false, rest)
    | '[' :: rest =>
      if depth = 0 then none
      else (readItems (depth - 1) fuel rest).map fun (vs, rest) => (.array vs, rest)
    | '\x7b' :: rest =>
      if depth = 0 then none
      else match skipBlanks rest with
        | '\x7d' :: rest => some (.table [], rest)
        | rest => (readPairs (depth - 1) fuel [] rest).map
          fun (entries, rest) => (.table (Entries.values entries), rest)
    | cs => if startsMoment cs then readMoment cs else readNumber cs

/-- The items up to the closing bracket, with gaps between them. -/
def readItems (depth : Nat) : (fuel : Nat) → List Char → Option (List Value × List Char)
  | 0, _ => none
  | fuel + 1, cs =>
    match skipGaps (cs.length + 1) cs with
    | ']' :: rest => some ([], rest)
    | cs => do
      let (v, rest) ← readValue depth fuel cs
      match skipGaps (rest.length + 1) rest with
      | ',' :: rest =>
        let (vs, rest) ← readItems depth fuel rest
        return (v :: vs, rest)
      | ']' :: rest => return ([v], rest)
      | _ => none

/-- The pairs of an inline table up to the closing brace, all on one line. -/
def readPairs (depth : Nat) : (fuel : Nat) → Entries → List Char → Option (Entries × List Char)
  | 0, _, _ => none
  | fuel + 1, entries, cs => do
    let (path, rest) ← readKey (depthLimit - 1) cs
    let rest ← expect? '=' rest
    let (v, rest) ← readValue depth fuel (skipBlanks rest)
    let entries ← entries.insert path v
    match skipBlanks rest with
    | ',' :: rest => readPairs depth fuel entries rest
    | '\x7d' :: rest => return (entries, rest)
    | _ => none

end

/-- The tables so far and the path of the last header. -/
structure Draft where
  entries : Entries
  section_ : List String

/-- One line of a document. -/
def readLine (draft : Draft) (cs : List Char) : Option (Draft × List Char) :=
  match skipBlanks cs with
  | '[' :: '[' :: rest => do
    let (path, rest) ← readKey (depthLimit - 1) rest
    let rest ← expect? ']' (← expect? ']' rest)
    let entries ← draft.entries.extend path
    return (⟨entries, path⟩, ← endLine? rest)
  | '[' :: rest => do
    let (path, rest) ← readKey (depthLimit - 1) rest
    let rest ← expect? ']' rest
    let entries ← draft.entries.declare path
    return (⟨entries, path⟩, ← endLine? rest)
  | rest =>
    match endLine? rest with
    | some rest => some (draft, rest)
    | none => do
      let (path, rest) ← readKey (depthLimit - 1) rest
      let rest ← expect? '=' rest
      let (v, rest) ← readValue (depthLimit - 1) (2 * rest.length + 1) (skipBlanks rest)
      let entries ← draft.entries.insertUnder draft.section_ path v
      return ({ draft with entries }, ← endLine? rest)

/-- All lines; every line is at least one character long, or the last. -/
def readLines : (fuel : Nat) → Draft → List Char → Option Draft
  | _, draft, [] => some draft
  | 0, _, _ => none
  | fuel + 1, draft, cs => do
    let (draft, rest) ← readLine draft cs
    readLines fuel draft rest

/-- The entries of a document's root table. A byte order mark in front is skipped. -/
def ofChars? (cs : List Char) : Option (List (String × Value)) := do
  let cs := match cs with
    | '\uFEFF' :: cs => cs
    | cs => cs
  let draft ← readLines (cs.length + 1) ⟨[], []⟩ cs
  match ← (Value.table (Entries.values draft.entries)).settled? with
  | .table entries => return entries
  | _ => none

/-- The entries of a document, which is refused as a whole if one of its lines is malformed or
defines something twice. -/
def ofText? (text : String) : Option (List (String × Value)) := ofChars? text.toList

end TokenGrammar.Toml
