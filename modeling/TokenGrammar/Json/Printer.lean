import TokenGrammar.Json.Basic
import TokenGrammar.Json.Quoted

namespace TokenGrammar.Json

def quoteOnto (s : String) (rest : List Char) : List Char :=
  '"' :: Quoted.encode s.toList rest

def integerText (n : Int) : List Char :=
  match n with
  | .ofNat k => Nat.toDigits 10 k
  | .negSucc k => '-' :: Nat.toDigits 10 (k + 1)

/-- The text of a value that holds no others. -/
def leafText : Json → List Char
  | .null => ['n', 'u', 'l', 'l']
  | .bool true => ['t', 'r', 'u', 'e']
  | .bool false => ['f', 'a', 'l', 's', 'e']
  | .integer n => integerText n
  | .float x => (x.text .document).toList
  | .string s => quoteOnto s []
  | .array _ => ['[', ']']
  | .object _ => ['\x7b', '\x7d']

mutual

def compactOnto (rest : List Char) : Json → List Char
  | .array [] => '[' :: ']' :: rest
  | .array (v :: vs) => '[' :: compactOnto (compactItems rest vs) v
  | .object [] => '\x7b' :: '\x7d' :: rest
  | .object ((k, v) :: ms) =>
    '\x7b' :: quoteOnto k (':' :: compactOnto (compactMembers rest ms) v)
  | v => v.leafText ++ rest

/-- The items after the first, each behind a comma, and the closing bracket. -/
def compactItems (rest : List Char) : List Json → List Char
  | [] => ']' :: rest
  | v :: vs => ',' :: compactOnto (compactItems rest vs) v

def compactMembers (rest : List Char) : List (String × Json) → List Char
  | [] => '\x7d' :: rest
  | (k, v) :: ms => ',' :: quoteOnto k (':' :: compactOnto (compactMembers rest ms) v)

end

/-- Without any blanks. -/
def compact (v : Json) : String := String.ofList (compactOnto [] v)

/-- A new line at nesting level `level`. -/
def breakOnto (level : Nat) (rest : List Char) : List Char :=
  '\n' :: (List.replicate (2 * level) ' ' ++ rest)

mutual

def prettyOnto (level : Nat) (rest : List Char) : Json → List Char
  | .array [] => '[' :: ']' :: rest
  | .array (v :: vs) =>
    '[' :: breakOnto (level + 1) (prettyOnto (level + 1) (prettyItems level rest vs) v)
  | .object [] => '\x7b' :: '\x7d' :: rest
  | .object ((k, v) :: ms) =>
    '\x7b' :: breakOnto (level + 1)
      (quoteOnto k (':' :: ' ' :: prettyOnto (level + 1) (prettyMembers level rest ms) v))
  | v => v.leafText ++ rest

/-- The items after the first, each behind a comma, and the closing bracket. -/
def prettyItems (level : Nat) (rest : List Char) : List Json → List Char
  | [] => breakOnto level (']' :: rest)
  | v :: vs =>
    ',' :: breakOnto (level + 1) (prettyOnto (level + 1) (prettyItems level rest vs) v)

def prettyMembers (level : Nat) (rest : List Char) : List (String × Json) → List Char
  | [] => breakOnto level ('\x7d' :: rest)
  | (k, v) :: ms =>
    ',' :: breakOnto (level + 1)
      (quoteOnto k (':' :: ' ' :: prettyOnto (level + 1) (prettyMembers level rest ms) v))

end

/-- Indented by two spaces a level, with every item and member on its own line, and empty arrays and
objects as `[]` and `{}`. -/
def pretty (v : Json) : String := String.ofList (prettyOnto 0 [] v)

end TokenGrammar.Json
