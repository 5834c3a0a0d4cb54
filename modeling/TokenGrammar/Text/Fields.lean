namespace TokenGrammar.Text

/-- The parts of `cs` between separators; never empty. -/
def fields (separator : Char) : List Char → List (List Char)
  | [] => [[]]
  | c :: cs =>
    if c = separator then [] :: fields separator cs
    else match fields separator cs with
      | [] => [[c]]
      | part :: parts => (c :: part) :: parts

/-- A line without the carriage return that belongs to its end. -/
def bareLine (cs : List Char) : List Char :=
  if cs.getLast? = some '\r' then cs.dropLast else cs

/-- The lines of a text; a newline ends a line, and no empty line follows the last one. -/
def lines (cs : List Char) : List (List Char) :=
  let parts := fields '\n' cs
  let last := parts.getLast?.getD []
  parts.dropLast.map bareLine ++ (if last.isEmpty then [] else [last])

end TokenGrammar.Text
