import TokenGrammar.Text.Newer

namespace TokenGrammar.Text

/-- Marks that join the character before them. Two such letters show well on their own. -/
def joiningMarks : CharSet := Property.graphemeExtend.diff (Category.charsOf [.modifierLetter])

/-- Characters without a shape of their own: controls, blanks but the space, fillers, marks on
other characters, private and unassigned code points. -/
def hidden : CharSet :=
  (CharSet.unionAll [Category.charsOf [.control, .format, .privateUse, .unassigned,
    .lineSeparator, .paragraphSeparator, .spaceSeparator], Property.defaultIgnorable,
    joiningMarks]).diff (.unionAll [.singleton ' ', Newer.shown])

/-- The escape that writes `c`, if `c` does not stand for itself between quotes. -/
def escape? (c : Char) : Option String :=
  if c = '"' then some "\\\""
  else if c = '\\' then some "\\\\"
  else if c = '\n' then some "\\n"
  else if c = '\r' then some "\\r"
  else if c = '\t' then some "\\t"
  else if c = '\x00' then some "\\0"
  else if hidden.contains c then
    some ("\\u\x7b" ++ String.ofList (Nat.toDigits 16 c.toNat) ++ "\x7d")
  else none

/-- The written form of one character. -/
def written (c : Char) : List Char :=
  match escape? c with
  | some text => text.toList
  | none => [c]

/-- Text in double quotes, as it stands in messages and structural texts. -/
def quoted (s : String) : String :=
  String.ofList ('"' :: s.toList.flatMap written ++ ['"'])

end TokenGrammar.Text
