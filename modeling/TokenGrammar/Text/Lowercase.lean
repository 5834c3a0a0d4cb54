import TokenGrammar.Text.Folding
import TokenGrammar.Text.Newer

namespace TokenGrammar.Text.Lowercase

/-- Characters that do not matter to whether a word ends. -/
def caseIgnorable : CharSet :=
  .unionAll [Property.caseIgnorable, Newer.nonspacingMarks, Newer.modifierLetters]

/-- Capital letters, those in title case among them. -/
def capitals : CharSet :=
  .unionAll [Property.uppercase, Category.titlecaseLetterSet, Newer.uppercase]

def cased : CharSet :=
  (CharSet.unionAll [capitals, Property.lowercase, Newer.lowercase]).diff Newer.uncased

/-- Whether a letter with case comes next, over characters that do not matter. -/
def meetsCased (cs : List Char) : Bool :=
  (cs.dropWhile caseIgnorable.contains).head?.any cased.contains

/-- The small letter of a capital. -/
def smallOf (c : Char) : Char :=
  let n := c.toNat
  if !Newer.uppercase.contains c then Char.ofNat (Folding.fold n)
  else Char.ofNat (n + if n < 0x10000 then 1 else 27)

/-- The lower case of `cs`, before which a letter with case stands if `inWord` holds. -/
def lowered (inWord : Bool) : List Char → List Char
  | [] => []
  | c :: cs =>
    let rest := lowered (if caseIgnorable.contains c then inWord else cased.contains c) cs
    if c = 'İ' then 'i' :: '\u0307' :: rest
    else if c = 'Σ' && inWord && !meetsCased cs then 'ς' :: rest
    else (if capitals.contains c then smallOf c else c) :: rest

/-- A capital sigma becomes a final one at the end of a word, and a dotted capital i keeps its dot
as a mark. -/
def ofText (s : String) : String := String.ofList (lowered false s.toList)

end TokenGrammar.Text.Lowercase
