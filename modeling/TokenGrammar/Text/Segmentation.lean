import TokenGrammar.Text.Property
import TokenGrammar.Text.Script

/-!
Classes of characters by their part in dividing text: into characters as a reader sees them, into
words and into sentences. A character that is in none of the classes divides text on either side.
-/

namespace TokenGrammar.Text.Segmentation

/-- Classes under their loose names. -/
abbrev Classes := List (List String × CharSet)

def find? (classes : Classes) (name : String) : Option CharSet :=
  (classes.find? fun (names, _) => names.contains name).map (·.2)

open Category Property

def carriageReturn : CharSet := .singleton '\r'

def lineFeed : CharSet := .singleton '\n'

def zeroWidthJoiner : CharSet := .singleton '\u200D'

/-! ### Characters as a reader sees them -/

/-- Consonants that stand before the syllable that they end or begin. -/
def prependedConsonants : CharSet := .ofLines [
  "D4E 111C2-111C3 113D1 1193F 11941 11A3A 11A84-11A89 11D46 11F02"]

def controls : CharSet :=
  ((charsOf [.lineSeparator, .paragraphSeparator, .control, .format]).union
    (unassignedSet.inter defaultIgnorable)).diff <|
    .unionAll [carriageReturn, lineFeed, joinControl, prependedConcatenationMark, graphemeExtend]

/-- Spacing vowel signs that a reader sees as characters of their own. -/
def ownSigns : CharSet := .ofLines [
  "102B-102C 1038 1062-1064 1067-106D 1083 1087-108C 108F 109A-109C 1A61 1A63-1A64 AA7B AA7D",
  "11720-11721"]

def spacingSigns : CharSet :=
  (spacingMarkSet.union (.ofLines ["E33 EB3"])).diff (graphemeExtend.union ownSigns)

/-- Syllables of two letters; each begins the block of those with the same two. -/
def openSyllables : CharSet :=
  .ofRanges ((List.range 399).map fun i => (0xAC00 + 28 * i, 0xAC00 + 28 * i))

def syllables : CharSet := .ofLines ["AC00-D7A3"]

def graphemeClasses : Classes := [
  (["cn", "control"], controls), (["cr"], carriageReturn), (["lf"], lineFeed),
  (["ex", "extend"], graphemeExtend.union emojiModifier),
  (["pp", "prepend"], prependedConcatenationMark.union prependedConsonants),
  (["sm", "spacingmark"], spacingSigns), (["l"], .ofLines ["1100-115F A960-A97C"]),
  (["v"], .ofLines ["1160-11A7 D7B0-D7C6 16D63 16D67-16D6A"]),
  (["t"], .ofLines ["11A8-11FF D7CB-D7FB"]), (["lv"], openSyllables),
  (["lvt"], syllables.diff openSyllables), (["ri", "regionalindicator"], regionalIndicator),
  (["zwj"], zeroWidthJoiner)]

/-! ### Words -/

/-- Marks that announce a number. -/
def numberSigns : CharSet := .ofLines ["600-605 6DD 890-891 8E2 110BD 110CD"]

def sentenceNumeric : CharSet :=
  .unionAll [decimalNumberSet, .ofLines ["66B-66C 19DA"], numberSigns]

def wordNumeric : CharSet := sentenceNumeric.diff (.ofLines ["66C"])

def wordExtend : CharSet :=
  (CharSet.unionAll [graphemeExtend, spacingMarkSet, emojiModifier]).diff zeroWidthJoiner

def katakana : CharSet :=
  ((Script.find? "katakana").getD .empty).union (.ofLines ["3031-3035 309B-309C 30A0 30FC FF70"])

def hebrewLetters : CharSet := ((Script.find? "hebrew").getD .empty).inter otherLetterSet

/-- Letters of scripts that write no blanks between words. -/
def unspaced : CharSet := .ofLines [
  "E01-E3A E40-E4E E81-E82 E84 E86-E8A E8C-EA3 EA5 EA7-EBD EC0-EC4 EC6 EC8-ECE EDC-EDF",
  "1000-103F 1050-108F 109A-109F 1780-17D3 17D7 17DC-17DD 1950-196D 1970-1974 1980-19AB",
  "19B0-19C9 19DA 19DE-19DF 1A20-1A5E 1A60-1A7C 1AA0-1AAD A9E0-A9EF A9FA-A9FE AA60-AAC2",
  "AADB-AADF 11700-1171A 1171D-1172B 1173A-1173B 1173F-11746"]

/-- Signs within words that are no letters. -/
def letterLike : CharSet := .ofLines [
  "2C2-2C5 2D2-2D7 2DE-2DF 2E5-2EB 2ED 2EF-2FF 55A-55C 55E 58A 5F3 70F A708-A716 A720-A721",
  "A789-A78A AB5B"]

def wordLetters : CharSet :=
  (alphabetic.union letterLike).diff <| .unionAll [ideographic, katakana, unspaced,
    (Script.find? "hiragana").getD .empty, wordExtend, hebrewLetters]

def wordClasses : Classes := [
  (["cr"], carriageReturn), (["lf"], lineFeed),
  (["nl", "newline"], .ofLines ["B-C 85 2028-2029"]), (["dq", "doublequote"], .singleton '"'),
  (["sq", "singlequote"], .singleton '\''),
  (["ex", "extendnumlet"], connectorPunctuationSet.union (.ofLines ["202F"])),
  (["extend"], wordExtend),
  (["fo", "format"], formatSet.diff <|
    .unionAll [.ofLines ["70F 200B"], joinControl, graphemeExtend, wordNumeric]),
  (["hl", "hebrewletter"], hebrewLetters), (["ka", "katakana"], katakana),
  (["le", "aletter"], wordLetters),
  (["mb", "midnumlet"], .ofLines ["2E 2018-2019 2024 FE52 FF07 FF0E"]),
  (["ml", "midletter"], .ofLines ["3A B7 387 55F 5F4 2027 FE13 FE55 FF1A"]),
  (["mn", "midnum"], .ofLines ["2C 3B 37E 589 60C-60D 66C 7F8 2044 FE50 FE54 FF0C FF1B"]),
  (["nu", "numeric"], wordNumeric), (["ri", "regionalindicator"], regionalIndicator),
  (["wsegspace"], spaceSeparatorSet.diff (.ofLines ["A0 2007 202F"])),
  (["zwj"], zeroWidthJoiner)]

/-! ### Sentences -/

def sentenceExtend : CharSet := .unionAll [graphemeExtend, spacingMarkSet, zeroWidthJoiner]

/-- Small letters whose capitals do not begin sentences, and those capitals. -/
def flatCaseSmall : CharSet := .ofLines ["10D0-10FA 10FD-10FF"]

def flatCaseCapital : CharSet := .ofLines ["1C90-1CBA 1CBD-1CBF"]

def sentenceLower : CharSet := lowercase.diff (graphemeExtend.union flatCaseSmall)

def sentenceUpper : CharSet := (titlecaseLetterSet.union uppercase).diff flatCaseCapital

def fullStops : CharSet := .ofLines ["2E 2024 FE52 FF0E"]

def sentenceEnds : CharSet := sentenceTerminal.diff fullStops

def separators : CharSet := .ofLines ["85 2028-2029"]

def closing : CharSet :=
  (CharSet.unionAll [charsOf [.openPunctuation, .closePunctuation, .initialPunctuation,
    .finalPunctuation], quotationMark,
    .ofLines ["275B-2760 2E00-2E01 2E06-2E08 2E0B 1F676-1F678"]]).diff <|
    .unionAll [fullStops, sentenceEnds, .ofLines ["FF02 FF07"]]

def sentenceClasses : Classes := [
  (["at", "aterm"], fullStops), (["cl", "close"], closing), (["cr"], carriageReturn),
  (["ex", "extend"], sentenceExtend),
  (["fo", "format"], formatSet.diff (.unionAll [joinControl, graphemeExtend, sentenceNumeric])),
  (["le", "oletter"], (alphabetic.union (.ofLines ["5F3"])).diff <|
    .unionAll [sentenceLower, sentenceUpper, sentenceExtend]),
  (["lf"], lineFeed), (["lo", "lower"], sentenceLower), (["nu", "numeric"], sentenceNumeric),
  (["sc", "scontinue"], .ofLines ["2C-2D 3A-3B 37E 55D 60C-60D 7F8 1802 1808 2013-2014 3001",
    "FE10-FE11 FE13-FE14 FE31-FE32 FE50-FE51 FE54-FE55 FE58 FE63 FF0C-FF0D FF1A-FF1B FF64"]),
  (["se", "sep"], separators),
  (["sp"], whiteSpace.diff (.unionAll [separators, carriageReturn, lineFeed])),
  (["st", "sterm"], sentenceEnds), (["up", "upper"], sentenceUpper)]

end TokenGrammar.Text.Segmentation
