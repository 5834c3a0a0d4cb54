import TokenGrammar.Text.Age
import TokenGrammar.Text.Segmentation

namespace TokenGrammar.Text.PropertyName

/-- What a name lacks. -/
inductive Missing where
  /-- There is no such property, or it is no set of characters. -/
  | property
  /-- There is the property, but no character has that value. -/
  | value
deriving DecidableEq

/-- The ASCII characters of a name in lower case, without separators. -/
def bare (cs : List Char) : List Char :=
  (cs.filter fun c => c.toNat < 128 && c ≠ ' ' && c ≠ '_' && c ≠ '-').map Char.toLower

/-- The loose form of a name, without case, blanks, hyphens, underscores and a leading `is`. The
abbreviation of one property would be another's without its first letters. -/
def loose (name : String) : String :=
  match name.toList with
  | i :: s :: cs =>
    if i.toLower = 'i' ∧ s.toLower = 's' then
      String.ofList (if bare cs = ['c'] then ['i', 's', 'c'] else bare cs)
    else String.ofList (bare (i :: s :: cs))
  | cs => String.ofList (bare cs)

/-- What stands beside `name` in a table of loose names. -/
def lookup {α : Type} (name : String) (table : List (List String × α)) : Option α :=
  (table.find? fun (names, _) => names.contains name).map (·.2)

/-! ### General categories -/

def categories : List (List String × List Category) := [
  (["lu", "uppercaseletter"], [.uppercaseLetter]),
  (["ll", "lowercaseletter"], [.lowercaseLetter]),
  (["lt", "titlecaseletter"], [.titlecaseLetter]), (["lm", "modifierletter"], [.modifierLetter]),
  (["lo", "otherletter"], [.otherLetter]), (["mn", "nonspacingmark"], [.nonspacingMark]),
  (["mc", "spacingmark"], [.spacingMark]), (["me", "enclosingmark"], [.enclosingMark]),
  (["nd", "decimalnumber", "digit"], [.decimalNumber]), (["nl", "letternumber"], [.letterNumber]),
  (["no", "othernumber"], [.otherNumber]),
  (["pc", "connectorpunctuation"], [.connectorPunctuation]),
  (["pd", "dashpunctuation"], [.dashPunctuation]),
  (["ps", "openpunctuation"], [.openPunctuation]),
  (["pe", "closepunctuation"], [.closePunctuation]),
  (["pi", "initialpunctuation"], [.initialPunctuation]),
  (["pf", "finalpunctuation"], [.finalPunctuation]),
  (["po", "otherpunctuation"], [.otherPunctuation]), (["sm", "mathsymbol"], [.mathSymbol]),
  (["sc", "currencysymbol"], [.currencySymbol]), (["sk", "modifiersymbol"], [.modifierSymbol]),
  (["so", "othersymbol"], [.otherSymbol]), (["zs", "spaceseparator"], [.spaceSeparator]),
  (["zl", "lineseparator"], [.lineSeparator]),
  (["zp", "paragraphseparator"], [.paragraphSeparator]), (["cc", "control", "cntrl"], [.control]),
  (["cf", "format"], [.format]), (["co", "privateuse"], [.privateUse]),
  (["cn", "unassigned"], [.unassigned]),
  (["l", "letter"],
    [.uppercaseLetter, .lowercaseLetter, .titlecaseLetter, .modifierLetter, .otherLetter]),
  (["lc", "casedletter"], [.uppercaseLetter, .lowercaseLetter, .titlecaseLetter]),
  (["m", "mark", "combiningmark"], [.nonspacingMark, .spacingMark, .enclosingMark]),
  (["n", "number"], [.decimalNumber, .letterNumber, .otherNumber]),
  (["p", "punctuation", "punct"],
    [.connectorPunctuation, .dashPunctuation, .openPunctuation, .closePunctuation,
      .initialPunctuation, .finalPunctuation, .otherPunctuation]),
  (["s", "symbol"], [.mathSymbol, .currencySymbol, .modifierSymbol, .otherSymbol]),
  (["z", "separator"], [.spaceSeparator, .lineSeparator, .paragraphSeparator]),
  (["c", "other"], [.control, .format, .privateUse, .unassigned])]

/-- Each name of a category or group with its characters. -/
def categorySets : List (List String × CharSet) :=
  categories.map fun (names, group) => (names, Category.charsOf group)

/-- Categories that no character is in. -/
def unusedCategories : List String := ["cs", "surrogate"]

def category? (name : String) : Option CharSet :=
  if name = "any" then some .all
  else if name = "assigned" then some Category.unassignedSet.compl
  else if name = "ascii" then some (.between '\x00' '\x7f')
  else lookup name categorySets

/-! ### Properties -/

/-- Properties that are sets of characters. -/
def properties : List (List String × CharSet) := [
  (["ahex", "asciihexdigit"], Property.asciiHexDigit),
  (["alpha", "alphabetic"], Property.alphabetic), (["bidic", "bidicontrol"], Property.bidiControl),
  (["bidim", "bidimirrored"], Property.bidiMirrored),
  (["cased"], Property.cased), (["ci", "caseignorable"], Property.caseIgnorable),
  (["cwcf", "changeswhencasefolded"], Property.changesWhenCasefolded),
  (["cwcm", "changeswhencasemapped"], Property.changesWhenCasemapped),
  (["cwl", "changeswhenlowercased"], Property.changesWhenLowercased),
  (["cwt", "changeswhentitlecased"], Property.changesWhenTitlecased),
  (["cwu", "changeswhenuppercased"], Property.changesWhenUppercased), (["dash"], Property.dash),
  (["dep", "deprecated"], Property.deprecated),
  (["di", "defaultignorablecodepoint"], Property.defaultIgnorable),
  (["dia", "diacritic"], Property.diacritic),
  (["ebase", "emojimodifierbase"], Property.emojiModifierBase),
  (["ecomp", "emojicomponent"], Property.emojiComponent),
  (["emod", "emojimodifier"], Property.emojiModifier), (["emoji"], Property.emoji),
  (["epres", "emojipresentation"], Property.emojiPresentation),
  (["ext", "extender"], Property.extender),
  (["extpict", "extendedpictographic"], Property.extendedPictographic),
  (["grbase", "graphemebase"], Property.graphemeBase),
  (["grext", "graphemeextend"], Property.graphemeExtend),
  (["grlink", "graphemelink"], Property.graphemeLink), (["hex", "hexdigit"], Property.hexDigit),
  (["hyphen"], Property.hyphen), (["idc", "idcontinue"], Property.idContinue),
  (["idcompatmathcontinue"], Property.idCompatMathContinue),
  (["idcompatmathstart"], Property.idCompatMathStart),
  (["ideo", "ideographic"], Property.ideographic), (["ids", "idstart"], Property.idStart),
  (["idsb", "idsbinaryoperator"], Property.idsBinaryOperator),
  (["idst", "idstrinaryoperator"], Property.idsTrinaryOperator),
  (["idsu", "idsunaryoperator"], Property.idsUnaryOperator),
  (["joinc", "joincontrol"], Property.joinControl),
  (["loe", "logicalorderexception"], Property.logicalOrderException),
  (["lower", "lowercase"], Property.lowercase), (["math"], Property.math),
  (["mcm", "modifiercombiningmark"], Property.modifierCombiningMark),
  (["nchar", "noncharactercodepoint"], Property.noncharacterCodePoint),
  (["oalpha", "otheralphabetic"], Property.otherAlphabetic),
  (["odi", "otherdefaultignorablecodepoint"], Property.otherDefaultIgnorable),
  (["ogrext", "othergraphemeextend"], Property.otherGraphemeExtend),
  (["oidc", "otheridcontinue"], Property.otherIdContinue),
  (["oids", "otheridstart"], Property.otherIdStart),
  (["olower", "otherlowercase"], Property.otherLowercase),
  (["omath", "othermath"], Property.otherMath),
  (["oupper", "otheruppercase"], Property.otherUppercase),
  (["patsyn", "patternsyntax"], Property.patternSyntax),
  (["patws", "patternwhitespace"], Property.patternWhiteSpace),
  (["pcm", "prependedconcatenationmark"], Property.prependedConcatenationMark),
  (["qmark", "quotationmark"], Property.quotationMark), (["radical"], Property.radical),
  (["ri", "regionalindicator"], Property.regionalIndicator),
  (["sd", "softdotted"], Property.softDotted), (["sterm", "sentenceterminal"],
    Property.sentenceTerminal), (["term", "terminalpunctuation"], Property.terminalPunctuation),
  (["uideo", "unifiedideograph"], Property.unifiedIdeograph),
  (["upper", "uppercase"], Property.uppercase),
  (["vs", "variationselector"], Property.variationSelector),
  (["wspace", "whitespace", "space"], Property.whiteSpace),
  (["xidc", "xidcontinue"], Property.xidContinue), (["xids", "xidstart"], Property.xidStart)]

/-- A property with more than two values. -/
inductive Kind where
  | age | category | graphemeBreak | script | scriptExtensions | sentenceBreak | wordBreak
deriving DecidableEq

def kinds : List (List String × Kind) := [
  (["age"], .age), (["gc", "generalcategory"], .category),
  (["gcb", "graphemeclusterbreak"], .graphemeBreak), (["sc", "script"], .script),
  (["scx", "scriptextensions"], .scriptExtensions), (["sb", "sentencebreak"], .sentenceBreak),
  (["wb", "wordbreak"], .wordBreak)]

/-- Properties that cannot be asked for. -/
def others : List String := [
  "bc", "bidiclass", "blk", "block", "bmg", "bidimirroringglyph", "bpb",
  "bidipairedbracket", "bpt", "bidipairedbrackettype", "casefolding", "ccc",
  "canonicalcombiningclass", "ce", "compositionexclusion", "cf", "cjkaccountingnumeric",
  "cjkcompatibilityvariant", "cjkiicore", "cjkirggsource", "cjkirghsource", "cjkirgjsource",
  "cjkirgkpsource", "cjkirgksource", "cjkirgmsource", "cjkirgssource", "cjkirgtsource",
  "cjkirguksource", "cjkirgusource", "cjkirgvsource", "cjkothernumeric", "cjkprimarynumeric",
  "cjkrsunicode", "compex", "fullcompositionexclusion", "cwkcf", "changeswhennfkccasefolded",
  "decompositionmapping", "decompositiontype", "dm", "dt", "ea", "eastasianwidth", "equideo",
  "equivalentunifiedideograph", "expandsonnfc", "expandsonnfd", "expandsonnfkc", "expandsonnfkd",
  "fcnfkc", "fcnfkcclosure", "hangulsyllabletype", "hst", "incb", "indicconjunctbreak",
  "indicpositionalcategory", "indicsyllabiccategory", "inpc", "insc", "isc", "ocomment",
  "jamoshortname", "jg", "joininggroup", "joiningtype", "jsn", "jt", "kaccountingnumeric",
  "kcompatibilityvariant", "kehcat", "kehdesc", "kehhg", "kehifao", "kehjsesh", "kehnomirror",
  "kehnorotate", "kiicore", "kirggsource", "kirghsource", "kirgjsource", "kirgkpsource",
  "kirgksource", "kirgmsource", "kirgssource", "kirgtsource", "kirguksource", "kirgusource",
  "kirgvsource", "kothernumeric", "kprimarynumeric", "krsunicode", "lb", "lc", "linebreak",
  "lowercasemapping", "na", "na1", "name", "namealias", "nfcqc", "nfcquickcheck", "nfdqc",
  "nfdquickcheck", "nfkccasefold", "nfkccf", "nfkcqc", "nfkcquickcheck", "nfkcscf",
  "nfkcsimplecasefold", "nfkdqc", "nfkdquickcheck", "nt", "numerictype", "numericvalue", "nv",
  "scf", "sfc", "simplecasefolding", "simplelowercasemapping", "simpletitlecasemapping",
  "simpleuppercasemapping", "slc", "stc", "suc", "tc", "titlecasemapping", "uc",
  "unicode1name", "unicoderadicalstroke", "uppercasemapping", "urs", "verticalorientation", "vo",
  "xonfc", "xonfd", "xonfkc", "xonfkd"]

/-- Whether a loose name is that of a property. -/
def isProperty (name : String) : Bool :=
  (lookup name properties).isSome || (lookup name kinds).isSome || others.contains name

/-- Abbreviations of properties that mean a category where they stand alone. -/
def preferCategory : List String := ["cf", "lc", "sc"]

/-- The set that a plain name stands for. -/
def find (name : String) : Except Missing CharSet :=
  let name := loose name
  if isProperty name ∧ name ∉ preferCategory then
    (lookup name properties).elim (.error .property) .ok
  else
    match (category? name).or (Script.find? name) with
    | some set => .ok set
    | none =>
      .error (if name ∈ unusedCategories ∨ name ∈ Script.unused then .value else .property)

/-- The characters with a value, both under loose names. -/
def Kind.find? (value : String) : Kind → Option CharSet
  | .age => Age.find? value
  | .category => category? value
  | .graphemeBreak => Segmentation.find? Segmentation.graphemeClasses value
  | .script => Script.find? value
  | .scriptExtensions => Script.usedWith? value
  | .sentenceBreak => Segmentation.find? Segmentation.sentenceClasses value
  | .wordBreak => Segmentation.find? Segmentation.wordClasses value

/-- The characters for which a property has a value. -/
def findValue (name value : String) : Except Missing CharSet :=
  let name := loose name
  match lookup name kinds with
  | some kind => (kind.find? (loose value)).elim (.error .value) .ok
  | none => .error (if isProperty name then .value else .property)

end TokenGrammar.Text.PropertyName
