import SchemaTree.Pattern.Unicode.Listed
import SchemaTree.Pattern.Unicode.Cases

/-!
# Derived properties

The properties that the Unicode standard derives from general categories, from listed characters
and from case.

* `alphabetic`, `lowercase`, `uppercase` and their like;
* `properties`: all properties, listed and derived, with their loose names.
-/

namespace SchemaTree

namespace Pattern

namespace Unicode

/-! ## Letters and marks -/

/-- The lowercase characters. -/
def lowercase : CharSet := lowercaseLetter.union otherLowercase

/-- The uppercase characters. -/
def uppercase : CharSet := uppercaseLetter.union otherUppercase

/-- The characters with case. -/
def cased : CharSet := .unions [lowercase, uppercase, titlecaseLetter]

/-- The alphabetic characters. -/
def alphabetic : CharSet := .unions [cased, modifierLetter, otherLetter, letterNumber,
  otherAlphabetic]

/-- The mathematical characters. -/
def math : CharSet := mathSymbol.union otherMath

/-- The characters that extend the one before them. -/
def graphemeExtend : CharSet := .unions [enclosingMark, nonspacingMark, otherGraphemeExtend]

/-- The characters that something can extend. -/
def graphemeBase : CharSet :=
  (CharSet.unions [control, format, privateUse, unassigned, lineSeparator, paragraphSeparator,
    graphemeExtend]).complement

/-- The code points that need not be shown. -/
def defaultIgnorable : CharSet :=
  (CharSet.unions [otherDefaultIgnorableCodePoint, format, variationSelector]).difference
    (.unions [whiteSpace, prependedConcatenationMark, .ofText "fff9-fffb 13430-1343f"])

/-- The characters between letters that do not end a word. -/
def midLetter : CharSet := .ofText "3a b7 387 55f 5f4 2027 fe13 fe55 ff1a"

/-- The characters between letters or digits that do not end a word. -/
def midNumLet : CharSet := .ofText "2e 2018-2019 2024 fe52 ff07 ff0e"

/-- The characters that do not count for case. -/
def caseIgnorable : CharSet :=
  .unions [nonspacingMark, enclosingMark, format, modifierLetter, modifierSymbol, midLetter,
    midNumLet, .range 0x27 0x27]

/-- The characters of words in patterns. -/
def word : CharSet := .unions [alphabetic, mark, decimalNumber, connectorPunctuation, joinControl]

/-! ## Names -/

/-- The characters that patterns use for themselves. -/
def patternCharacter : CharSet := patternSyntax.union patternWhiteSpace

/-- The characters that may begin a name. -/
def idStart : CharSet :=
  (CharSet.unions [letter, letterNumber, otherIdStart]).difference patternCharacter

/-- The characters that may stand inside a name. -/
def idContinue : CharSet :=
  (CharSet.unions [idStart, nonspacingMark, spacingMark, decimalNumber, connectorPunctuation,
    otherIdContinue]).difference patternCharacter

/-- The characters that may begin a name in every compatible form. -/
def xidStart : CharSet := idStart.difference
  (.ofText "37a e33 eb3 309b-309c fc5e-fc63 fdfa-fdfb fe70-fe7e/2 ff9e-ff9f")

/-- The characters that may stand inside a name in every compatible form. -/
def xidContinue : CharSet := idContinue.difference
  (.ofText "37a 309b-309c fc5e-fc63 fdfa-fdfb fe70-fe7e/2")

/-- The mathematical characters that may stand inside a name. -/
def idCompatMathContinue : CharSet :=
  idCompatMathStart.union (.ofText "b2-b3 b9 2070 2074-207e 2080-208e")

/-! ## Case -/

/-- The characters that some change of case changes. -/
def changesWhenCasemapped : CharSet :=
  (CharSet.ofCodes (casePairs.flatMap fun (c, d) => [c, d])).union (.ofText
    "130-131 149 1f0 587 1e96-1e9a 1f50-1f56/2 1fb2 1fb4 1fb6-1fb7 1fc2 1fc4 1fc6-1fc7 1fd2
     1fd6-1fd7 1fe2 1fe4 1fe6-1fe7 1ff2 1ff4 1ff6-1ff7 fb00-fb04 fb13-fb17")

/-- The characters that change in lower case. -/
def changesWhenLowercased : CharSet :=
  (uppercase.union titlecaseLetter).intersection changesWhenCasemapped

/-- The characters that change in upper case. -/
def changesWhenUppercased : CharSet :=
  (changesWhenCasemapped.difference changesWhenLowercased).union (.ofText
    "1c5-1cb/3 1f2 1f88-1f8f 1f98-1f9f 1fa8-1faf 1fbc 1fcc 1ffc")

/-- The characters that change in title case. -/
def changesWhenTitlecased : CharSet :=
  (changesWhenUppercased.difference (.ofText
    "1c5-1cb/3 1f2 10d0-10fa 10fd-10ff 1f88-1f8f 1f98-1f9f 1fa8-1faf 1fbc 1fcc 1ffc")).union
    (.ofText "1c4-1ca/3 1f1")

/-- The characters that change when case is folded. -/
def changesWhenCasefolded : CharSet :=
  (changesWhenLowercased.difference (.ofText "13a0-13f5")).union (.ofText
    "b5 df 149 17f 345 3c2 3d0-3d1 3d5-3d6 3f0-3f1 3f5 587 13f8-13fd 1c80-1c88 1e9a-1e9b
     1f80-1f87 1f90-1f97 1fa0-1fa7 1fb2-1fb4 1fb7 1fc2-1fc4 1fc7 1ff2-1ff4 1ff7 ab70-abbf
     fb00-fb06 fb13-fb17")

/-! ## All properties -/

/-- The properties with their loose names. -/
def properties : List (List String × CharSet) := [
  (["ahex", "asciihexdigit"], asciiHexDigit),
  (["alpha", "alphabetic"], alphabetic),
  (["bidic", "bidicontrol"], bidiControl),
  (["bidim", "bidimirrored"], bidiMirrored),
  (["caseignorable", "ci"], caseIgnorable),
  (["cased"], cased),
  (["changeswhencasefolded", "cwcf"], changesWhenCasefolded),
  (["changeswhencasemapped", "cwcm"], changesWhenCasemapped),
  (["changeswhenlowercased", "cwl"], changesWhenLowercased),
  (["changeswhentitlecased", "cwt"], changesWhenTitlecased),
  (["changeswhenuppercased", "cwu"], changesWhenUppercased),
  (["dash"], dash),
  (["defaultignorablecodepoint", "di"], defaultIgnorable),
  (["dep", "deprecated"], deprecated),
  (["dia", "diacritic"], diacritic),
  (["emoji"], emoji),
  (["ecomp", "emojicomponent"], emojiComponent),
  (["emod", "emojimodifier"], emojiModifier),
  (["ebase", "emojimodifierbase"], emojiModifierBase),
  (["emojipresentation", "epres"], emojiPresentation),
  (["extendedpictographic", "extpict"], extendedPictographic),
  (["ext", "extender"], extender),
  (["graphemebase", "grbase"], graphemeBase),
  (["graphemeextend", "grext"], graphemeExtend),
  (["graphemelink", "grlink"], graphemeLink),
  (["hex", "hexdigit"], hexDigit),
  (["hyphen"], hyphen),
  (["idsb", "idsbinaryoperator"], idsBinaryOperator),
  (["idst", "idstrinaryoperator"], idsTrinaryOperator),
  (["idsu", "idsunaryoperator"], idsUnaryOperator),
  (["idcompatmathcontinue"], idCompatMathContinue),
  (["idcompatmathstart"], idCompatMathStart),
  (["idc", "idcontinue"], idContinue),
  (["ids", "idstart"], idStart),
  (["ideo", "ideographic"], ideographic),
  (["joinc", "joincontrol"], joinControl),
  (["loe", "logicalorderexception"], logicalOrderException),
  (["lower", "lowercase"], lowercase),
  (["math"], math),
  (["mcm", "modifiercombiningmark"], modifierCombiningMark),
  (["nchar", "noncharactercodepoint"], noncharacterCodePoint),
  (["oalpha", "otheralphabetic"], otherAlphabetic),
  (["odi", "otherdefaultignorablecodepoint"], otherDefaultIgnorableCodePoint),
  (["ogrext", "othergraphemeextend"], otherGraphemeExtend),
  (["oidc", "otheridcontinue"], otherIdContinue),
  (["oids", "otheridstart"], otherIdStart),
  (["olower", "otherlowercase"], otherLowercase),
  (["omath", "othermath"], otherMath),
  (["otheruppercase", "oupper"], otherUppercase),
  (["patsyn", "patternsyntax"], patternSyntax),
  (["patternwhitespace", "patws"], patternWhiteSpace),
  (["pcm", "prependedconcatenationmark"], prependedConcatenationMark),
  (["qmark", "quotationmark"], quotationMark),
  (["radical"], radical),
  (["regionalindicator", "ri"], regionalIndicator),
  (["sentenceterminal", "sterm"], sentenceTerminal),
  (["sd", "softdotted"], softDotted),
  (["term", "terminalpunctuation"], terminalPunctuation),
  (["uideo", "unifiedideograph"], unifiedIdeograph),
  (["upper", "uppercase"], uppercase),
  (["variationselector", "vs"], variationSelector),
  (["space", "whitespace", "wspace"], whiteSpace),
  (["xidc", "xidcontinue"], xidContinue),
  (["xids", "xidstart"], xidStart)]

end Unicode

end Pattern

end SchemaTree
