import SchemaTree.Pattern.Unicode.Derived
import SchemaTree.Pattern.Unicode.Scripts

/-!
# Breaks

The classes of characters that decide, as in Unicode 16, where graphemes, words and sentences end.

* `graphemeBreaks`, `wordBreaks`, `sentenceBreaks`: the classes with their loose names.
-/

namespace SchemaTree

namespace Pattern

namespace Unicode

/-- The tags of emoji sequences. -/
def tag : CharSet := .range 0xe0020 0xe007f

/-- The joiner. -/
def joiner : CharSet := .range 0x200d 0x200d

/-- The end of a line, and the return to its start. -/
def lineFeed : CharSet := .range 0xa 0xa

/-- The return to the start of a line. -/
def carriageReturn : CharSet := .range 0xd 0xd

/-! ## Graphemes -/

/-- The characters that extend a grapheme. -/
def graphemeExtension : CharSet := graphemeExtend.union emojiModifier

/-- The characters that end a grapheme on both sides. -/
def graphemeControl : CharSet :=
  (CharSet.unions [control, format, lineSeparator, paragraphSeparator,
    unassigned.intersection defaultIgnorable]).difference
    (.unions [lineFeed, carriageReturn, joinControl, tag, prependedConcatenationMark])

/-- The spacing marks that extend a grapheme. -/
def graphemeSpacingMark : CharSet :=
  ((spacingMark.difference graphemeExtension).union (.ofText "e33 eb3")).difference (.ofText
    "102b-102c 1038 1062-1064 1067-106d 1083 1087-108c 108f 109a-109c 1a61 1a63-1a64 aa7b aa7d
     11720-11721")

/-- The Hangul syllables without a final consonant. -/
def openSyllable : CharSet := .ofText "ac00-d788/1c"

/-- The classes of grapheme breaks. -/
def graphemeBreaks : List (List String × CharSet) := [
  (["cr"], carriageReturn),
  (["lf"], lineFeed),
  (["cn", "control"], graphemeControl),
  (["ex", "extend"], graphemeExtension),
  (["sm", "spacingmark"], graphemeSpacingMark),
  (["pp", "prepend"], .ofText
    "600-605 6dd 70f 890-891 8e2 d4e 110bd 110cd 111c2-111c3 113d1 1193f 11941 11a3a 11a84-11a89
     11d46 11f02"),
  (["regionalindicator", "ri"], regionalIndicator),
  (["l"], .ofText "1100-115f a960-a97c"),
  (["v"], .ofText "1160-11a7 d7b0-d7c6 16d63 16d67-16d6a"),
  (["t"], .ofText "11a8-11ff d7cb-d7fb"),
  (["lv"], openSyllable),
  (["lvt"], (CharSet.range 0xac00 0xd7a3).difference openSyllable),
  (["zwj"], joiner)]

/-! ## Words -/

/-- The characters that extend what stands before them in a word. -/
def wordExtension : CharSet := .unions [graphemeExtend, spacingMark, emojiModifier]

/-- The characters of a script with a loose name. -/
def scriptNamed (name : String) : CharSet :=
  ((scripts.find? fun (names, _) => name ∈ names).map (·.2)).getD .empty

/-- The letters of Hebrew words. -/
def hebrewLetter : CharSet := (scriptNamed "hebrew").intersection otherLetter

/-- The characters of Katakana words. -/
def katakanaWord : CharSet := .ofText
  "3031-3035 309b-309c 30a0-30fa 30fc-30ff 31f0-31ff 32d0-32fe 3300-3357 ff66-ff9d 1aff0-1aff3
   1aff5-1affb 1affd-1affe 1b000 1b120-1b122 1b155 1b164-1b167"

/-- The letters of scripts without blanks between words. -/
def complexContext : CharSet := .ofText
  "e01-e30 e32-e33 e40-e46 e81-e82 e84 e86-e8a e8c-ea3 ea5 ea7-eb0 eb2-eb3 ebd ec0-ec4 ec6
   edc-edf 1000-102a 103f 1050-1055 105a-105d 1061 1065-1066 106e-1070 1075-1081 108e 1780-17b3
   17d7 17dc 1950-196d 1970-1974 1980-19ab 19b0-19c9 1a20-1a54 1aa7 a9e0-a9e4 a9e6-a9ef
   a9fa-a9fe aa60-aa76 aa7a aa7e-aaaf aab1 aab5-aab6 aab9-aabd aac0 aac2 aadb-aadd 11700-1171a
   11740-11746"

/-- The letters of other words. -/
def wordLetter : CharSet :=
  (alphabetic.difference (.unions [ideographic, katakanaWord, scriptNamed "hiragana", wordExtension,
    hebrewLetter, complexContext])).union (.ofText
    "2c2-2c5 2d2-2d7 2de-2df 2e5-2eb 2ed 2ef-2ff 55a-55c 55e 58a 5f3 70f a708-a716 a720-a721
     a789-a78a ab5b")

/-- The digits of sentences. -/
def sentenceNumber : CharSet := decimalNumber.union (.ofText
  "600-605 66b-66c 6dd 890-891 8e2 19da 110bd 110cd")

/-- The format characters in words. -/
def wordFormat : CharSet :=
  format.difference (.unions [.range 0x200b 0x200d, prependedConcatenationMark, tag])

/-- The classes of word breaks. -/
def wordBreaks : List (List String × CharSet) := [
  (["aletter", "le"], wordLetter),
  (["cr"], carriageReturn),
  (["doublequote", "dq"], .ofText "22"),
  (["extend"], wordExtension),
  (["ex", "extendnumlet"], .ofText "5f 202f 203f-2040 2054 fe33-fe34 fe4d-fe4f ff3f"),
  (["fo", "format"], wordFormat),
  (["hebrewletter", "hl"], hebrewLetter),
  (["ka", "katakana"], katakanaWord),
  (["lf"], lineFeed),
  (["midletter", "ml"], midLetter),
  (["midnum", "mn"], .ofText "2c 3b 37e 589 60c-60d 66c 7f8 2044 fe50 fe54 ff0c ff1b"),
  (["mb", "midnumlet"], midNumLet),
  (["newline", "nl"], .ofText "b-c 85 2028-2029"),
  (["nu", "numeric"], sentenceNumber.difference (.range 0x66c 0x66c)),
  (["regionalindicator", "ri"], regionalIndicator),
  (["singlequote", "sq"], .ofText "27"),
  (["wsegspace"], .ofText "20 1680 2000-2006 2008-200a 205f 3000"),
  (["zwj"], joiner)]

/-! ## Sentences -/

/-- The lowercase characters of sentences. -/
def sentenceLower : CharSet :=
  (lowercase.difference graphemeExtend).difference (.ofText "10d0-10fa 10fd-10ff")

/-- The uppercase characters of sentences. -/
def sentenceUpper : CharSet :=
  (uppercase.union titlecaseLetter).difference (.ofText "1c90-1cba 1cbd-1cbf")

/-- The characters that extend what stands before them in a sentence. -/
def sentenceExtension : CharSet := .unions [graphemeExtend, spacingMark, joiner]

/-- The full stops, which may end an abbreviation. -/
def fullStop : CharSet := .ofText "2e 2024 fe52 ff0e"

/-- The characters that end a paragraph. -/
def paragraphEnd : CharSet := .ofText "85 2028-2029"

/-- The format characters in sentences. -/
def sentenceFormat : CharSet :=
  format.difference (.unions [joinControl, tag,
    prependedConcatenationMark.difference (.range 0x70f 0x70f)])

/-- The classes of sentence breaks. -/
def sentenceBreaks : List (List String × CharSet) := [
  (["at", "aterm"], fullStop),
  (["cr"], carriageReturn),
  (["cl", "close"], .unions [
    openPunctuation, closePunctuation, initialPunctuation, finalPunctuation,
    .ofText "22 27 275b-2760 2e00-2e01 2e06-2e08 2e0b 1f676-1f678"]),
  (["ex", "extend"], sentenceExtension),
  (["fo", "format"], sentenceFormat),
  (["lf"], lineFeed),
  (["lo", "lower"], sentenceLower),
  (["nu", "numeric"], sentenceNumber),
  (["le", "oletter"], (alphabetic.union (.range 0x5f3 0x5f3)).difference
    (.unions [sentenceLower, sentenceUpper, sentenceExtension])),
  (["sc", "scontinue"], .ofText
    "2c-2d 3a-3b 37e 55d 60c-60d 7f8 1802 1808 2013-2014 3001 fe10-fe11 fe13-fe14 fe31-fe32
     fe50-fe51 fe54-fe55 fe58 fe63 ff0c-ff0d ff1a-ff1b ff64"),
  (["st", "sterm"], sentenceTerminal.difference fullStop),
  (["se", "sep"], paragraphEnd),
  (["sp"], whiteSpace.difference (.unions [paragraphEnd, carriageReturn, lineFeed])),
  (["up", "upper"], sentenceUpper)]

end Unicode

end Pattern

end SchemaTree
