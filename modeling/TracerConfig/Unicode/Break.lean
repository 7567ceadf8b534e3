import TracerConfig.Unicode.Property
import TracerConfig.Unicode.Script

/-!
# Boundaries in texts

What a character counts as where a text is cut into what is seen as one character, into words, or
into sentences. Each of the three cuts has values of its own, given as formulas over categories
and properties with the characters they name besides.

Main definitions: `graphemeBreak?`, `wordBreak?`, `sentenceBreak?`, the characters with a value of
each, by its name.
-/

namespace TracerConfig.Unicode

open CodeSet (unions)

/-- The line feed, which has a value of its own in each cut. -/
def lineFeed : CodeSet := .ofText "a"

/-- The carriage return, which has one too. -/
def carriageReturn : CodeSet := .ofText "d"

/-- Joins the characters around it. -/
def zeroWidthJoiner : CodeSet := .ofText "200d"

/-! ## What is seen as one character -/

/-- Marks and modifiers that stay with the character before them. -/
def graphemeExtension : CodeSet := (graphemeExtend.union emojiModifier).diff zeroWidthJoiner

/-- Characters that stand by themselves. -/
def graphemeControl : CodeSet :=
  (unions [categories ["Zl", "Zp", "Cc", "Cf"],
      (categories ["Cn"]).inter defaultIgnorableCodePoint]).diff
    (unions [.ofText "a d 200c-200d", prependedConcatenationMark, graphemeExtend])

/-- Characters that stay with the one after them. -/
def graphemePrepend : CodeSet :=
  prependedConcatenationMark.union (.ofText "
    d4e 111c2-111c3 113d1 1193f 11941 11a3a 11a84-11a89 11d46 11f02")

/-- Spacing marks that do not stay with the character before them. -/
def detachedMarks : CodeSet := .ofText "
  102b-102c 1038 1062-1064 1067-106d 1083 1087-108c 108f 109a-109c 1a61 1a63-1a64 aa7b aa7d
  11720-11721"

/-- Spacing marks that do. -/
def graphemeSpacingMark : CodeSet :=
  ((categories ["Mc"]).union (.ofText "e33 eb3")).diff (detachedMarks.union graphemeExtension)

/-- The first syllable block. -/
def firstSyllable : Nat := 0xAC00

/-- The last syllable block. -/
def lastSyllable : Nat := 0xD7A3

/-- The number of syllable blocks that begin alike: one without and the others with a consonant at
the end. -/
def syllablesPerVowel : Nat := 28

/-- Syllable blocks without a consonant at the end. -/
def openSyllables : CodeSet :=
  unions ((List.range ((lastSyllable - firstSyllable) / syllablesPerVowel + 1)).map fun i =>
    .single (firstSyllable + syllablesPerVowel * i))

/-- Syllable blocks with a consonant at the end. -/
def closedSyllables : CodeSet := (CodeSet.range firstSyllable lastSyllable).diff openSyllables

/-- The names of each value, in lower case and without separators, and its characters. -/
def graphemeBreaks : List (List String × CodeSet) := [
  (["cn", "control"], graphemeControl),
  (["cr"], carriageReturn),
  (["ex", "extend"], graphemeExtension),
  (["l"], .ofText "1100-115f a960-a97c"),
  (["lf"], lineFeed),
  (["lv"], openSyllables),
  (["lvt"], closedSyllables),
  (["pp", "prepend"], graphemePrepend),
  (["ri", "regionalindicator"], regionalIndicator),
  (["sm", "spacingmark"], graphemeSpacingMark),
  (["t"], .ofText "11a8-11ff d7cb-d7fb"),
  (["v"], .ofText "1160-11a7 d7b0-d7c6 16d63 16d67-16d6a"),
  (["zwj"], zeroWidthJoiner)]

/-- The characters with the value of a name. -/
def graphemeBreak? (name : String) : Option CodeSet :=
  (graphemeBreaks.find? (·.1.contains name)).map (·.2)

/-! ## Words -/

/-- Marks and modifiers that belong to the word before them. -/
def wordExtension : CodeSet :=
  (unions [graphemeExtend, categories ["Mc"], emojiModifier]).diff zeroWidthJoiner

/-- Characters that are skipped between the letters of a word. -/
def wordFormat : CodeSet :=
  (categories ["Cf"]).diff
    (unions [.ofText "200b-200d", graphemeExtend, prependedConcatenationMark])

/-- The characters of one of the two scripts of syllables, and what is used with them. -/
def wordKatakana : CodeSet := (script "Kana").union (.ofText "3031-3035 309b-309c 30a0 30fc ff70")

/-- Letters between which quotation marks are kept. -/
def wordHebrew : CodeSet := (script "Hebr").inter (categories ["Lo"])

/-- The characters of scripts that do not mark the boundaries of words. -/
def unmarkedWords : CodeSet := .ofText "
  e01-e3a e40-e4e e81-e82 e84 e86-e8a e8c-ea3 ea5 ea7-ebd ec0-ec4 ec6 ec8-ece edc-edf 1000-103f
  1050-108f 109a-109f 1780-17d3 17d7 17dc-17dd 1950-196d 1970-1974 1980-19ab 19b0-19c9 19da
  19de-19df 1a20-1a5e 1a60-1a7c 1aa0-1aad a9e0-a9ef a9fa-a9fe aa60-aac2 aadb-aadf 11700-1171a
  1171d-1172b 1173a-1173b 1173f-11746"

/-- Signs that are used like letters. -/
def letterlike : CodeSet := .ofText "
  2c2-2c5 2d2-2d7 2de-2df 2e5-2eb 2ed 2ef-2ff 55a-55c 55e 58a 5f3 70f a708-a716 a720-a721 a789-a78a
  ab5b"

/-- Letters of scripts with spaces between words. -/
def wordLetters : CodeSet :=
  (alphabetic.union letterlike).diff
    (unions [ideographic, wordKatakana, unmarkedWords, script "Hira", wordExtension, wordHebrew])

/-- Digits, and what is used within numbers only. -/
def wordNumeric : CodeSet :=
  unions [decimalDigits, .ofText "66b", prependedConcatenationMark.diff (.ofText "70f")]

/-- The names of each value, in lower case and without separators, and its characters. -/
def wordBreaks : List (List String × CodeSet) := [
  (["le", "aletter"], wordLetters),
  (["cr"], carriageReturn),
  (["dq", "doublequote"], .ofText "22"),
  (["extend"], wordExtension),
  (["ex", "extendnumlet"], (categories ["Pc"]).union (.ofText "202f")),
  (["fo", "format"], wordFormat),
  (["hl", "hebrewletter"], wordHebrew),
  (["ka", "katakana"], wordKatakana),
  (["lf"], lineFeed),
  (["ml", "midletter"], .ofText "3a b7 387 55f 5f4 2027 fe13 fe55 ff1a"),
  (["mn", "midnum"],
    .ofText "2c 3b 37e 589 60c-60d 66c 7f8 2044 fe10 fe14 fe50 fe54 ff0c ff1b"),
  (["mb", "midnumlet"], .ofText "2e 2018-2019 2024 fe52 ff07 ff0e"),
  (["nl", "newline"], .ofText "b-c 85 2028-2029"),
  (["nu", "numeric"], wordNumeric),
  (["ri", "regionalindicator"], regionalIndicator),
  (["sq", "singlequote"], .ofText "27"),
  (["wsegspace"], .ofText "20 1680 2000-2006 2008-200a 205f 3000"),
  (["zwj"], zeroWidthJoiner)]

/-- The characters with the value of a name. -/
def wordBreak? (name : String) : Option CodeSet :=
  (wordBreaks.find? (·.1.contains name)).map (·.2)

/-! ## Sentences -/

/-- Marks that belong to the character before them. -/
def sentenceExtension : CodeSet := unions [graphemeExtend, categories ["Mc"], zeroWidthJoiner]

/-- Characters that are skipped within a sentence. -/
def sentenceFormat : CodeSet :=
  (categories ["Cf"]).diff
    (unions [.ofText "200c-200d", graphemeExtend, prependedConcatenationMark])

/-- Ends of paragraphs. -/
def sentenceSeparators : CodeSet := .ofText "85 2028-2029"

/-- Small letters. Those of a script in which whole sentences are written in either case are not
counted. -/
def sentenceLower : CodeSet := lowercase.diff (graphemeExtend.union (.ofText "10d0-10fa 10fd-10ff"))

/-- Capital letters, with the same exception. -/
def sentenceUpper : CodeSet :=
  (uppercase.union (categories ["Lt"])).diff (.ofText "1c90-1cba 1cbd-1cbf")

/-- Letters that are neither small nor capital. -/
def sentenceLetters : CodeSet :=
  (alphabetic.union (.ofText "5f3 70f")).diff
    (unions [sentenceLower, sentenceUpper, sentenceExtension])

/-- Full stops, which may belong to an abbreviation or a number. -/
def fullStops : CodeSet := .ofText "2e 2024 fe52 ff0e"

/-- Marks that end a sentence for certain. -/
def sentenceTerminators : CodeSet := sentenceTerminal.diff fullStops

/-- Quotation marks and brackets. -/
def sentenceClosers : CodeSet :=
  (unions [categories ["Ps", "Pe", "Pi", "Pf"],
      .ofText "22 27 275b-2760 2e00-2e01 2e06-2e08 2e0b 1f676-1f678"]).diff
    (unions [.ofText "5f3", fullStops, sentenceTerminators])

/-- The names of each value, in lower case and without separators, and its characters. -/
def sentenceBreaks : List (List String × CodeSet) := [
  (["at", "aterm"], fullStops),
  (["cl", "close"], sentenceClosers),
  (["cr"], carriageReturn),
  (["ex", "extend"], sentenceExtension),
  (["fo", "format"], sentenceFormat),
  (["lf"], lineFeed),
  (["lo", "lower"], sentenceLower),
  (["nu", "numeric"], wordNumeric.union (.ofText "66c")),
  (["le", "oletter"], sentenceLetters),
  (["sc", "scontinue"],
    .ofText "2c-2d 3a-3b 37e 55d 60c-60d 7f8 1802 1808 2013-2014 3001 fe10-fe11 fe13-fe14 fe31-fe32
      fe50-fe51 fe54-fe55 fe58 fe63 ff0c-ff0d ff1a-ff1b ff64"),
  (["se", "sep"], sentenceSeparators),
  (["sp"], whiteSpace.diff (unions [sentenceSeparators, lineFeed, carriageReturn])),
  (["st", "sterm"], sentenceTerminators),
  (["up", "upper"], sentenceUpper)]

/-- The characters with the value of a name. -/
def sentenceBreak? (name : String) : Option CodeSet :=
  (sentenceBreaks.find? (·.1.contains name)).map (·.2)

end TracerConfig.Unicode
