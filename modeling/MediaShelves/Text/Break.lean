import MediaShelves.Text.Property.Control
import MediaShelves.Text.Property.Identifier
import MediaShelves.Text.Property.Letter
import MediaShelves.Text.Property.Symbol
import MediaShelves.Text.Script

/-!
# Breaks in text

What a character means for the ends of clusters, words and sentences.  For each of the three,
classes under their long and short names; a character in none of them is of no interest there.
-/

namespace MediaShelves.Text.Break

open MediaShelves.Text MediaShelves.Text.Property

/-- The classes of one kind of break, with their names, plain and in lower case. -/
abbrev Classes := List (List String × CodeSet)

/-- The class with this name. -/
def Classes.named? (classes : Classes) (name : String) : Option CodeSet :=
  (classes.find? (·.1.contains name)).map (·.2)

/-! ## Characters that more than one kind of break mentions -/

/-- The carriage return. -/
def carriageReturn : CodeSet := .table "D"

/-- The line feed. -/
def lineFeed : CodeSet := .table "A"

/-- The zero width joiner. -/
def joiner : CodeSet := .table "200D"

/-- Characters that stand for numbers before they are written. -/
def numberSigns : CodeSet := .table "600-605 6DD 890-891 8E2 110BD 110CD"

/-- Digits and decimal separators. -/
def numeric : CodeSet :=
  .unions [GeneralCategory.decimalNumber, numberSigns, .table "66B"]

/-! ## Clusters -/

/-- Characters that continue a cluster and have no width of their own. -/
def clusterExtend : CodeSet :=
  graphemeExtend.union emojiModifier

/-- Characters that stand alone between clusters. -/
def clusterControl : CodeSet :=
  (CodeSet.unions [GeneralCategory.lineSeparator, GeneralCategory.paragraphSeparator,
    GeneralCategory.control, GeneralCategory.format,
    GeneralCategory.unassigned.inter defaultIgnorable]).diff
    (.unions [carriageReturn, lineFeed, joinControl, prependedConcatenationMark, clusterExtend])

/-- Marks that take room and yet continue a cluster. -/
def clusterSpacingMark : CodeSet :=
  (GeneralCategory.spacingMark.union (.table "E33 EB3")).diff
    (clusterExtend.union
      (.table
        "102B-102C 1038 1062-1064 1067-106D 1083 1087-108C 108F 109A-109C 1A61 1A63-1A64 AA7B
        AA7D 11720-11721"))

/-- Syllables of a consonant and a vowel. -/
def openSyllable : CodeSet := .table "AC00-D788/1C"

/-- The classes for the ends of clusters. -/
def cluster : Classes :=
  [(["cr"], carriageReturn), (["control", "cn"], clusterControl),
    (["extend", "ex"], clusterExtend), (["l"], .table "1100-115F A960-A97C"), (["lf"], lineFeed),
    (["lv"], openSyllable), (["lvt"], (CodeSet.table "AC00-D7A3").diff openSyllable),
    (["prepend", "pp"],
      prependedConcatenationMark.union
        (.table "D4E 111C2-111C3 113D1 1193F 11941 11A3A 11A84-11A89 11D46 11F02")),
    (["regionalindicator", "ri"], regionalIndicator),
    (["spacingmark", "sm"], clusterSpacingMark), (["t"], .table "11A8-11FF D7CB-D7FB"),
    (["v"], .table "1160-11A7 D7B0-D7C6 16D63 16D67-16D6A"), (["zwj"], joiner)]

/-! ## Words -/

/-- Characters that continue whatever stands before them in a word. -/
def wordExtend : CodeSet :=
  (CodeSet.unions [graphemeExtend, GeneralCategory.spacingMark, emojiModifier]).diff joiner

/-- Letters of the Hebrew script. -/
def hebrewLetter : CodeSet :=
  Script.hebrew.inter GeneralCategory.otherLetter

/-- Katakana and the signs that are used with them. -/
def wordKatakana : CodeSet :=
  Script.katakana.union (.table "3031-3035 309B-309C 30A0 30FC FF70")

/-- Signs that are used like letters. -/
def letterLike : CodeSet :=
  .table
    "2C2-2C5 2D2-2D7 2DE-2DF 2E5-2EB 2ED 2EF-2FF 55A-55C 55E 58A 5F3 70F A708-A716 A720-A721
    A789-A78A AB5B"

/-- Characters of scripts that put no blanks between words. -/
def withoutBlanks : CodeSet :=
  .table
    "E01-E3A E40-E4E E81-E82 E84 E86-E8A E8C-EA3 EA5 EA7-EBD EC0-EC4 EC6 EC8-ECE EDC-EDF 1000-103F
    1050-108F 109A-109F 1780-17D3 17D7 17DC-17DD 1950-196D 1970-1974 1980-19AB 19B0-19C9 19DA
    19DE-19DF 1A20-1A5E 1A60-1A7C 1AA0-1AAD A9E0-A9EF A9FA-A9FE AA60-AAC2 AADB-AADF 11700-1171A
    1171D-1172B 1173A-1173B 1173F-11746"

/-- Letters of words, save those of scripts that need other rules. -/
def wordLetter : CodeSet :=
  (alphabetic.union letterLike).diff
    (.unions [ideographic, wordKatakana, withoutBlanks, Script.hiragana, wordExtend, hebrewLetter])

/-- The classes for the ends of words. -/
def word : Classes :=
  [(["aletter", "le"], wordLetter), (["cr"], carriageReturn), (["doublequote", "dq"], .table "22"),
    (["extend"], wordExtend),
    (["extendnumlet", "ex"], GeneralCategory.connectorPunctuation.union (.table "202F")),
    (["format", "fo"],
      GeneralCategory.format.diff
        (.unions [.table "200B-200D", wordExtend, prependedConcatenationMark])),
    (["hebrewletter", "hl"], hebrewLetter), (["katakana", "ka"], wordKatakana), (["lf"], lineFeed),
    (["midletter", "ml"], .table "3A B7 387 55F 5F4 2027 FE13 FE55 FF1A"),
    (["midnum", "mn"],
      .table "2C 3B 37E 589 60C-60D 66C 7F8 2044 FE10 FE14 FE50 FE54 FF0C FF1B"),
    (["midnumlet", "mb"], .table "2E 2018-2019 2024 FE52 FF07 FF0E"),
    (["newline", "nl"], .table "B-C 85 2028-2029"), (["numeric", "nu"], numeric),
    (["regionalindicator", "ri"], regionalIndicator), (["singlequote", "sq"], .table "27"),
    (["wsegspace"], .table "20 1680 2000-2006 2008-200A 205F 3000"), (["zwj"], joiner)]

/-! ## Sentences -/

/-- Full stops, which need not end a sentence. -/
def fullStop : CodeSet := .table "2E 2024 FE52 FF0E"

/-- Marks that end a sentence. -/
def sentenceEnd : CodeSet :=
  sentenceTerminal.diff fullStop

/-- Quotation marks of any kind. -/
def quotation : CodeSet :=
  .table
    "22 27 AB BB 2018-2019 201B-201D 201F 2039-203A 275B-2760 2E00-2E0D 2E1C-2E1D 2E20-2E21
    1F676-1F678"

/-- Characters that continue whatever stands before them in a sentence. -/
def sentenceExtend : CodeSet :=
  .unions [graphemeExtend, joiner, GeneralCategory.spacingMark]

/-- Characters that separate paragraphs. -/
def sentenceSeparator : CodeSet := .table "85 2028-2029"

/-- Lower case, without the letters whose upper case begins no sentence. -/
def sentenceLower : CodeSet :=
  lowercase.diff (graphemeExtend.union (.table "10D0-10FA 10FD-10FF"))

/-- Upper case, without letters that begin no sentence. -/
def sentenceUpper : CodeSet :=
  (GeneralCategory.titlecaseLetter.union uppercase).diff (.table "1C90-1CBA 1CBD-1CBF")

/-- The classes for the ends of sentences. -/
def sentence : Classes :=
  [(["aterm", "at"], fullStop),
    (["close", "cl"],
      (CodeSet.unions [GeneralCategory.openPunctuation, GeneralCategory.closePunctuation,
        GeneralCategory.initialPunctuation, GeneralCategory.finalPunctuation, quotation]).diff
        (.unions [.table "5F3", fullStop, sentenceEnd])),
    (["cr"], carriageReturn), (["extend", "ex"], sentenceExtend),
    (["format", "fo"],
      GeneralCategory.format.diff
        (.unions [joinControl, sentenceExtend, prependedConcatenationMark])),
    (["lf"], lineFeed), (["lower", "lo"], sentenceLower),
    (["numeric", "nu"], numeric.union (.table "66C")),
    (["oletter", "le"],
      (alphabetic.union (.table "5F3 70F")).diff
        (.unions [sentenceLower, sentenceUpper, sentenceExtend])),
    (["scontinue", "sc"],
      .table
        "2C-2D 3A-3B 37E 55D 60C-60D 7F8 1802 1808 2013-2014 3001 FE10-FE11 FE13-FE14 FE31-FE32
        FE50-FE51 FE54-FE55 FE58 FE63 FF0C-FF0D FF1A-FF1B FF64"),
    (["sep", "se"], sentenceSeparator),
    (["sp"], whiteSpace.diff (.unions [sentenceSeparator, carriageReturn, lineFeed])),
    (["sterm", "st"], sentenceEnd), (["upper", "up"], sentenceUpper)]

end MediaShelves.Text.Break
