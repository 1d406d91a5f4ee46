/-
This file holds the classes that decide where a text is broken into characters
as readers see them, into words and into sentences. Each class has its names and
follows from properties and scripts, apart from a few characters.
-/

import ConsumerContract.Character.Property
import ConsumerContract.Character.Script

namespace ConsumerContract.Character

/-- A class with its names and characters. -/
structure NamedRanges where
  names : List String
  ranges : Ranges
  deriving Repr, Inhabited

/-- Some characters, written as ranges. -/
def NamedRanges.listed (names : List String) (text : String) : NamedRanges :=
  ⟨names, .ofText text⟩

/-- The characters of a script by its name. -/
def scriptRanges (name : String) : Ranges :=
  .unions ((Script.all.filter fun script => script.names.contains name).map Script.ranges)

/-- The end of a line in two characters, of which each is a class of its own. -/
def lineEndClasses : List NamedRanges :=
  [.listed ["CR"] "D", .listed ["LF"] "A"]

/-! ### Characters as readers see them -/

/-- Marks that extend the character in front. -/
def graphemeExtendClass : Ranges :=
  graphemeExtend.union emojiModifiers

/-- Controls, formats and invisible characters. -/
def graphemeControlClass : Ranges :=
  (Ranges.unions [Category.rangesOfAny [.lineSeparator, .paragraphSeparator, .control, .format],
    Category.unassigned.intersection ignorable]).difference <|
      .unions [.ofText "A D 200C-200D", prependedMarks, graphemeExtendClass]

/-- Spacing marks that stay with the character in front. -/
def graphemeSpacingClass : Ranges :=
  ((Category.spacingMark.ranges.difference graphemeExtendClass).union
    (.ofText "E33 EB3")).difference <| .ofText <|
      "102B-102C 1038 1062-1064 1067-106D 1083 1087-108C 108F 109A-109C 1A61 1A63-1A64 AA7B " ++
      "AA7D 11720-11721"

/-- Syllables of Korean are numbered in groups of 28, of which the first has no final consonant. -/
def openSyllables : Ranges :=
  ⟨(List.range 399).map fun number => (0xAC00 + 28 * number, 0xAC00 + 28 * number)⟩

/-- The classes of characters as readers see them. -/
def graphemeClasses : List NamedRanges :=
  lineEndClasses ++
  [⟨["Control", "CN"], graphemeControlClass⟩,
    ⟨["Extend", "EX"], graphemeExtendClass⟩,
    ⟨["SpacingMark", "SM"], graphemeSpacingClass⟩,
    ⟨["Prepend", "PP"], prependedMarks.union (.ofText
      "D4E 111C2-111C3 113D1 1193F 11941 11A3A 11A84-11A89 11D46 11F02")⟩,
    ⟨["Regional_Indicator", "RI"], regionalIndicators⟩,
    .listed ["L"] "1100-115F A960-A97C",
    .listed ["V"] "1160-11A7 D7B0-D7C6 16D63 16D67-16D6A",
    .listed ["T"] "11A8-11FF D7CB-D7FB",
    ⟨["LV"], openSyllables⟩,
    ⟨["LVT"], (Ranges.span 0xAC00 0xD7A3).difference openSyllables⟩,
    .listed ["ZWJ"] "200D"]

/-! ### Words -/

/-- Marks that extend the character in front. -/
def wordExtendClass : Ranges :=
  (Ranges.unions [graphemeExtend, Category.spacingMark.ranges, emojiModifiers]).difference
    (.ofText "200D")

/-- Signs around numbers, which belong to the number. -/
def numberSigns : Ranges :=
  prependedMarks.difference (.ofText "70F")

/-- Letters of Hebrew. -/
def hebrewLetters : Ranges :=
  Category.otherLetter.ranges.intersection (scriptRanges "Hebrew")

/-- Characters of Katakana. -/
def katakana : Ranges :=
  (scriptRanges "Katakana").union (.ofText "3031-3035 309B-309C 30A0 30FC FF70")

/-- Letters of scripts that write words without blanks between them. -/
def unseparatedLetters : Ranges :=
  .unions [scriptRanges "Hiragana", scriptRanges "Thai", scriptRanges "Lao", ideographs,
    .ofText <|
      "1000-102A 103F 1050-1055 105A-105D 1061 1065-1066 106E-1070 1075-1081 108E 1780-17B3 " ++
      "17D7 17DC 1950-196D 1970-1974 1980-19AB 19B0-19C9 1A20-1A54 1AA7 A9E0-A9E4 A9E6-A9EF " ++
      "A9FA-A9FE AA60-AA76 AA7A AA7E-AAAF AAB1 AAB5-AAB6 AAB9-AABD AAC0 AAC2 AADB-AADD " ++
      "11700-1171A 11740-11746"]

/-- Letters of words. -/
def wordLetterClass : Ranges :=
  (alphabetic.difference (.unions
    [unseparatedLetters, katakana, hebrewLetters, wordExtendClass])).union <| .ofText <|
      "2C2-2C5 2D2-2D7 2DE-2DF 2E5-2EB 2ED 2EF-2FF 55A-55C 55E 58A 5F3 A708-A716 A720-A721 " ++
      "A789-A78A AB5B"

/-- The classes of characters for words. -/
def wordClasses : List NamedRanges :=
  lineEndClasses ++
  [⟨["ALetter", "LE"], wordLetterClass⟩,
    .listed ["Double_Quote", "DQ"] "22",
    ⟨["Extend"], wordExtendClass⟩,
    ⟨["ExtendNumLet", "EX"], Category.connectorPunctuation.ranges.union (.ofText "202F")⟩,
    ⟨["Format", "FO"], Category.format.ranges.difference
      (.unions [.ofText "200B 200D", wordExtendClass, numberSigns])⟩,
    ⟨["Hebrew_Letter", "HL"], hebrewLetters⟩,
    ⟨["Katakana", "KA"], katakana⟩,
    .listed ["MidLetter", "ML"] "3A B7 387 55F 5F4 2027 FE13 FE55 FF1A",
    .listed ["MidNum", "MN"]
      "2C 3B 37E 589 60C-60D 66C 7F8 2044 FE10 FE14 FE50 FE54 FF0C FF1B",
    .listed ["MidNumLet", "MB"] "2E 2018-2019 2024 FE52 FF07 FF0E",
    .listed ["Newline", "NL"] "B-C 85 2028-2029",
    ⟨["Numeric", "NU"], .unions [Category.decimalNumber.ranges, .ofText "66B", numberSigns]⟩,
    ⟨["Regional_Indicator", "RI"], regionalIndicators⟩,
    .listed ["Single_Quote", "SQ"] "27",
    .listed ["WSegSpace"] "20 1680 2000-2006 2008-200A 205F 3000",
    .listed ["ZWJ"] "200D"]

/-! ### Sentences -/

/-- Marks that extend the character in front. -/
def sentenceExtendClass : Ranges :=
  .unions [graphemeExtend, Category.spacingMark.ranges, .ofText "200D"]

/-- Letters of Georgian, of which the capital ones are used for whole words only. -/
def georgianLetters : Ranges :=
  .ofText "10D0-10FA 10FD-10FF 1C90-1CBA 1CBD-1CBF"

/-- Small letters. -/
def sentenceLowerClass : Ranges :=
  (lowercase.difference graphemeExtend).difference georgianLetters

/-- Capital letters. -/
def sentenceUpperClass : Ranges :=
  (uppercase.union Category.titlecaseLetter.ranges).difference georgianLetters

/-- Points that end sentences and other things. -/
def points : Ranges :=
  .ofText "2E 2024 FE52 FF0E"

/-- The classes of characters for sentences. -/
def sentenceClasses : List NamedRanges :=
  lineEndClasses ++
  [⟨["ATerm", "AT"], points⟩,
    ⟨["Close", "CL"], (Ranges.unions
      [Category.rangesOfAny [.openPunctuation, .closePunctuation, .initialPunctuation,
        .finalPunctuation], quotationMarks,
        .ofText "275B-2760 2E00-2E01 2E06-2E08 2E0B 1F676-1F678"]).difference
          (.ofText "FF02 FF07")⟩,
    ⟨["Extend", "EX"], sentenceExtendClass⟩,
    ⟨["Format", "FO"], Category.format.ranges.difference
      (.unions [.ofText "200C-200D", graphemeExtend, numberSigns])⟩,
    ⟨["Lower", "LO"], sentenceLowerClass⟩,
    ⟨["Numeric", "NU"], .unions [Category.decimalNumber.ranges, .ofText "66B-66C", numberSigns]⟩,
    ⟨["OLetter", "LE"], (alphabetic.union (.ofText "5F3")).difference
      (.unions [sentenceLowerClass, sentenceUpperClass, sentenceExtendClass])⟩,
    .listed ["SContinue", "SC"] <|
      "2C-2D 3A 55D 60C-60D 7F8 1802 1808 2013-2014 3001 FE10-FE11 FE13 FE31-FE32 FE50-FE51 " ++
      "FE55 FE58 FE63 FF0C-FF0D FF1A FF64",
    ⟨["STerm", "ST"], sentenceEnds.difference points⟩,
    .listed ["Sep", "SE"] "85 2028-2029",
    ⟨["Sp", "SP"], blanks.difference (.ofText "A D 85 2028-2029")⟩,
    ⟨["Upper", "UP"], sentenceUpperClass⟩]

end ConsumerContract.Character
