/-
This file holds the properties of characters that follow from their categories
and from listed sets, such as letters, cases and parts of identifiers.
-/

import ConsumerContract.Character.Category
import ConsumerContract.Character.Listed

namespace ConsumerContract.Character

/-- Small letters. -/
def lowercase : Ranges :=
  Category.lowercaseLetter.ranges.union otherLowercase

/-- Capital letters. -/
def uppercase : Ranges :=
  Category.uppercaseLetter.ranges.union otherUppercase

/-- Letters in the wide sense. -/
def alphabetic : Ranges :=
  .unions [lowercase, uppercase, otherAlphabetic,
    Category.rangesOfAny [.titlecaseLetter, .modifierLetter, .otherLetter, .letterNumber]]

/-- Letters that are small, capital or in between. -/
def cased : Ranges :=
  .unions [lowercase, uppercase, Category.titlecaseLetter.ranges]

/-- Characters that are looked through when the case of a word is asked. -/
def caseIgnorable : Ranges :=
  .union insideWords <|
    Category.rangesOfAny
      [.nonspacingMark, .enclosingMark, .format, .modifierLetter, .modifierSymbol]

/-- Characters that change in small letters. -/
def changedInSmall : Ranges :=
  (uppercase.union Category.titlecaseLetter.ranges).difference withoutSmallLetter

/-- Characters that change in capital letters. -/
def changedInCapitals : Ranges :=
  (lowercase.difference withoutCapitalLetter).union capitalsChange

/-- Characters that change at the start of a title. -/
def changedInTitles : Ranges :=
  (changedInCapitals.difference unchangedInTitles).union titlesChange

/-- Characters that change in some case. -/
def changedByCase : Ranges :=
  .unions [changedInSmall, changedInCapitals, changedInTitles]

/-- Characters that change when case is folded. -/
def changedByFolding : Ranges :=
  (changedInSmall.difference smallOnly).union foldedOnly

/-- Characters that extend the one in front. -/
def graphemeExtend : Ranges :=
  (Category.rangesOfAny [.nonspacingMark, .enclosingMark]).union otherGraphemeExtend

/-- Characters that others extend. -/
def graphemeBase : Ranges :=
  Ranges.all.difference <| .unions [graphemeExtend, Category.unassigned,
    Category.rangesOfAny [.control, .format, .privateUse, .lineSeparator, .paragraphSeparator]]

/-- Characters that are not shown where they are not supported. -/
def ignorable : Ranges :=
  (Ranges.unions [otherIgnorable, Category.format.ranges, variationSelectors]).difference <|
    .unions [blanks, .ofText "FFF9-FFFB 13430-13440", prependedMarks]

/-- Characters that start an identifier. -/
def identifierStarts : Ranges :=
  ((Category.rangesOfAny (.letterNumber :: Category.letters)).union
    otherIdentifierStarts).difference (patternSyntax.union patternBlanks)

/-- Characters of an identifier. -/
def identifierParts : Ranges :=
  .unions [identifierStarts, otherIdentifierParts,
    Category.rangesOfAny [.nonspacingMark, .spacingMark, .decimalNumber, .connectorPunctuation]]

/-- Starts of identifiers that stay so when they are decomposed. -/
def stableIdentifierStarts : Ranges :=
  identifierStarts.difference unstableStarts

/-- Parts of identifiers that stay so when they are decomposed. -/
def stableIdentifierParts : Ranges :=
  identifierParts.difference unstableParts

/-- Characters of mathematics. -/
def mathematical : Ranges :=
  Category.mathSymbol.ranges.union otherMath

/-- Decimal digits of any script. -/
def digits : Ranges :=
  Category.decimalNumber.ranges

/-- Word characters: letters, marks, digits, connectors and joiners. -/
def wordChars : Ranges :=
  .unions [alphabetic, joinControls,
    Category.rangesOfAny (.decimalNumber :: .connectorPunctuation :: Category.marks)]

/-! ### Questions about one character -/

/-- Whether a character is a blank. -/
def isBlank (char : Char) : Bool :=
  blanks.contains char

/-- Whether a character is a letter. -/
def isLetter (char : Char) : Bool :=
  alphabetic.contains char

/-- Numbers of any script. -/
def numbers : Ranges :=
  Category.rangesOfAny Category.numbers

/-- Whether a character is a letter or a number. -/
def isLetterOrNumber (char : Char) : Bool :=
  alphabetic.contains char || numbers.contains char

/-- A text without blanks at its ends. -/
def trimmed (text : List Char) : List Char :=
  ((text.dropWhile isBlank).reverse.dropWhile isBlank).reverse

end ConsumerContract.Character
