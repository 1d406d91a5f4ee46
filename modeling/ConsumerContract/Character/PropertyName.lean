/-
This file finds sets of characters by the names of properties. Names are compared
loosely: case, blanks, hyphens and underscores do not count, nor does "is" in
front. A name alone may be that of a property, a category or a script; a name
with a value asks for the characters that have this value.
-/

import ConsumerContract.Character.Age
import ConsumerContract.Character.TextBreak

namespace ConsumerContract.Character

/-! ### Names -/

/-- What of a name counts. -/
def plainChars (chars : List Char) : List Char :=
  (chars.filter fun char =>
    char ≠ ' ' && char ≠ '_' && char ≠ '-' && char.toNat < 0x80).map Char.toLower

/-- What of a name counts, without "is" in front. The name "isc" is left, as "c" would
stand for something else. -/
def plainName (name : String) : List Char :=
  match name.toList with
  | i :: s :: rest =>
    if i.toLower = 'i' ∧ s.toLower = 's' then
      let plain := plainChars rest
      if plain = ['c'] then ['i', 's', 'c'] else plain
    else plainChars (i :: s :: rest)
  | chars => plainChars chars

/-- Whether one of some names is the one asked for. -/
def isNamed (names : List String) (plain : List Char) : Bool :=
  names.any fun name => plainName name = plain

/-- The set with a name. -/
def findNamed (sets : List NamedRanges) (plain : List Char) : Option Ranges :=
  (sets.find? fun set => isNamed set.names plain).map (·.ranges)

/-! ### Properties that a character has or has not -/

/-- The properties with their names. -/
def properties : List NamedRanges :=
  [⟨["ASCII_Hex_Digit", "AHex"], asciiHexDigits⟩,
    ⟨["Alphabetic", "Alpha"], alphabetic⟩,
    ⟨["Bidi_Control", "Bidi_C"], directionControls⟩,
    ⟨["Bidi_Mirrored", "Bidi_M"], mirrored⟩,
    ⟨["Case_Ignorable", "CI"], caseIgnorable⟩,
    ⟨["Cased"], cased⟩,
    ⟨["Changes_When_Casefolded", "CWCF"], changedByFolding⟩,
    ⟨["Changes_When_Casemapped", "CWCM"], changedByCase⟩,
    ⟨["Changes_When_Lowercased", "CWL"], changedInSmall⟩,
    ⟨["Changes_When_Titlecased", "CWT"], changedInTitles⟩,
    ⟨["Changes_When_Uppercased", "CWU"], changedInCapitals⟩,
    ⟨["Dash"], dashes⟩,
    ⟨["Default_Ignorable_Code_Point", "DI"], ignorable⟩,
    ⟨["Deprecated", "Dep"], deprecated⟩,
    ⟨["Diacritic", "Dia"], diacritics⟩,
    ⟨["Emoji"], emoji⟩,
    ⟨["Emoji_Component", "EComp"], emojiComponents⟩,
    ⟨["Emoji_Modifier", "EMod"], emojiModifiers⟩,
    ⟨["Emoji_Modifier_Base", "EBase"], emojiModifierBases⟩,
    ⟨["Emoji_Presentation", "EPres"], emojiPresentations⟩,
    ⟨["Extended_Pictographic", "ExtPict"], pictographs⟩,
    ⟨["Extender", "Ext"], extenders⟩,
    ⟨["Grapheme_Base", "Gr_Base"], graphemeBase⟩,
    ⟨["Grapheme_Extend", "Gr_Ext"], graphemeExtend⟩,
    ⟨["Grapheme_Link", "Gr_Link"], graphemeLinks⟩,
    ⟨["Hex_Digit", "Hex"], hexDigits⟩,
    ⟨["Hyphen"], hyphens⟩,
    ⟨["IDS_Binary_Operator", "IDSB"], binaryIdeographOperators⟩,
    ⟨["IDS_Trinary_Operator", "IDST"], trinaryIdeographOperators⟩,
    ⟨["IDS_Unary_Operator", "IDSU"], unaryIdeographOperators⟩,
    ⟨["ID_Compat_Math_Continue"], mathIdentifierParts⟩,
    ⟨["ID_Compat_Math_Start"], mathIdentifierStarts⟩,
    ⟨["ID_Continue", "IDC"], identifierParts⟩,
    ⟨["ID_Start", "IDS"], identifierStarts⟩,
    ⟨["Ideographic", "Ideo"], ideographs⟩,
    ⟨["Join_Control", "Join_C"], joinControls⟩,
    ⟨["Logical_Order_Exception", "LOE"], writtenFirst⟩,
    ⟨["Lowercase", "Lower"], lowercase⟩,
    ⟨["Math"], mathematical⟩,
    ⟨["Modifier_Combining_Mark", "MCM"], modifierMarks⟩,
    ⟨["Noncharacter_Code_Point", "NChar"], noncharacters⟩,
    ⟨["Other_Alphabetic", "OAlpha"], otherAlphabetic⟩,
    ⟨["Other_Default_Ignorable_Code_Point", "ODI"], otherIgnorable⟩,
    ⟨["Other_Grapheme_Extend", "OGr_Ext"], otherGraphemeExtend⟩,
    ⟨["Other_ID_Continue", "OIDC"], otherIdentifierParts⟩,
    ⟨["Other_ID_Start", "OIDS"], otherIdentifierStarts⟩,
    ⟨["Other_Lowercase", "OLower"], otherLowercase⟩,
    ⟨["Other_Math", "OMath"], otherMath⟩,
    ⟨["Other_Uppercase", "OUpper"], otherUppercase⟩,
    ⟨["Pattern_Syntax", "Pat_Syn"], patternSyntax⟩,
    ⟨["Pattern_White_Space", "Pat_WS"], patternBlanks⟩,
    ⟨["Prepended_Concatenation_Mark", "PCM"], prependedMarks⟩,
    ⟨["Quotation_Mark", "QMark"], quotationMarks⟩,
    ⟨["Radical"], radicals⟩,
    ⟨["Regional_Indicator", "RI"], regionalIndicators⟩,
    ⟨["Sentence_Terminal", "STerm"], sentenceEnds⟩,
    ⟨["Soft_Dotted", "SD"], softDotted⟩,
    ⟨["Terminal_Punctuation", "Term"], terminalPunctuation⟩,
    ⟨["Unified_Ideograph", "UIdeo"], unifiedIdeographs⟩,
    ⟨["Uppercase", "Upper"], uppercase⟩,
    ⟨["Variation_Selector", "VS"], variationSelectors⟩,
    ⟨["White_Space", "WSpace", "space"], blanks⟩,
    ⟨["XID_Continue", "XIDC"], stableIdentifierParts⟩,
    ⟨["XID_Start", "XIDS"], stableIdentifierStarts⟩]

/-! ### Categories and scripts -/

/-- Groups of categories, and sets that go with them. -/
def categoryGroups : List NamedRanges :=
  [⟨["L", "Letter"], Category.rangesOfAny Category.letters⟩,
    ⟨["LC", "Cased_Letter"], Category.rangesOfAny
      [.uppercaseLetter, .lowercaseLetter, .titlecaseLetter]⟩,
    ⟨["M", "Mark", "Combining_Mark"], Category.rangesOfAny Category.marks⟩,
    ⟨["N", "Number"], Category.rangesOfAny Category.numbers⟩,
    ⟨["P", "Punctuation", "punct"], Category.rangesOfAny Category.punctuation⟩,
    ⟨["S", "Symbol"], Category.rangesOfAny Category.symbols⟩,
    ⟨["Z", "Separator"], Category.rangesOfAny Category.separators⟩,
    ⟨["C", "Other"], Ranges.all.difference (Category.rangesOfAny
      (Category.letters ++ Category.marks ++ Category.numbers ++ Category.punctuation ++
        Category.symbols ++ Category.separators))⟩,
    ⟨["Cn", "Unassigned"], Category.unassigned⟩,
    ⟨["Assigned"], Category.unassigned.complement⟩,
    ⟨["ASCII"], .span 0 0x7F⟩,
    ⟨["Any"], .all⟩]

/-- The category to which no character belongs. -/
def emptyCategory : List String :=
  ["Cs", "Surrogate"]

/-- The set of a category or a group of categories. -/
def categoryNamed (plain : List Char) : Option Ranges :=
  match Category.all.find? fun category => isNamed category.names plain with
  | some category => some category.ranges
  | none => findNamed categoryGroups plain

/-- The script with a name. -/
def scriptNamed (plain : List Char) : Option Script :=
  Script.all.find? fun script => isNamed script.names plain

/-! ### Looking up -/

/-- Why no set is found. -/
inductive NameFault where
  | unknownProperty
  | unknownValue
  deriving DecidableEq, Repr

/-- A set, or the fault where there is none. -/
def orFault (fault : NameFault) (ranges : Option Ranges) : Except NameFault Ranges :=
  match ranges with
  | some ranges => .ok ranges
  | none => .error fault

/-- Short names of categories that are those of properties with values as well. -/
def categoriesFirst : List (List Char) :=
  [['c', 'f'], ['s', 'c'], ['l', 'c']]

/-- The set that a name alone stands for. -/
def rangesNamed (name : String) : Except NameFault Ranges :=
  let plain := plainName name
  let property := if categoriesFirst.contains plain then none else findNamed properties plain
  match property, categoryNamed plain, scriptNamed plain with
  | some ranges, _, _ => .ok ranges
  | none, some ranges, _ => .ok ranges
  | none, none, some script => .ok script.ranges
  | none, none, none =>
    if isNamed (emptyCategory ++ Script.withoutCharacters.flatten) plain then
      .error .unknownValue
    else .error .unknownProperty

/-- Names of the other properties, which have values of other kinds. -/
def otherProperties : List String :=
  ["Bidi_Class", "bc", "Bidi_Mirroring_Glyph", "bmg", "Bidi_Paired_Bracket", "bpb",
    "Bidi_Paired_Bracket_Type", "bpt", "Block", "blk", "Canonical_Combining_Class", "ccc",
    "Case_Folding", "cf", "Changes_When_NFKC_Casefolded", "CWKCF", "Composition_Exclusion", "CE",
    "Decomposition_Mapping", "dm", "Decomposition_Type", "dt", "East_Asian_Width", "ea",
    "Equivalent_Unified_Ideograph", "EqUIdeo", "Expands_On_NFC", "XO_NFC", "Expands_On_NFD",
    "XO_NFD", "Expands_On_NFKC", "XO_NFKC", "Expands_On_NFKD", "XO_NFKD", "FC_NFKC_Closure",
    "FC_NFKC", "Full_Composition_Exclusion", "Comp_Ex", "Hangul_Syllable_Type", "hst",
    "Indic_Conjunct_Break", "InCB", "Indic_Positional_Category", "InPC",
    "Indic_Syllabic_Category", "InSC", "ISO_Comment", "isc", "Jamo_Short_Name", "JSN",
    "Joining_Group", "jg", "Joining_Type", "jt", "Line_Break", "lb", "Lowercase_Mapping", "lc",
    "Name", "na", "Name_Alias", "NFC_Quick_Check", "NFC_QC", "NFD_Quick_Check", "NFD_QC",
    "NFKC_Casefold", "NFKC_CF", "NFKC_Quick_Check", "NFKC_QC", "NFKC_Simple_Casefold",
    "NFKC_SCF", "NFKD_Quick_Check", "NFKD_QC", "Numeric_Type", "nt", "Numeric_Value", "nv",
    "Simple_Case_Folding", "scf", "sfc", "Simple_Lowercase_Mapping", "slc",
    "Simple_Titlecase_Mapping", "stc", "Simple_Uppercase_Mapping", "suc", "Titlecase_Mapping",
    "tc", "Unicode_1_Name", "na1", "Uppercase_Mapping", "uc", "Vertical_Orientation", "vo",
    "cjkAccountingNumeric", "kAccountingNumeric", "cjkCompatibilityVariant",
    "kCompatibilityVariant", "cjkIICore", "kIICore", "cjkIRG_GSource", "kIRG_GSource",
    "cjkIRG_HSource", "kIRG_HSource", "cjkIRG_JSource", "kIRG_JSource", "cjkIRG_KPSource",
    "kIRG_KPSource", "cjkIRG_KSource", "kIRG_KSource", "cjkIRG_MSource", "kIRG_MSource",
    "cjkIRG_SSource", "kIRG_SSource", "cjkIRG_TSource", "kIRG_TSource", "cjkIRG_UKSource",
    "kIRG_UKSource", "cjkIRG_USource", "kIRG_USource", "cjkIRG_VSource", "kIRG_VSource",
    "cjkOtherNumeric", "kOtherNumeric", "cjkPrimaryNumeric", "kPrimaryNumeric", "cjkRSUnicode",
    "kRSUnicode", "Unicode_Radical_Stroke", "URS", "kEH_Cat", "kEH_Desc", "kEH_HG", "kEH_IFAO",
    "kEH_JSesh", "kEH_NoMirror", "kEH_NoRotate"]

/-- The set of characters with a value of a property. -/
def rangesValued (name value : String) : Except NameFault Ranges :=
  let property := plainName name
  let plain := plainName value
  let found (ranges : Option Ranges) := orFault .unknownValue ranges
  if isNamed ["General_Category", "gc"] property then found (categoryNamed plain)
  else if isNamed ["Script", "sc"] property then found ((scriptNamed plain).map Script.ranges)
  else if isNamed ["Script_Extensions", "scx"] property then
    found ((scriptNamed plain).map Script.extended)
  else if isNamed ["Age"] property then
    found ((Age.all.find? fun age => isNamed age.names plain).map Age.rangesUpTo)
  else if isNamed ["Grapheme_Cluster_Break", "GCB"] property then
    found (findNamed graphemeClasses plain)
  else if isNamed ["Word_Break", "WB"] property then found (findNamed wordClasses plain)
  else if isNamed ["Sentence_Break", "SB"] property then found (findNamed sentenceClasses plain)
  else if isNamed otherProperties property ∨ (findNamed properties property).isSome then
    .error .unknownValue
  else .error .unknownProperty

end ConsumerContract.Character
