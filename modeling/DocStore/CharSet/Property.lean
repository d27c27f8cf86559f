import DocStore.CharSet
import DocStore.Text.ScriptData

namespace DocStore.CharSet

-- A set and the names that it has.
structure Named where
  names : List String
  set : CharSet

def unassigned : CharSet := compl (runs Text.assigned)

-- The general categories and the groups of them.
def categories : List Named :=
  [
    ⟨["Any"], all⟩,
    ⟨["Assigned"], runs Text.assigned⟩,
    ⟨["ASCII"], ascii⟩,
    ⟨["C", "Other"], compl (runs Text.visible)⟩,
    ⟨["Cc", "Control", "cntrl"], runs Text.controls⟩,
    ⟨["Cf", "Format"], runs Text.formats⟩,
    ⟨["Cn", "Unassigned"], unassigned⟩,
    ⟨["Co", "Private_Use"], runs Text.privateUse⟩,
    ⟨["L", "Letter"], runs Text.letters⟩,
    ⟨["LC", "Cased_Letter"], runs Text.casedLetters⟩,
    ⟨["Ll", "Lowercase_Letter"], runs Text.smallLetters⟩,
    ⟨["Lm", "Modifier_Letter"], runs Text.modifierLetters⟩,
    ⟨["Lo", "Other_Letter"], runs Text.otherLetters⟩,
    ⟨["Lt", "Titlecase_Letter"], runs Text.titleLetters⟩,
    ⟨["Lu", "Uppercase_Letter"], runs Text.capitalLetters⟩,
    ⟨["M", "Mark", "Combining_Mark"], runs Text.marks⟩,
    ⟨["Mc", "Spacing_Mark"], runs Text.spacingMarks⟩,
    ⟨["Me", "Enclosing_Mark"], runs Text.enclosingMarks⟩,
    ⟨["Mn", "Nonspacing_Mark"], runs Text.flatMarks⟩,
    ⟨["N", "Number"], runs Text.numbers⟩,
    ⟨["Nd", "Decimal_Number", "digit"], runs Text.digitNumbers⟩,
    ⟨["Nl", "Letter_Number"], runs Text.letterNumbers⟩,
    ⟨["No", "Other_Number"], runs Text.otherNumbers⟩,
    ⟨["P", "Punctuation", "punct"], runs Text.punctuation⟩,
    ⟨["Pc", "Connector_Punctuation"], runs Text.connectors⟩,
    ⟨["Pd", "Dash_Punctuation"], runs Text.dashes⟩,
    ⟨["Pe", "Close_Punctuation"], runs Text.closingMarks⟩,
    ⟨["Pf", "Final_Punctuation"], runs Text.finalQuotes⟩,
    ⟨["Pi", "Initial_Punctuation"], runs Text.initialQuotes⟩,
    ⟨["Po", "Other_Punctuation"], runs Text.otherPunctuation⟩,
    ⟨["Ps", "Open_Punctuation"], runs Text.openingMarks⟩,
    ⟨["S", "Symbol"], runs Text.symbols⟩,
    ⟨["Sc", "Currency_Symbol"], runs Text.currencySymbols⟩,
    ⟨["Sk", "Modifier_Symbol"], runs Text.modifierSymbols⟩,
    ⟨["Sm", "Math_Symbol"], runs Text.mathSymbols⟩,
    ⟨["So", "Other_Symbol"], runs Text.otherSymbols⟩,
    ⟨["Z", "Separator"], runs Text.separators⟩,
    ⟨["Zl", "Line_Separator"], runs Text.lineSeparators⟩,
    ⟨["Zp", "Paragraph_Separator"], runs Text.paragraphSeparators⟩,
    ⟨["Zs", "Space_Separator"], runs Text.spaceSeparators⟩
  ]

def lowercase : CharSet := runs (Text.smallLetters ++ Text.otherLowercase)

def uppercase : CharSet := runs (Text.capitalLetters ++ Text.otherUppercase)

def cased : CharSet := union (runs Text.titleLetters) (union lowercase uppercase)

def changesWhenCasemapped : CharSet :=
  runs (Text.changesWhenLowercased ++ Text.changesWhenTitlecased ++ Text.changesWhenUppercased)

def defaultIgnorable : CharSet :=
  diff (runs (Text.otherDefaultIgnorableCodePoint ++ Text.formats ++ Text.variationSelector))
    (union blanks
      (union (runs Text.prependedConcatenationMark) (ranges [(0xfff9, 0xfffb), (0x13430, 0x13440)])))

def graphemeExtend : CharSet := runs (Text.flatMarks ++ Text.enclosingMarks ++ Text.otherGraphemeExtend)

def graphemeBase : CharSet :=
  diff
    (runs (Text.letters ++ Text.marks ++ Text.numbers ++ Text.punctuation ++ Text.symbols ++
      Text.spaceSeparators))
    graphemeExtend

def patternCharacters : CharSet := runs (Text.patternSyntax ++ Text.patternWhiteSpace)

def idStartRuns : List Text.Run := Text.letters ++ Text.letterNumbers ++ Text.otherIdStart

def idStart : CharSet := diff (runs idStartRuns) patternCharacters

def idContinue : CharSet :=
  diff
    (runs (idStartRuns ++ Text.flatMarks ++ Text.spacingMarks ++ Text.digitNumbers ++ Text.connectors ++
      Text.otherIdContinue))
    patternCharacters

-- Characters of identifiers that take others with them when they are decomposed.
def unstable : CharSet :=
  ranges
    [(0x37a, 0x37a), (0x309b, 0x309c), (0xfc5e, 0xfc63), (0xfdfa, 0xfdfb), (0xfe70, 0xfe70),
      (0xfe72, 0xfe72), (0xfe74, 0xfe74), (0xfe76, 0xfe76), (0xfe78, 0xfe78), (0xfe7a, 0xfe7a),
      (0xfe7c, 0xfe7c), (0xfe7e, 0xfe7e)]

-- Characters that start no identifier because they go on with one when they are decomposed.
def unstableStart : CharSet :=
  union unstable (ranges [(0xe33, 0xe33), (0xeb3, 0xeb3), (0xff9e, 0xff9f)])

-- The properties that a character has or has not.
def properties : List Named :=
  [
    ⟨["Alphabetic", "Alpha"], runs Text.alphabetic⟩,
    ⟨["ASCII_Hex_Digit", "AHex"], runs Text.asciiHexDigits⟩,
    ⟨["Bidi_Control", "Bidi_C"], runs Text.bidiControl⟩,
    ⟨["Bidi_Mirrored", "Bidi_M"], runs Text.bidiMirrored⟩,
    ⟨["Case_Ignorable", "CI"], ranges Text.caseIgnorable⟩,
    ⟨["Cased"], cased⟩,
    ⟨["Changes_When_Casefolded", "CWCF"], runs Text.changesWhenCasefolded⟩,
    ⟨["Changes_When_Casemapped", "CWCM"], changesWhenCasemapped⟩,
    ⟨["Changes_When_Lowercased", "CWL"], runs Text.changesWhenLowercased⟩,
    ⟨["Changes_When_Titlecased", "CWT"], runs Text.changesWhenTitlecased⟩,
    ⟨["Changes_When_Uppercased", "CWU"], runs Text.changesWhenUppercased⟩,
    ⟨["Dash"], runs Text.dash⟩,
    ⟨["Default_Ignorable_Code_Point", "DI"], defaultIgnorable⟩,
    ⟨["Deprecated", "Dep"], runs Text.deprecated⟩,
    ⟨["Diacritic", "Dia"], runs Text.diacritic⟩,
    ⟨["Emoji"], runs Text.emoji⟩,
    ⟨["Emoji_Component", "EComp"], runs Text.emojiComponent⟩,
    ⟨["Emoji_Modifier", "EMod"], runs Text.emojiModifier⟩,
    ⟨["Emoji_Modifier_Base", "EBase"], runs Text.emojiModifierBase⟩,
    ⟨["Emoji_Presentation", "EPres"], runs Text.emojiPresentation⟩,
    ⟨["Extended_Pictographic", "ExtPict"], runs Text.extendedPictographic⟩,
    ⟨["Extender", "Ext"], runs Text.extender⟩,
    ⟨["Grapheme_Base", "Gr_Base"], graphemeBase⟩,
    ⟨["Grapheme_Extend", "Gr_Ext"], graphemeExtend⟩,
    ⟨["Grapheme_Link", "Gr_Link"], runs Text.graphemeLink⟩,
    ⟨["Hex_Digit", "Hex"], runs Text.hexDigits⟩,
    ⟨["Hyphen"], runs Text.hyphen⟩,
    ⟨["ID_Compat_Math_Continue"], runs Text.idCompatMathContinue⟩,
    ⟨["ID_Compat_Math_Start"], runs Text.idCompatMathStart⟩,
    ⟨["ID_Continue", "IDC"], idContinue⟩,
    ⟨["ID_Start", "IDS"], idStart⟩,
    ⟨["Ideographic", "Ideo"], runs Text.ideographic⟩,
    ⟨["IDS_Binary_Operator", "IDSB"], runs Text.idsBinaryOperator⟩,
    ⟨["IDS_Trinary_Operator", "IDST"], runs Text.idsTrinaryOperator⟩,
    ⟨["IDS_Unary_Operator", "IDSU"], runs Text.idsUnaryOperator⟩,
    ⟨["Join_Control", "Join_C"], runs Text.joinControl⟩,
    ⟨["Logical_Order_Exception", "LOE"], runs Text.logicalOrderException⟩,
    ⟨["Lowercase", "Lower"], lowercase⟩,
    ⟨["Math"], runs (Text.mathSymbols ++ Text.otherMath)⟩,
    ⟨["Modifier_Combining_Mark", "MCM"], runs Text.modifierCombiningMark⟩,
    ⟨["Noncharacter_Code_Point", "NChar"], runs Text.noncharacterCodePoint⟩,
    ⟨["Other_Alphabetic", "OAlpha"], runs Text.otherAlphabetic⟩,
    ⟨["Other_Default_Ignorable_Code_Point", "ODI"], runs Text.otherDefaultIgnorableCodePoint⟩,
    ⟨["Other_Grapheme_Extend", "OGr_Ext"], runs Text.otherGraphemeExtend⟩,
    ⟨["Other_ID_Continue", "OIDC"], runs Text.otherIdContinue⟩,
    ⟨["Other_ID_Start", "OIDS"], runs Text.otherIdStart⟩,
    ⟨["Other_Lowercase", "OLower"], runs Text.otherLowercase⟩,
    ⟨["Other_Math", "OMath"], runs Text.otherMath⟩,
    ⟨["Other_Uppercase", "OUpper"], runs Text.otherUppercase⟩,
    ⟨["Pattern_Syntax", "Pat_Syn"], runs Text.patternSyntax⟩,
    ⟨["Pattern_White_Space", "Pat_WS"], runs Text.patternWhiteSpace⟩,
    ⟨["Prepended_Concatenation_Mark", "PCM"], runs Text.prependedConcatenationMark⟩,
    ⟨["Quotation_Mark", "QMark"], runs Text.quotationMark⟩,
    ⟨["Radical"], runs Text.radical⟩,
    ⟨["Regional_Indicator", "RI"], runs Text.regionalIndicator⟩,
    ⟨["Sentence_Terminal", "STerm"], runs Text.sentenceTerminal⟩,
    ⟨["Soft_Dotted", "SD"], runs Text.softDotted⟩,
    ⟨["Terminal_Punctuation", "Term"], runs Text.terminalPunctuation⟩,
    ⟨["Unified_Ideograph", "UIdeo"], runs Text.unifiedIdeograph⟩,
    ⟨["Uppercase", "Upper"], uppercase⟩,
    ⟨["Variation_Selector", "VS"], runs Text.variationSelector⟩,
    ⟨["White_Space", "WSpace", "space"], blanks⟩,
    ⟨["XID_Continue", "XIDC"], diff idContinue unstable⟩,
    ⟨["XID_Start", "XIDS"], diff idStart unstableStart⟩
  ]

def ofScript (s : Text.Script) : CharSet := runs (Text.readRuns s.own)

def isShared (s : Text.Script) : Bool := s.names.contains "Zyyy" || s.names.contains "Zinh"

-- The characters of a script and the ones that it uses as well. What is used
-- by scripts with names of their own counts as shared no more.
def ofExtendedScript (s : Text.Script) : CharSet :=
  if isShared s then diff (ofScript s) (runs (Text.readRuns (Text.scripts.flatMap (·.shared))))
  else runs (Text.readRuns (s.own ++ s.shared))

end DocStore.CharSet
