import DocStore.Regex
import DocStore.Text.CategoryData

namespace DocStore.Regex.Property

def normalize (name : String) : String :=
  let kept := (name.toList.filter fun c => !Text.isBlank c && c != '-' && c != '_').map Char.toLower
  match kept with
  | ['i', 's', 'c'] => "isc"
  | 'i' :: 's' :: rest => String.ofList rest
  | kept => String.ofList kept

def unionOf (tables : List (List Text.Run)) : CharSet := .runs tables.flatten

def letters : List (List Text.Run) :=
  [Text.capitalLetters, Text.smallLetters, Text.titleLetters, Text.modifierLetters, Text.otherLetters]

def marks : List (List Text.Run) := [Text.flatMarks, Text.spacingMarks, Text.enclosingMarks]

def numbers : List (List Text.Run) := [Text.digitNumbers, Text.letterNumbers, Text.otherNumbers]

def punctuation : List (List Text.Run) :=
  [Text.connectors, Text.dashes, Text.openingMarks, Text.closingMarks, Text.initialQuotes,
    Text.finalQuotes, Text.otherPunctuation]

def symbols : List (List Text.Run) :=
  [Text.mathSymbols, Text.currencySymbols, Text.modifierSymbols, Text.otherSymbols]

def separators : List (List Text.Run) :=
  [Text.spaceSeparators, Text.lineSeparators, Text.paragraphSeparators]

def others : List (List Text.Run) := [Text.controls, Text.formats, Text.privateUse]

def assigned : List (List Text.Run) :=
  letters ++ marks ++ numbers ++ punctuation ++ symbols ++ separators ++ others

-- A set of general categories by its short or long name.
def category? : String → Option CharSet
  | "l" => some (unionOf letters)
  | "letter" => some (unionOf letters)
  | "lc" => some (unionOf (letters.take 3))
  | "casedletter" => some (unionOf (letters.take 3))
  | "m" => some (unionOf marks)
  | "mark" => some (unionOf marks)
  | "combiningmark" => some (unionOf marks)
  | "n" => some (unionOf numbers)
  | "number" => some (unionOf numbers)
  | "p" => some (unionOf punctuation)
  | "punctuation" => some (unionOf punctuation)
  | "punct" => some (unionOf punctuation)
  | "s" => some (unionOf symbols)
  | "symbol" => some (unionOf symbols)
  | "z" => some (unionOf separators)
  | "separator" => some (unionOf separators)
  | "c" => some (.compl (unionOf (assigned.take (assigned.length - 3))))
  | "other" => some (.compl (unionOf (assigned.take (assigned.length - 3))))
  | "cn" => some (.compl (unionOf assigned))
  | "unassigned" => some (.compl (unionOf assigned))
  | "assigned" => some (unionOf assigned)
  | "any" => some CharSet.all
  | "ascii" => some (.ranges [(0, 0x7f)])
  | "lu" => some (.runs Text.capitalLetters)
  | "uppercaseletter" => some (.runs Text.capitalLetters)
  | "ll" => some (.runs Text.smallLetters)
  | "lowercaseletter" => some (.runs Text.smallLetters)
  | "lt" => some (.runs Text.titleLetters)
  | "titlecaseletter" => some (.runs Text.titleLetters)
  | "lm" => some (.runs Text.modifierLetters)
  | "modifierletter" => some (.runs Text.modifierLetters)
  | "lo" => some (.runs Text.otherLetters)
  | "otherletter" => some (.runs Text.otherLetters)
  | "mn" => some (.runs Text.flatMarks)
  | "nonspacingmark" => some (.runs Text.flatMarks)
  | "mc" => some (.runs Text.spacingMarks)
  | "spacingmark" => some (.runs Text.spacingMarks)
  | "me" => some (.runs Text.enclosingMarks)
  | "enclosingmark" => some (.runs Text.enclosingMarks)
  | "nd" => some (.runs Text.digitNumbers)
  | "decimalnumber" => some (.runs Text.digitNumbers)
  | "digit" => some (.runs Text.digitNumbers)
  | "nl" => some (.runs Text.letterNumbers)
  | "letternumber" => some (.runs Text.letterNumbers)
  | "no" => some (.runs Text.otherNumbers)
  | "othernumber" => some (.runs Text.otherNumbers)
  | "pc" => some (.runs Text.connectors)
  | "connectorpunctuation" => some (.runs Text.connectors)
  | "pd" => some (.runs Text.dashes)
  | "dashpunctuation" => some (.runs Text.dashes)
  | "ps" => some (.runs Text.openingMarks)
  | "openpunctuation" => some (.runs Text.openingMarks)
  | "pe" => some (.runs Text.closingMarks)
  | "closepunctuation" => some (.runs Text.closingMarks)
  | "pi" => some (.runs Text.initialQuotes)
  | "initialpunctuation" => some (.runs Text.initialQuotes)
  | "pf" => some (.runs Text.finalQuotes)
  | "finalpunctuation" => some (.runs Text.finalQuotes)
  | "po" => some (.runs Text.otherPunctuation)
  | "otherpunctuation" => some (.runs Text.otherPunctuation)
  | "sm" => some (.runs Text.mathSymbols)
  | "mathsymbol" => some (.runs Text.mathSymbols)
  | "sc" => some (.runs Text.currencySymbols)
  | "currencysymbol" => some (.runs Text.currencySymbols)
  | "sk" => some (.runs Text.modifierSymbols)
  | "modifiersymbol" => some (.runs Text.modifierSymbols)
  | "so" => some (.runs Text.otherSymbols)
  | "othersymbol" => some (.runs Text.otherSymbols)
  | "zs" => some (.runs Text.spaceSeparators)
  | "spaceseparator" => some (.runs Text.spaceSeparators)
  | "zl" => some (.runs Text.lineSeparators)
  | "lineseparator" => some (.runs Text.lineSeparators)
  | "zp" => some (.runs Text.paragraphSeparators)
  | "paragraphseparator" => some (.runs Text.paragraphSeparators)
  | "cc" => some (.runs Text.controls)
  | "control" => some (.runs Text.controls)
  | "cntrl" => some (.runs Text.controls)
  | "cf" => some (.runs Text.formats)
  | "format" => some (.runs Text.formats)
  | "co" => some (.runs Text.privateUse)
  | "privateuse" => some (.runs Text.privateUse)
  | _ => none

-- A property that a character has or has not.
def binary? : String → Option CharSet
  | "alphabetic" => some (.runs Text.alphabetic)
  | "alpha" => some (.runs Text.alphabetic)
  | "lowercase" => some (.union (.ranges [(0x61, 0x7a)]) (.runs Text.lowercase))
  | "lower" => some (.union (.ranges [(0x61, 0x7a)]) (.runs Text.lowercase))
  | "uppercase" => some (.union (.ranges [(0x41, 0x5a)]) (.runs Text.uppercase))
  | "upper" => some (.union (.ranges [(0x41, 0x5a)]) (.runs Text.uppercase))
  | "whitespace" => some .blanks
  | "wspace" => some .blanks
  | "space" => some .blanks
  | "caseignorable" => some (.ranges Text.caseIgnorable)
  | "ci" => some (.ranges Text.caseIgnorable)
  | _ => none

def isCategoryProperty (name : String) : Bool := name == "gc" || name == "generalcategory"

-- The set that a name stands for, and whether the name turns it around.
def find? (text : String) : Option (Bool × CharSet) :=
  let byValue (turned : Bool) (property value : String) : Option (Bool × CharSet) :=
    if isCategoryProperty (normalize property) then (category? (normalize value)).map (turned, ·) else none
  match Text.splitOnce? '=' text with
  | some (property, value) =>
    if property.toList.getLast? = some '!' then
      byValue true (String.ofList property.toList.dropLast) value
    else byValue false property value
  | none =>
    match Text.splitOnce? ':' text with
    | some (property, value) => byValue false property value
    | none =>
      let name := normalize text
      match binary? name with
      | some set => some (false, set)
      | none => (category? name).map (false, ·)

end DocStore.Regex.Property
