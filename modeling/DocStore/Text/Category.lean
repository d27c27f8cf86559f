import DocStore.Text.CategoryData
import DocStore.Text.PropertyData
import DocStore.Text.Spans

namespace DocStore.Text

def casedLetters : List Run := capitalLetters ++ smallLetters ++ titleLetters

def letters : List Run := casedLetters ++ modifierLetters ++ otherLetters

def marks : List Run := flatMarks ++ spacingMarks ++ enclosingMarks

def numbers : List Run := digitNumbers ++ letterNumbers ++ otherNumbers

def punctuation : List Run :=
  connectors ++ dashes ++ openingMarks ++ closingMarks ++ initialQuotes ++ finalQuotes ++ otherPunctuation

def symbols : List Run := mathSymbols ++ currencySymbols ++ modifierSymbols ++ otherSymbols

def separators : List Run := spaceSeparators ++ lineSeparators ++ paragraphSeparators

-- Everything but controls, formats and what has no meaning of its own.
def visible : List Run := letters ++ marks ++ numbers ++ punctuation ++ symbols ++ separators

def assigned : List Run := visible ++ controls ++ formats ++ privateUse

def alphabetic : List Run := letters ++ letterNumbers ++ otherAlphabetic

def digitSpans : Spans := Spans.ofRuns digitNumbers

def wordSpans : Spans := Spans.ofRuns (alphabetic ++ marks ++ digitNumbers ++ connectors ++ joinControl)

def alphabeticSpans : Spans := Spans.ofRuns alphabetic

def numberSpans : Spans := Spans.ofRuns numbers

end DocStore.Text
