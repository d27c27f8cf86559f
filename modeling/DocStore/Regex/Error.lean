namespace DocStore

inductive RegexError where
  | nothingToRepeat
  | countUnclosed
  | countEmpty
  | countTooLarge
  | countReversed
  | groupUnclosed
  | groupUnopened
  | groupNameInvalid
  | groupNameRepeated (name : String)
  | lookaround
  | flagUnknown
  | flagRepeated
  | flagMissing
  | classUnclosed
  | rangeReversed
  | rangeBoundInvalid
  | escapeInClass
  | escapeUnfinished
  | escapeUnknown
  | backreference
  | codePointInvalid
  | propertyUnknown
  | boundaryUnknown
  | notText
  | tooNested
  | tooLarge
  deriving DecidableEq

namespace RegexError

def reason : RegexError → String
  | nothingToRepeat => "repetition operator missing expression"
  | countUnclosed => "unclosed counted repetition"
  | countEmpty => "repetition quantifier expects a valid decimal"
  | countTooLarge => "decimal literal invalid"
  | countReversed => "invalid repetition count range"
  | groupUnclosed => "unclosed group"
  | groupUnopened => "unopened group"
  | groupNameInvalid => "invalid capture group name"
  | groupNameRepeated name => "duplicate capture group name " ++ name
  | lookaround => "look-around is not supported"
  | flagUnknown => "unrecognized flag"
  | flagRepeated => "duplicate flag"
  | flagMissing => "flag missing"
  | classUnclosed => "unclosed character class"
  | rangeReversed => "invalid character class range"
  | rangeBoundInvalid => "invalid range boundary"
  | escapeInClass => "invalid escape sequence in character class"
  | escapeUnfinished => "incomplete escape sequence"
  | escapeUnknown => "unrecognized escape sequence"
  | backreference => "backreferences are not supported"
  | codePointInvalid => "hexadecimal literal is not a code point"
  | propertyUnknown => "property not found"
  | boundaryUnknown => "unrecognized word boundary assertion"
  | notText => "pattern can match what is no text"
  | tooNested => "exceeds the nesting limit"
  | tooLarge => "exceeds the size limit"

def message (e : RegexError) : String := "regex parse error: " ++ e.reason

end RegexError

end DocStore
