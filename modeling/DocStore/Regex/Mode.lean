import DocStore.Regex
import DocStore.Regex.Error

namespace DocStore.Regex

-- The flags in force at a place in a pattern.
structure Mode where
  anyCase : Bool := false
  multiLine : Bool := false
  dotAll : Bool := false
  loose : Bool := false
  unicode : Bool := true
  returns : Bool := false
  deriving DecidableEq

-- Everything that means more than itself in some pattern.
def isMeta (c : Char) : Bool :=
  ['\\', '.', '+', '*', '?', '(', ')', '|', '[', ']', '\x7b', '\x7d', '^', '$', '#', '&', '-', '~'].contains c

def escapeChar (c : Char) : List Char := if isMeta c then ['\\', c] else [c]

-- The pattern that describes the text itself.
def escape (text : String) : String := String.ofList (text.toList.flatMap escapeChar)

-- White space and comments count as nothing where the pattern is loose.
def skipLoose (inComment : Bool) : List Char → List Char
  | [] => []
  | c :: rest =>
    if inComment then skipLoose (c != '\n') rest
    else if c = '#' then skipLoose true rest
    else if Text.isBlank c then skipLoose false rest
    else c :: rest

def skip (mode : Mode) (text : List Char) : List Char :=
  if mode.loose then skipLoose false text else text

-- The characters from here on that fulfil the condition, whatever is skipped between them, and
-- the text behind them.
def collect (mode : Mode) (wanted : Char → Bool) : Nat → List Char → List Char × List Char
  | 0, text => ([], text)
  | fuel + 1, text =>
    match text with
    | c :: rest =>
      if wanted c then
        let (more, rest) := collect mode wanted fuel (skip mode rest)
        (c :: more, rest)
      else ([], text)
    | [] => ([], [])

def collectAll (mode : Mode) (wanted : Char → Bool) (text : List Char) : List Char × List Char :=
  collect mode wanted text.length text

namespace Mode

-- A set whose characters may come in any case, where the mode has it so.
def folded (mode : Mode) (set : CharSet) : CharSet := if mode.anyCase then set.closeCase else set

-- Without Unicode only the cases of ASCII letters are other forms of them.
def limited (mode : Mode) (set : CharSet) : CharSet :=
  if mode.anyCase && !mode.unicode then .inter .ascii set else set

-- The set of the forms of a character.
def charSet (mode : Mode) (c : Char) : CharSet :=
  if mode.unicode || !mode.anyCase then mode.folded (.literal c)
  else if c.isAlpha then .ranges [(c.toUpper.toNat, c.toUpper.toNat), (c.toLower.toNat, c.toLower.toNat)]
  else .literal c

-- The set or all that it has not. Without Unicode what it has not is more than text.
def negated (mode : Mode) (isNegated : Bool) (set : CharSet) : Except RegexError CharSet :=
  if !isNegated then .ok set
  else if mode.unicode then .ok (.compl set)
  else .error .notText

end Mode

end DocStore.Regex
