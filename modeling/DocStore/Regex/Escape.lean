import DocStore.CharSet.Named
import DocStore.Regex.Mode

namespace DocStore.Regex

-- What one element of a pattern stands for.
inductive Atom where
  | literal (c : Char)
  | set (s : CharSet)
  | look (l : Look)
  deriving DecidableEq

def perlSet (mode : Mode) (c : Char) : Except RegexError CharSet :=
  mode.negated c.isUpper
    (match c.toLower with
    | 'd' => if mode.unicode then .digits else .ranges CharSet.asciiDigits
    | 's' => if mode.unicode then .blanks else .ranges CharSet.asciiBlanks
    | _ => if mode.unicode then .words else .ranges CharSet.asciiWord)

-- The character with the number. Two digits without Unicode are a byte, which is text up to 7f only.
def charOf (mode : Mode) (isByte : Bool) (digits : List Char) : Except RegexError Char :=
  match Text.hexNumber? digits with
  | none => .error .codePointInvalid
  | some n =>
    if isByte && !mode.unicode && decide (0x7f < n) then .error .notText
    else if n.isValidChar then .ok (Char.ofNat n)
    else .error .codePointInvalid

def hexWidth (kind : Char) : Nat := if kind = 'x' then 2 else if kind = 'u' then 4 else 8

-- So many hexadecimal digits.
def hexDigits (mode : Mode) : Nat → List Char → Except RegexError (List Char × List Char)
  | 0, text => .ok ([], text)
  | _ + 1, [] => .error .escapeUnfinished
  | count + 1, c :: rest => do
    if (Text.hexValue? c).isNone then .error .codePointInvalid
    let (digits, rest) ← hexDigits mode count (skip mode rest)
    return (c :: digits, rest)

-- Hexadecimal digits in braces, or as many as the kind of escape has.
def hexEscape (mode : Mode) (kind : Char) (text : List Char) : Except RegexError (Char × List Char) :=
  match skip mode text with
  | '\x7b' :: rest =>
    let (digits, rest) := collectAll mode (· != '\x7d') (skip mode rest)
    match rest with
    | [] => .error .escapeUnfinished
    | _ :: rest =>
      if digits.isEmpty then .error .codePointInvalid
      else do return (← charOf mode false digits, rest)
  | text => do
    let (digits, rest) ← hexDigits mode (hexWidth kind) text
    return (← charOf mode (kind == 'x') digits, rest)

-- The text in front of the separator and behind it.
def cutAt? (separator : List Char) : List Char → Option (List Char × List Char)
  | [] => none
  | c :: rest =>
    if separator.isPrefixOf (c :: rest) then some ([], (c :: rest).drop separator.length)
    else (cutAt? separator rest).map fun (before, after) => (c :: before, after)

-- The set of a property in braces, and whether `!=` turns it around.
def propertySet? (text : List Char) : Option (Bool × CharSet) :=
  let withValue (isNegated : Bool) (sides : List Char × List Char) : Option (Bool × CharSet) :=
    (CharSet.withValue? (String.ofList sides.1) (String.ofList sides.2)).map (isNegated, ·)
  match cutAt? ['!', '='] text with
  | some sides => withValue true sides
  | none =>
    match cutAt? [':'] text with
    | some sides => withValue false sides
    | none =>
      match cutAt? ['='] text with
      | some sides => withValue false sides
      | none => (CharSet.named? (String.ofList text)).map (false, ·)

-- What follows `\p`: one letter, or a name in braces.
def propertyName (mode : Mode) (text : List Char) : Except RegexError (List Char × List Char) :=
  match skip mode text with
  | [] => .error .escapeUnfinished
  | '\x7b' :: rest =>
    let (name, rest) := collectAll mode (· != '\x7d') (skip mode rest)
    match rest with
    | [] => .error .escapeUnfinished
    | _ :: rest => .ok (name, rest)
  | c :: rest => if c = '\\' then .error .propertyUnknown else .ok ([c], rest)

def propertyEscape (mode : Mode) (isNegated : Bool) (text : List Char) :
    Except RegexError (CharSet × List Char) := do
  let (name, rest) ← propertyName mode text
  if !mode.unicode then .error .propertyUnknown
  match propertySet? name with
  | none => .error .propertyUnknown
  | some (turned, set) => return (← mode.negated (isNegated != turned) (mode.folded set), rest)

def isBoundaryChar (c : Char) : Bool := c == '-' || c.isAlpha

def boundaryNamed (mode : Mode) : String → Except RegexError Look
  | "start" => .ok (if mode.unicode then .wordStart else .asciiWordStart)
  | "end" => .ok (if mode.unicode then .wordEnd else .asciiWordEnd)
  | "start-half" => .ok (if mode.unicode then .wordStartHalf else .asciiWordStartHalf)
  | "end-half" => .ok (if mode.unicode then .wordEndHalf else .asciiWordEndHalf)
  | _ => .error .boundaryUnknown

-- `\b\x7bstart\x7d` and its like; braces with a count in them are left alone.
def boundaryEscape (mode : Mode) (text : List Char) : Except RegexError (Look × List Char) :=
  let plain : Look := if mode.unicode then .wordBoundary else .asciiWordBoundary
  match text with
  | '\x7b' :: rest =>
    let (name, after) := collectAll mode isBoundaryChar (skip mode rest)
    match name, after with
    | [], [] => .error .boundaryUnknown
    | [], _ => .ok (plain, text)
    | name, '\x7d' :: after => do return (← boundaryNamed mode (String.ofList name), after)
    | _, _ => .error .boundaryUnknown
  | _ => .ok (plain, text)

-- The letters that stand for characters without a sign.
def controlOf? : Char → Option Char
  | 'a' => some (Char.ofNat 7)
  | 't' => some (Char.ofNat 9)
  | 'n' => some (Char.ofNat 10)
  | 'v' => some (Char.ofNat 11)
  | 'f' => some (Char.ofNat 12)
  | 'r' => some (Char.ofNat 13)
  | _ => none

def lookOf? (mode : Mode) : Char → Option Look
  | 'A' => some .textStart
  | 'z' => some .textEnd
  | 'B' => some (if mode.unicode then .notWordBoundary else .asciiNotWordBoundary)
  | '<' => some (if mode.unicode then .wordStart else .asciiWordStart)
  | '>' => some (if mode.unicode then .wordEnd else .asciiWordEnd)
  | _ => none

-- The element behind a backslash.
def escapeAtom (mode : Mode) : List Char → Except RegexError (Atom × List Char)
  | [] => .error .escapeUnfinished
  | c :: rest =>
    if isMeta c then .ok (.literal c, rest)
    else if c.isDigit then .error .backreference
    else if ['x', 'u', 'U'].contains c then
      (hexEscape mode c rest).map fun (c, rest) => (.literal c, rest)
    else if ['p', 'P'].contains c then
      (propertyEscape mode (c == 'P') rest).map fun (s, rest) => (.set s, rest)
    else if ['d', 's', 'w', 'D', 'S', 'W'].contains c then
      (perlSet mode c).map fun s => (.set s, rest)
    else if c = 'b' then (boundaryEscape mode rest).map fun (l, rest) => (.look l, rest)
    else
      match controlOf? c, lookOf? mode c with
      | some control, _ => .ok (.literal control, rest)
      | none, some l => .ok (.look l, rest)
      | none, none =>
        if Text.isAscii c && !c.isAlpha then .ok (.literal c, rest) else .error .escapeUnknown

end DocStore.Regex
