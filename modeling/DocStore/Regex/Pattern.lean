import DocStore.Number.Integer
import DocStore.Regex.Class
import DocStore.Regex.Memory

namespace DocStore.Regex

-- An element read so far; directives match nothing and cannot be repeated.
inductive Item where
  | directive
  | piece (r : Regex) (depth : Nat)

-- What waits for a group to be closed: the flags and what stood before it.
structure Frame where
  isKept : Bool
  mode : Mode
  branches : List (Regex × Nat)
  items : List Item

-- A place in a pattern. Branches and items stand in reverse.
structure Place where
  mode : Mode
  names : List String
  stack : List Frame
  branches : List (Regex × Nat)
  items : List Item
  rest : List Char

def pieces (items : List Item) : List (Regex × Nat) :=
  items.reverse.filterMap fun
    | .directive => none
    | .piece r depth => some (r, depth)

def deepest (parts : List (Regex × Nat)) : Nat := parts.foldl (fun n p => max n p.2) 0

-- The items of a branch in a row.
def inRow (items : List Item) : Regex × Nat :=
  let parts := pieces items
  (seqAll (parts.map (·.1)), deepest parts + if items.length ≤ 1 then 0 else 1)

-- The branches of a group, the last of which is still a row of items.
def branchesOf (branches : List (Regex × Nat)) (items : List Item) : Regex × Nat :=
  match branches with
  | [] => inRow items
  | _ =>
    let parts := (inRow items :: branches).reverse
    (altAll (parts.map (·.1)), deepest parts + 1)

def ofAtom (mode : Mode) : Atom → Regex
  | .literal c => .chars (mode.charSet c)
  | .set s => .chars s
  | .look l => .look l

def anyChar (mode : Mode) : CharSet :=
  if mode.dotAll then CharSet.all
  else if mode.returns then .compl (.ranges [(10, 10), (13, 13)])
  else .compl (.ranges [(10, 10)])

def startLook (mode : Mode) : Look :=
  if !mode.multiLine then .textStart else if mode.returns then .returnLineStart else .lineStart

def endLook (mode : Mode) : Look :=
  if !mode.multiLine then .textEnd else if mode.returns then .returnLineEnd else .lineEnd

def setFlag (mode : Mode) (on : Bool) : Char → Option Mode
  | 'i' => some { mode with anyCase := on }
  | 'm' => some { mode with multiLine := on }
  | 's' => some { mode with dotAll := on }
  | 'x' => some { mode with loose := on }
  | 'u' => some { mode with unicode := on }
  | 'R' => some { mode with returns := on }
  | 'U' => some mode
  | _ => none

-- Flags up to a colon or a parenthesis, none of them twice.
def readFlags (mode : Mode) (seen : List Char) : List Char → Except RegexError (Mode × List Char × List Char)
  | [] => .error .flagMissing
  | c :: rest =>
    if c = ':' ∨ c = ')' then
      if seen.head? = some '-' then .error .flagMissing else .ok (mode, seen, c :: rest)
    else if seen.contains c then .error .flagRepeated
    else if c = '-' then readFlags mode (c :: seen) rest
    else
      match setFlag mode (!seen.contains '-') c with
      | some mode => readFlags mode (c :: seen) rest
      | none => .error .flagUnknown

def isNameStart (c : Char) : Bool := c == '_' || Text.inRanges Text.alphabeticSpans c.toNat

def isNameChar (c : Char) : Bool :=
  isNameStart c || c == '.' || c == '[' || c == ']' || Text.inRanges Text.numberSpans c.toNat

-- The name of a group, up to the angle that closes it.
def groupName (names : List String) (text : List Char) : Except RegexError (String × List Char) :=
  let name := text.takeWhile (· != '>')
  match name, text.drop name.length with
  | c :: more, _ :: rest =>
    if !isNameStart c || !more.all isNameChar then .error .groupNameInvalid
    else if names.contains (String.ofList name) then .error (.groupNameRepeated (String.ofList name))
    else .ok (String.ofList name, rest)
  | _, _ => .error .groupNameInvalid

def enter (p : Place) (isKept : Bool) (mode : Mode) (rest : List Char) : Place :=
  { p with
    mode := mode
    stack := ⟨isKept, p.mode, p.branches, p.items⟩ :: p.stack
    branches := []
    items := []
    rest := rest }

-- What follows an opening parenthesis.
def openGroup (p : Place) (text : List Char) : Except RegexError Place :=
  let named (rest : List Char) : Except RegexError Place := do
    let (name, rest) ← groupName p.names rest
    return enter { p with names := name :: p.names } true p.mode rest
  match skip p.mode text with
  | '?' :: '=' :: _ => .error .lookaround
  | '?' :: '!' :: _ => .error .lookaround
  | '?' :: '<' :: '=' :: _ => .error .lookaround
  | '?' :: '<' :: '!' :: _ => .error .lookaround
  | '?' :: 'P' :: '<' :: rest => named rest
  | '?' :: '<' :: rest => named rest
  | '?' :: rest => do
    let (mode, seen, rest) ← readFlags p.mode [] rest
    match rest with
    | ')' :: rest =>
      if seen.isEmpty then .error .nothingToRepeat
      else return { p with mode := mode, items := .directive :: p.items, rest := rest }
    | _ => return enter p false mode (rest.drop 1)
  | rest => return enter p true p.mode rest

def closeGroup (p : Place) (rest : List Char) : Except RegexError Place :=
  match p.stack with
  | [] => .error .groupUnopened
  | frame :: stack =>
    let (r, depth) := branchesOf p.branches p.items
    .ok { p with
      mode := frame.mode
      stack := stack
      branches := frame.branches
      items := .piece (.group frame.isKept r) (depth + 1) :: frame.items
      rest := rest }

-- The last item repeated; an operator may be followed by a question mark.
def repeatLast (p : Place) (low : Nat) (high : Option Nat) (rest : List Char) : Except RegexError Place :=
  match p.items with
  | .piece r depth :: items =>
    let rest := match rest with
      | '?' :: rest => rest
      | rest => rest
    .ok { p with items := .piece (repeated r low high) (depth + 1) :: items, rest := rest }
  | _ => .error .nothingToRepeat

-- A decimal number with white space on either side.
def readCount (mode : Mode) (text : List Char) : Except RegexError (Option Nat × List Char) :=
  let (digits, rest) := collectAll mode Char.isDigit (text.dropWhile Text.isBlank)
  let (_, rest) := collectAll mode Text.isBlank rest
  if digits.isEmpty then .ok (none, rest)
  else if Integer.maxUnsigned32 < Integer.ofDigits digits then .error .countTooLarge
  else .ok (some (Integer.ofDigits digits), rest)

-- `\x7b2\x7d`, `\x7b2,\x7d` or `\x7b2,3\x7d`, behind the opening brace.
def counted (p : Place) (text : List Char) : Except RegexError Place := do
  let (low, rest) ← readCount p.mode (skip p.mode text)
  match rest, low with
  | '\x7d' :: rest, some n => repeatLast p n (some n) (skip p.mode rest)
  | ',' :: rest, some n =>
    match skip p.mode rest with
    | '\x7d' :: rest => repeatLast p n none (skip p.mode rest)
    | rest => do
      let (high, rest) ← readCount p.mode rest
      match high, rest with
      | some m, '\x7d' :: rest =>
        if m < n then .error .countReversed else repeatLast p n (some m) (skip p.mode rest)
      | none, _ :: _ => .error .countEmpty
      | _, _ => .error .countUnclosed
  | _ :: _, none => .error .countEmpty
  | _, _ => .error .countUnclosed

def append (p : Place) (r : Regex) (depth : Nat) (rest : List Char) : Place :=
  { p with items := .piece r depth :: p.items, rest := rest }

-- Reads the next element of the pattern.
def advance (p : Place) : Char → List Char → Except RegexError Place
  | '(', rest => openGroup p rest
  | ')', rest => closeGroup p rest
  | '|', rest => .ok { p with branches := inRow p.items :: p.branches, items := [], rest := rest }
  | '[', rest => do
    let b ← bracketed p.mode rest
    return append p (.chars b.set) b.depth b.rest
  | '?', rest => repeatLast p 0 (some 1) rest
  | '*', rest => repeatLast p 0 none rest
  | '+', rest => repeatLast p 1 none rest
  | '\x7b', rest => counted p rest
  | '\\', rest => do
    let (atom, rest) ← escapeAtom p.mode rest
    return append p (ofAtom p.mode atom) 0 rest
  | '.', rest =>
    if p.mode.unicode then .ok (append p (.chars (anyChar p.mode)) 0 rest) else .error .notText
  | '^', rest => .ok (append p (.look (startLook p.mode)) 0 rest)
  | '$', rest => .ok (append p (.look (endLook p.mode)) 0 rest)
  | c, rest => .ok (append p (.chars (p.mode.charSet c)) 0 rest)

def maxDepth : Nat := 250

def finish (p : Place) : Except RegexError Regex :=
  let (r, depth) := branchesOf p.branches p.items
  if !p.stack.isEmpty then .error .groupUnclosed
  else if maxDepth < depth then .error .tooNested
  else if r.memory.isTooLarge then .error .tooLarge
  else .ok r

-- Every step takes at least one character off the rest.
def readAll : Nat → Place → Except RegexError Regex
  | 0, p => finish p
  | fuel + 1, p =>
    match skip p.mode p.rest with
    | [] => finish p
    | c :: rest => do readAll fuel (← advance p c rest)

def ofPattern (mode : Mode) (pattern : String) : Except RegexError Regex :=
  readAll (pattern.toList.length + 1) ⟨mode, [], [], [], [], pattern.toList⟩

end DocStore.Regex
