import DocStore.Regex.Escape

namespace DocStore.Regex

-- `[:alpha:]` and its like: ranges of ASCII.
def asciiClass? : String → Option (List (Nat × Nat))
  | "alnum" => some [(0x30, 0x39), (0x41, 0x5a), (0x61, 0x7a)]
  | "alpha" => some [(0x41, 0x5a), (0x61, 0x7a)]
  | "ascii" => some [(0x0, 0x7f)]
  | "blank" => some [(0x9, 0x9), (0x20, 0x20)]
  | "cntrl" => some [(0x0, 0x1f), (0x7f, 0x7f)]
  | "digit" => some CharSet.asciiDigits
  | "graph" => some [(0x21, 0x7e)]
  | "lower" => some [(0x61, 0x7a)]
  | "print" => some [(0x20, 0x7e)]
  | "punct" => some [(0x21, 0x2f), (0x3a, 0x40), (0x5b, 0x60), (0x7b, 0x7e)]
  | "space" => some CharSet.asciiBlanks
  | "upper" => some [(0x41, 0x5a)]
  | "word" => some CharSet.asciiWord
  | "xdigit" => some [(0x30, 0x39), (0x41, 0x46), (0x61, 0x66)]
  | _ => none

-- A class by name behind `[`, with the text after it.
def namedClass? (mode : Mode) (text : List Char) : Option (Except RegexError CharSet × List Char) :=
  match text with
  | ':' :: rest =>
    let (isNegated, rest) := match rest with
      | '^' :: rest => (true, rest)
      | rest => (false, rest)
    let name := rest.takeWhile (· != ':')
    match rest.drop name.length, asciiClass? (String.ofList name) with
    | ':' :: ']' :: after, some rs => some (mode.negated isNegated (mode.folded (.ranges rs)), after)
    | _, _ => none
  | _ => none

inductive SetOperation where
  | intersection
  | difference
  | symmetricDifference
  deriving DecidableEq

def SetOperation.apply : SetOperation → CharSet → CharSet → CharSet
  | intersection, a, b => .inter a b
  | difference, a, b => .diff a b
  | symmetricDifference, a, b => .symmDiff a b

-- The items read so far: their set, their number and how deep the deepest of them is.
structure Items where
  set : CharSet
  count : Nat
  depth : Nat

namespace Items

def nothing : Items := ⟨CharSet.none, 0, 0⟩

def push (items : Items) (set : CharSet) (depth : Nat) : Items :=
  ⟨items.set.join set, items.count + 1, max items.depth depth⟩

-- Several items are a level of their own.
def level (items : Items) : Nat := items.depth + if items.count < 2 then 0 else 1

end Items

-- What waits for the class at hand to be finished.
inductive ClassFrame where
  | opened (isNegated : Bool) (outer : Items)
  | operation (op : SetOperation) (left : CharSet) (depth : Nat)

-- Carries out the operation that waits for its right side.
def finishOperation (mode : Mode) (items : Items) : List ClassFrame → List ClassFrame × CharSet × Nat
  | .operation op left depth :: stack =>
    (stack, op.apply (mode.folded left) (mode.folded items.set), 1 + max depth items.level)
  | stack => (stack, items.set, items.level)

-- Hyphens that open a class are literal.
def leadingHyphens (mode : Mode) : Nat → List Char → Items → Items × List Char
  | 0, text, items => (items, text)
  | fuel + 1, text, items =>
    match text with
    | '-' :: rest => leadingHyphens mode fuel (skip mode rest) (items.push (.literal '-') 0)
    | text => (items, text)

-- The caret, the hyphens and the bracket that may follow `[`.
def openClass (mode : Mode) (text : List Char) : Except RegexError (Bool × Items × List Char) :=
  let (isNegated, text) := match skip mode text with
    | '^' :: rest => (true, skip mode rest)
    | rest => (false, rest)
  match leadingHyphens mode text.length text .nothing with
  | (_, []) => .error .classUnclosed
  | (items, ']' :: after) =>
    if items.count = 0 then
      match skip mode after with
      | [] => .error .classUnclosed
      | after => .ok (isNegated, items.push (.literal ']') 0, after)
    else .ok (isNegated, items, ']' :: after)
  | (items, rest) => .ok (isNegated, items, rest)

def classAtom (mode : Mode) : List Char → Except RegexError (Atom × List Char)
  | [] => .error .classUnclosed
  | '\\' :: rest => escapeAtom mode rest
  | c :: rest => .ok (.literal c, rest)

-- A character of a class has to be ASCII where there is no Unicode.
def classChar (mode : Mode) (c : Char) : Except RegexError Char :=
  if !mode.unicode && !Text.isAscii c then .error .notText else .ok c

def atomSet (mode : Mode) : Atom → Except RegexError CharSet
  | .literal c => (classChar mode c).map .literal
  | .set s => .ok s
  | .look _ => .error .escapeInClass

-- The next character that is not blank; the first `#` before it counts as blank.
def peekLoose (text : List Char) : Option Char :=
  match text.dropWhile Text.isBlank with
  | '#' :: rest => (rest.dropWhile Text.isBlank).head?
  | rest => rest.head?

-- Whether a hyphen in front of the text is between the two ends of a range.
def isRangeHyphen (mode : Mode) (text : List Char) : Bool :=
  let next := if mode.loose then peekLoose text else text.head?
  next != some ']' && next != some '-'

-- One element of a class or a range of characters.
def classRange (mode : Mode) (text : List Char) : Except RegexError (CharSet × List Char) := do
  let (first, rest) ← classAtom mode text
  match skip mode rest with
  | [] => .error .classUnclosed
  | '-' :: after =>
    if !isRangeHyphen mode after then return (← atomSet mode first, '-' :: after)
    else
      let (last, rest) ← classAtom mode (skip mode after)
      match first, last with
      | .literal a, .literal b => do
        let a ← classChar mode a
        let b ← classChar mode b
        if b < a then .error .rangeReversed else return (.ranges [(a.toNat, b.toNat)], rest)
      | _, _ => .error .rangeBoundInvalid
  | rest => return (← atomSet mode first, rest)

-- A set in brackets: how deep it is, and what follows it.
structure Bracketed where
  set : CharSet
  depth : Nat
  rest : List Char

-- The rest of a bracketed class, up to the bracket that closes the outermost one.
def classBody (mode : Mode) : Nat → List ClassFrame → Items → List Char → Except RegexError Bracketed
  | 0, _, _, _ => .error .classUnclosed
  | fuel + 1, stack, items, text => do
    let operate (op : SetOperation) (rest : List Char) : Except RegexError Bracketed :=
      let (stack, left, depth) := finishOperation mode items stack
      classBody mode fuel (.operation op left depth :: stack) .nothing rest
    match skip mode text with
    | [] => .error .classUnclosed
    | '[' :: rest =>
      match namedClass? mode rest with
      | some (named, rest) => classBody mode fuel stack (items.push (← named) 0) rest
      | none =>
        let (isNegated, inner, rest) ← openClass mode rest
        classBody mode fuel (.opened isNegated items :: stack) inner rest
    | ']' :: rest =>
      let (stack, set, depth) := finishOperation mode items stack
      match stack with
      | .opened isNegated outer :: stack =>
        let set ← mode.negated isNegated (mode.folded set)
        if stack.isEmpty then return ⟨set, depth + 1, rest⟩
        else classBody mode fuel stack (outer.push set (depth + 1)) rest
      | _ => .error .classUnclosed
    | '&' :: '&' :: rest => operate .intersection rest
    | '-' :: '-' :: rest => operate .difference rest
    | '~' :: '~' :: rest => operate .symmetricDifference rest
    | text =>
      let (item, rest) ← classRange mode text
      classBody mode fuel stack (items.push item 0) rest

-- The class behind `[`.
def bracketed (mode : Mode) (text : List Char) : Except RegexError Bracketed := do
  let (isNegated, items, rest) ← openClass mode text
  let set ← classBody mode (rest.length + 1) [.opened isNegated .nothing] items rest
  return { set with set := mode.limited set.set }

end DocStore.Regex
