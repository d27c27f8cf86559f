import DocStore.CharSet.Encoded
import DocStore.Regex

namespace DocStore.Regex

-- The bytes that the states take which read an expression forward or backward. The states
-- are those of a simpler expression: characters in a row are one text, a choice of
-- characters is a set, and a choice of rows that all start alike is made after what they
-- share.
structure Memory where
  forward : Nat
  backward : Nat
  deriving DecidableEq

namespace Memory

def both (n : Nat) : Memory := ⟨n, n⟩

def add (a b : Memory) : Memory := ⟨a.forward + b.forward, a.backward + b.backward⟩

def scale (n : Nat) (a : Memory) : Memory := ⟨n * a.forward, n * a.backward⟩

def sum (start : Memory) (parts : List Memory) : Memory := parts.foldl add start

-- One state, and a state with two ways to go on.
def state : Memory := both CharSet.stateBytes

def fork : Memory := both (CharSet.stateBytes + 2 * CharSet.choiceBytes)

end Memory

-- A part of a row. What is neither text nor a set is known by the expression that it comes from.
inductive Part where
  | text (cs : List Char)
  | set (members : Text.Spans)
  | other (r : Regex) (memory : Memory)
  deriving DecidableEq

abbrev Row : Type := List Part

namespace Row

-- The words that go on behind each first byte.
def byFirstByte : List (List UInt8) → List (UInt8 × List (List UInt8))
  | [] => []
  | [] :: rest => byFirstByte rest
  | (b :: tail) :: rest =>
    let others := byFirstByte rest
    match others.lookup b with
    | none => (b, [tail]) :: others
    | some tails => (b, tail :: tails) :: others.filter (·.1 != b)

-- The words between the places where one of them has ended.
def runsOfWords (words : List (List UInt8)) : List (List (List UInt8)) :=
  words.foldr (fun word parts =>
    match word, parts with
    | [], _ => [] :: parts
    | word, part :: parts => (word :: part) :: parts
    | word, [] => [[word]]) [[]]

-- The bytes of the tree that reads one of the words. A node is a choice between the ends of words
-- and the states that go on, one for each run of words; ends before the first run are one.
def treeBytes : Nat → List (List UInt8) → Nat
  | 0, _ => 0
  | fuel + 1, words =>
    if words.all (·.isEmpty) then 0
    else
      let runs := runsOfWords (words.dropWhile (·.isEmpty))
      let ends := runs.length - 1 + if (words.takeWhile (·.isEmpty)).isEmpty then 0 else 1
      (runs.map fun run =>
        let ways := byFirstByte run
        let onward := (ways.map fun (_, tails) => treeBytes fuel tails).foldl (· + ·) 0
        if ways.isEmpty then 0
        else if ways.length = 1 then onward + CharSet.stateBytes + CharSet.choiceBytes
        else onward + CharSet.stateBytes + CharSet.choiceBytes + CharSet.wayBytes * ways.length).foldl
          (· + ·) (CharSet.stateBytes + CharSet.choiceBytes * ends)

def wordTreeBytes (words : List (List UInt8)) : Nat :=
  CharSet.stateBytes + treeBytes (words.foldl (fun n w => max n w.length) 0 + 1) words

def encode (cs : List Char) : List UInt8 := cs.flatMap CharSet.encode

def partMemory : Part → Memory
  | .text cs => .both (CharSet.stateBytes * (encode cs).length)
  | .set members => ⟨CharSet.forwardBytes members, CharSet.backwardBytes members⟩
  | .other _ memory => memory

def memory (row : Row) : Memory :=
  if row.isEmpty then .state else .sum (.both 0) (row.map partMemory)

def text? : Row → Option (List Char)
  | [.text cs] => some cs
  | _ => none

def char? : Row → Option Char
  | [.text [c]] => some c
  | _ => none

def set? : Row → Option Text.Spans
  | [.set members] => some members
  | _ => none

-- What a choice between rows takes. Words share what they start with, or end with.
def choiceMemory (rows : List Row) : Memory :=
  match rows with
  | [row] => row.memory
  | rows =>
    match rows.mapM text? with
    | some words =>
      let words := words.map encode
      ⟨wordTreeBytes words, wordTreeBytes (words.map List.reverse)⟩
    | none =>
      .sum (.both (2 * CharSet.stateBytes + CharSet.choiceBytes * rows.length)) (rows.map memory)

-- One row for a choice that the expression describes.
def ofChoice (r : Regex) (rows : List Row) : Row :=
  match rows with
  | [row] => row
  | rows => [.other r (choiceMemory rows)]

-- Two rows on end, where texts that meet become one.
def append : Row → Row → Row
  | [], row => row
  | [.text a], .text b :: row => .text (a ++ b) :: row
  | part :: rest, row => part :: append rest row

def ofSpans (members : Text.Spans) : Row :=
  match members with
  | [(n, m)] => if n = m then [.text [Char.ofNat n]] else [.set members]
  | _ => [.set members]

def shared : Row → Row → Row
  | a :: rest, b :: other => if a = b then a :: shared rest other else []
  | _, _ => []

-- A choice of characters or of sets as the one set that it is.
def asSet? (rows : List Row) : Option Text.Spans :=
  match rows.mapM char?, rows.mapM set? with
  | some cs, _ => some (.ofRanges (cs.map fun c => (c.toNat, c.toNat)))
  | none, some sets => some (.ofRanges sets.flatten)
  | none, none => none

-- What all rows start with, where each of them has more than one part.
def start (rows : List Row) : Row :=
  if rows.all fun row => decide (1 < row.length) then
    match rows with
    | [] => []
    | row :: rest => rest.foldl shared row
  else []

-- The rows of the branches that the expression has, made as simple as can be.
def choice (r : Regex) (branches : List (List Row)) : List Row :=
  let rows := branches.flatten
  if rows.length ≤ 1 then rows
  else
    match asSet? rows with
    | some members => [ofSpans members]
    | none =>
      let first := start rows
      if first.isEmpty then rows
      else
        let rest := rows.map (·.drop first.length)
        match asSet? rest with
        | some members => [append first (ofSpans members)]
        | none => [append first (ofChoice r rest)]

end Row

-- Whether the empty text may match.
def mayBeEmpty : Regex → Bool
  | empty => true
  | chars _ => false
  | look _ => true
  | seq a b => a.mayBeEmpty && b.mayBeEmpty
  | alt a b => a.mayBeEmpty || b.mayBeEmpty
  | times a low _ => low == 0 || a.mayBeEmpty
  | group _ a => a.mayBeEmpty

-- What repetition makes of the memory of the expression repeated.
def timesMemory (isEmpty : Bool) (a : Memory) (low : Nat) : Option Nat → Memory
  | none =>
    if 0 < low then (a.scale low).add .fork
    else if isEmpty then ((a.add .fork).add .fork).add .state
    else a.add .fork
  | some high =>
    let least := if low = 0 then .state else a.scale low
    if low = 0 ∧ high = 1 then (a.add .fork).add .state
    else if high = low then least
    else (least.add .state).add ((a.add .fork).scale (high - low))

-- The branches of an expression, each of them with the rows that it is a choice of.
def branchRows : Regex → List (List Row)
  | empty => [[[]]]
  | chars set => [[Row.ofSpans set.spans]]
  | look l => [[[.other (.look l) .state]]]
  | seq a b =>
    let first := Row.ofChoice a (Row.choice a a.branchRows)
    [[first.append (Row.ofChoice b (Row.choice b b.branchRows))]]
  | alt a b => Row.choice a a.branchRows :: b.branchRows
  | times a low high =>
    let inner := Row.choiceMemory (Row.choice a a.branchRows)
    [[[.other (.times a low high) (timesMemory a.mayBeEmpty inner low high)]]]
  | group isKept a =>
    let rows := Row.choice a a.branchRows
    if isKept then
      [[[.other (.group isKept a) ((Row.choiceMemory rows).add ⟨2 * CharSet.stateBytes, 0⟩)]]]
    else [rows]

-- Whether a match can only start where the text does.
def isAtStart : Regex → Bool
  | look .textStart => true
  | seq a b => a.isAtStart || (a.isBlank && b.isAtStart)
  | alt a b => a.isAtStart && b.isAtStart
  | times a low _ => low != 0 && a.isAtStart
  | group _ a => a.isAtStart
  | _ => false

-- Whether a match can only end where the text does.
def isAtEnd : Regex → Bool
  | look .textEnd => true
  | seq a b => b.isAtEnd || (b.isBlank && a.isAtEnd)
  | alt a b => a.isAtEnd && b.isAtEnd
  | times a low _ => low != 0 && a.isAtEnd
  | group _ a => a.isAtEnd
  | _ => false

-- What comes in front of an expression: any bytes at all, unless the place is fixed.
def leadBytes (isFixed : Bool) : Nat :=
  if isFixed then CharSet.stateBytes
  else 3 * CharSet.stateBytes + CharSet.wayBytes + 2 * CharSet.choiceBytes

def memory (r : Regex) : Memory :=
  let inner := Row.choiceMemory (Row.choice r r.branchRows)
  ⟨leadBytes r.isAtStart + 2 * CharSet.stateBytes + inner.forward + CharSet.stateBytes,
    leadBytes r.isAtEnd + inner.backward + CharSet.stateBytes⟩

def maxMemory : Nat := 10485760

def Memory.isTooLarge (m : Memory) : Bool := decide (maxMemory < max m.forward m.backward)

end DocStore.Regex
