import DocStore.CharSet.Spans
import Std.Data.HashMap

namespace DocStore.CharSet

-- Bytes from the first to the second.
abbrev ByteRange : Type := Nat × Nat

-- The sequences for the numbers from `low` to `high`, with six bits in each of the `count` bytes
-- that follow the first one; `tag` is what the first byte has on top.
def sequencesAfter (tag : Nat) : Nat → Nat → Nat → List (List ByteRange)
  | 0, low, high => [[(tag + low, tag + high)]]
  | count + 1, low, high =>
    let unit := Nat.pow 64 (count + 1)
    let first := low / unit
    let last := high / unit
    let under (top : Nat) (low high : Nat) : List (List ByteRange) :=
      (sequencesAfter 0x80 count low high).map ((tag + top, tag + top) :: ·)
    if first = last then under first (low % unit) (high % unit)
    else
      let lowWhole := decide (low % unit = 0)
      let highWhole := decide (high % unit = unit - 1)
      let whole := if lowWhole then first else first + 1
      let stop := if highWhole then last + 1 else last
      (if lowWhole then [] else under first (low % unit) (unit - 1)) ++
        (if whole < stop then
          [(tag + whole, tag + stop - 1) :: List.replicate (count + 1) (0x80, 0xbf)]
        else []) ++
        (if highWhole then [] else under last 0 (high % unit))

-- The lengths of encoded characters: where each one starts and ends, the top of the first byte and
-- the number of bytes behind it.
def encodedLengths : List (Nat × Nat × Nat × Nat) :=
  [(0, 0x7f, 0, 0), (0x80, 0x7ff, 0xc0, 1), (0x800, 0xffff, 0xe0, 2), (0x10000, 0x10ffff, 0xf0, 3)]

def sequencesOf (span : Nat × Nat) : List (List ByteRange) :=
  encodedLengths.flatMap fun (first, last, tag, count) =>
    let low := max first span.1
    let high := min last span.2
    if high < low then [] else sequencesAfter tag count low high

def sequences (set : Text.Spans) : List (List ByteRange) := set.flatMap sequencesOf

def encode (c : Char) : List UInt8 := c.toString.toUTF8.toList

def sharedSteps : List ByteRange → List ByteRange → Nat
  | r :: rest, s :: other => if r = s then sharedSteps rest other + 1 else 0
  | _, _ => 0

-- The number of steps that the sequences take when each one starts with what it shares with the
-- one before it.
def newSteps (before : List ByteRange) : List (List ByteRange) → Nat
  | [] => 0
  | s :: rest => s.length - sharedSteps before s + newSteps s rest

-- The sequences gathered by their first ranges.
def byFirst : List (List ByteRange) → List (ByteRange × List (List ByteRange))
  | [] => []
  | [] :: rest => byFirst rest
  | (r :: tail) :: rest =>
    match byFirst rest with
    | [] => [(r, [tail])]
    | (s, tails) :: more => if r = s then (r, tail :: tails) :: more else (r, [tail]) :: (s, tails) :: more

-- The states of a reader: the ways out of each one, and the number that it has.
abbrev States : Type := Std.HashMap (List (ByteRange × Nat)) Nat

-- Makes the state that reads the sequences, or finds one that does. Number zero is the end.
def reader : Nat → List (List ByteRange) → States → Nat × States
  | 0, _, states => (0, states)
  | fuel + 1, seqs, states =>
    let (ways, states) := (byFirst seqs).foldl (fun (ways, states) (r, tails) =>
      let (next, states) := reader fuel tails states
      ((r, next) :: ways, states)) ([], states)
    if ways.isEmpty then (0, states)
    else
      match states[ways]? with
      | some n => (n, states)
      | Option.none => (states.size + 1, states.insert ways (states.size + 1))

-- The bytes that a state takes, and those for each way out of it.
def stateBytes : Nat := 32

def wayBytes : Nat := 8

def choiceBytes : Nat := 4

def isAsciiOnly (set : Text.Spans) : Bool := set.all fun s => decide (s.2 ≤ 0x7f)

-- The bytes for a set that is read forward, where equal states are one.
def forwardBytes (set : Text.Spans) : Nat :=
  if isAsciiOnly set then 2 * stateBytes + wayBytes * set.length
  else
    let states := (reader 4 (sequences set) ∅).2
    states.fold (fun sum ways _ => sum + stateBytes + wayBytes * ways.length) stateBytes

-- The bytes for a set that is read backward, one state for every step and a choice between the
-- sequences.
def backwardBytes (set : Text.Spans) : Nat :=
  if isAsciiOnly set then 2 * stateBytes + wayBytes * set.length
  else
    let seqs := sequences set
    2 * stateBytes + choiceBytes * seqs.length + stateBytes * newSteps [] seqs

end DocStore.CharSet
