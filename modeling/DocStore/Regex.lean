import DocStore.CharSet

namespace DocStore

-- Conditions on a place between two characters.
inductive Look where
  | textStart
  | textEnd
  | lineStart
  | lineEnd
  -- Lines that end in a carriage return, a line feed or the two in a row.
  | returnLineStart
  | returnLineEnd
  | wordBoundary
  | notWordBoundary
  | wordStart
  | wordEnd
  | wordStartHalf
  | wordEndHalf
  -- The same with the letters, digits and underscore of ASCII alone.
  | asciiWordBoundary
  | asciiNotWordBoundary
  | asciiWordStart
  | asciiWordEnd
  | asciiWordStartHalf
  | asciiWordEndHalf
  deriving DecidableEq

inductive Regex where
  | empty
  | chars (set : CharSet)
  | look (l : Look)
  | seq (a b : Regex)
  | alt (a b : Regex)
  -- At least `low` and at most `high` in a row, or any number from `low` on.
  | times (a : Regex) (low : Nat) (high : Option Nat)
  -- A group stands for what is in it. Some groups have their place in the text kept.
  | group (isKept : Bool) (a : Regex)
  deriving DecidableEq

namespace Look

def isIn (word : Char → Bool) (c : Option Char) : Bool :=
  match c with
  | some c => word c
  | none => false

def boundary (word : Char → Bool) (before after : Option Char) : Bool :=
  isIn word before != isIn word after

-- Whether the condition holds between the two characters, where there are such.
def holds : Look → Option Char → Option Char → Bool
  | textStart, before, _ => before.isNone
  | textEnd, _, after => after.isNone
  | lineStart, before, _ => before.isNone || before == some '\n'
  | lineEnd, _, after => after.isNone || after == some '\n'
  | returnLineStart, before, after =>
    before.isNone || before == some '\n' || (before == some '\r' && after != some '\n')
  | returnLineEnd, before, after =>
    after.isNone || after == some '\r' || (after == some '\n' && before != some '\r')
  | wordBoundary, before, after => boundary CharSet.isWord before after
  | notWordBoundary, before, after => !boundary CharSet.isWord before after
  | wordStart, before, after => !isIn CharSet.isWord before && isIn CharSet.isWord after
  | wordEnd, before, after => isIn CharSet.isWord before && !isIn CharSet.isWord after
  | wordStartHalf, before, _ => !isIn CharSet.isWord before
  | wordEndHalf, _, after => !isIn CharSet.isWord after
  | asciiWordBoundary, before, after => boundary CharSet.isAsciiWord before after
  | asciiNotWordBoundary, before, after => !boundary CharSet.isAsciiWord before after
  | asciiWordStart, before, after => !isIn CharSet.isAsciiWord before && isIn CharSet.isAsciiWord after
  | asciiWordEnd, before, after => isIn CharSet.isAsciiWord before && !isIn CharSet.isAsciiWord after
  | asciiWordStartHalf, before, _ => !isIn CharSet.isAsciiWord before
  | asciiWordEndHalf, _, after => !isIn CharSet.isAsciiWord after

end Look

namespace Regex

-- The character before a place in the text.
def charBefore? (text : List Char) : Nat → Option Char
  | 0 => none
  | i + 1 => text[i]?

-- `Matches text r i j`: the stretch of the text from place `i` to place `j`
-- is one that `r` describes.
inductive Matches (text : List Char) : Regex → Nat → Nat → Prop where
  | empty (i : Nat) : Matches text .empty i i
  | chars (set : CharSet) (i : Nat) (c : Char) :
      text[i]? = some c → set.contains c = true → Matches text (.chars set) i (i + 1)
  | look (l : Look) (i : Nat) :
      l.holds (charBefore? text i) text[i]? = true → Matches text (.look l) i i
  | seq (a b : Regex) (i j k : Nat) :
      Matches text a i j → Matches text b j k → Matches text (.seq a b) i k
  | altLeft (a b : Regex) (i j : Nat) : Matches text a i j → Matches text (.alt a b) i j
  | altRight (a b : Regex) (i j : Nat) : Matches text b i j → Matches text (.alt a b) i j
  | timesNil (a : Regex) (high : Option Nat) (i : Nat) : Matches text (.times a 0 high) i i
  | timesCons (a : Regex) (low : Nat) (high : Option Nat) (i j k : Nat) :
      high ≠ some 0 → Matches text a i j →
      Matches text (.times a (low - 1) (high.map (· - 1))) j k → Matches text (.times a low high) i k
  | group (isKept : Bool) (a : Regex) (i j : Nat) :
      Matches text a i j → Matches text (.group isKept a) i j

-- Whether some stretch of the text is described.
def OccursIn (r : Regex) (text : List Char) : Prop :=
  ∃ i j, i ≤ text.length ∧ Matches text r i j

-- Whether the expression can only match the empty text.
def isBlank : Regex → Bool
  | empty => true
  | chars _ => false
  | look _ => true
  | seq a b => a.isBlank && b.isBlank
  | alt a b => a.isBlank && b.isBlank
  | times a _ _ => a.isBlank
  | group _ a => a.isBlank

def seqAll : List Regex → Regex
  | [] => .empty
  | [r] => r
  | r :: rest => .seq r (seqAll rest)

def altAll : List Regex → Regex
  | [] => .chars CharSet.none
  | [r] => r
  | r :: rest => .alt r (altAll rest)

-- More than one look at the same place shows nothing new.
def repeated (r : Regex) (low : Nat) (high : Option Nat) : Regex :=
  let low := if r.isBlank then min low 1 else low
  let high := if r.isBlank then some (min (high.getD 1) 1) else high
  if high = some 0 then .empty
  else if low = 1 ∧ high = some 1 then r
  else .times r low high

end Regex

end DocStore
