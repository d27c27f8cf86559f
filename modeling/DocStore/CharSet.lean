import DocStore.Text.Blank
import DocStore.Text.Case
import DocStore.Text.Category

namespace DocStore

inductive CharSet where
  | ranges (rs : List (Nat × Nat))
  | runs (rs : List Text.Run)
  | literal (c : Char)
  -- All characters that are the same as `c` when case is ignored.
  | literalAnyCase (c : Char)
  | digits
  | blanks
  | words
  | union (a b : CharSet)
  | inter (a b : CharSet)
  | compl (a : CharSet)
  -- All characters that are the same as a member when case is ignored.
  | anyCase (a : CharSet)
  deriving DecidableEq

namespace CharSet

def asciiDigits : List (Nat × Nat) := [(0x30, 0x39)]

def asciiBlanks : List (Nat × Nat) := [(0x9, 0xd), (0x20, 0x20)]

def asciiWord : List (Nat × Nat) := [(0x30, 0x39), (0x41, 0x5a), (0x5f, 0x5f), (0x61, 0x7a)]

def isAsciiWord (c : Char) : Bool := Text.inRanges asciiWord c.toNat

def isWord (c : Char) : Bool :=
  if Text.isAscii c then isAsciiWord c else Text.inRanges Text.wordSpans c.toNat

def contains : CharSet → Char → Bool
  | ranges rs, c => Text.inRanges rs c.toNat
  | runs rs, c => Text.inRuns rs c.toNat
  | literal d, c => c == d
  | literalAnyCase d, c => Text.sameIgnoringCase d c
  | digits, c => Text.inRanges Text.digitSpans c.toNat
  | blanks, c => Text.isBlank c
  | words, c => isWord c
  | union a b, c => a.contains c || b.contains c
  | inter a b, c => a.contains c && b.contains c
  | compl a, c => !a.contains c
  | anyCase a, c => (Text.caseVariants c).any a.contains

def all : CharSet := ranges [(0, 0x10ffff)]

def none : CharSet := ranges []

def ascii : CharSet := ranges [(0, 0x7f)]

def diff (a b : CharSet) : CharSet := inter a (compl b)

def symmDiff (a b : CharSet) : CharSet := union (diff a b) (diff b a)

-- Whether the set is seen to hold every character in all of its cases.
def isCaseClosed : CharSet → Bool
  | ranges rs => rs.isEmpty
  | runs _ => false
  | literal _ => false
  | literalAnyCase _ => true
  | digits => true
  | blanks => true
  | words => true
  | union a b => a.isCaseClosed && b.isCaseClosed
  | inter a b => a.isCaseClosed && b.isCaseClosed
  | compl a => a.isCaseClosed
  | anyCase _ => true

-- The set with its characters in all of their cases.
def closeCase : CharSet → CharSet
  | literal c => literalAnyCase c
  | union a b => union a.closeCase b.closeCase
  | a => if a.isCaseClosed then a else anyCase a

-- The characters of either set, where nothing joined to a set is that set.
def join (a b : CharSet) : CharSet := if a = none then b else union a b

end CharSet

end DocStore
