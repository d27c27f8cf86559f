import DocStore.Text.CaseData

namespace DocStore.Text

def isAscii (c : Char) : Bool := decide (c.toNat < 128)

def isLowercase (c : Char) : Bool :=
  if isAscii c then decide ('a' ≤ c ∧ c ≤ 'z') else inRuns lowercase c.toNat

def isUppercase (c : Char) : Bool :=
  if isAscii c then decide ('A' ≤ c ∧ c ≤ 'Z') else inRuns uppercase c.toNat

def isCased (c : Char) : Bool := isLowercase c || isUppercase c || inRuns titlecase c.toNat

def isCaseIgnorable (c : Char) : Bool := inRanges caseIgnorable c.toNat

-- The text with the letters A to Z made small and all else kept.
def asciiLowercase (s : String) : String := String.ofList (s.toList.map Char.toLower)

def equalIgnoringAsciiCase (s t : String) : Bool := asciiLowercase s == asciiLowercase t

-- The one small letter that a character has, or the character itself.
def lowerChar (c : Char) : Char :=
  if isAscii c then c.toLower else Char.ofNat (shifted lowerShifts c.toNat)

-- The dotted capital I is the one character with a longer small form.
def lower (c : Char) : List Char :=
  if c.toNat = 0x130 then ['i', Char.ofNat 0x307] else [lowerChar c]

def upper (c : Char) : List Char :=
  if isAscii c then [c.toUpper]
  else
    match upperExpansions.lookup c.toNat with
    | some codes => codes.map Char.ofNat
    | none => [Char.ofNat (shifted upperShifts c.toNat)]

-- Whether the first character that is not ignorable is a cased one.
def meetsCased (cs : List Char) : Bool :=
  match cs.dropWhile isCaseIgnorable with
  | c :: _ => isCased c
  | [] => false

-- `before` holds the characters already passed, nearest first. A capital
-- sigma at the end of a word has a small form of its own.
def lowercaseAfter (before : List Char) : List Char → List Char
  | [] => []
  | c :: rest =>
    let small :=
      if c.toNat = 0x3a3 then
        [Char.ofNat (if meetsCased before && !meetsCased rest then 0x3c2 else 0x3c3)]
      else lower c
    small ++ lowercaseAfter (c :: before) rest

def lowercased (s : String) : String := String.ofList (lowercaseAfter [] s.toList)

-- The representative of all characters that are the same when case is ignored.
def foldCase (c : Char) : Char :=
  if isAscii c then c.toLower
  else
    let small := lowerChar c
    match foldExceptions.lookup small.toNat with
    | some n => Char.ofNat n
    | none => small

def sameIgnoringCase (c d : Char) : Bool := foldCase c == foldCase d

-- Every character that is the same as `c` when case is ignored.
def caseVariants (c : Char) : List Char :=
  let folded := (foldCase c).toNat
  let smalls := folded :: (foldExceptions.filter (·.2 == folded)).map (·.1)
  let ascii := if 97 ≤ folded ∧ folded ≤ 122 then [folded - 32] else []
  let capitals := smalls.flatMap fun n => lowerShifts.filterMap (·.moveBack? n)
  (smalls ++ ascii ++ capitals).map Char.ofNat

end DocStore.Text
