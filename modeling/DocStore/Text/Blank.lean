import DocStore.Text.Runs

namespace DocStore.Text

-- The property White_Space.
def blanks : List (Nat × Nat) :=
  [
    (0x9, 0xd), (0x20, 0x20), (0x85, 0x85), (0xa0, 0xa0), (0x1680, 0x1680), (0x2000, 0x200a),
    (0x2028, 0x2029), (0x202f, 0x202f), (0x205f, 0x205f), (0x3000, 0x3000)
  ]

def isBlank (c : Char) : Bool := inRanges blanks c.toNat

def dropBlanksEnd (cs : List Char) : List Char := (cs.reverse.dropWhile isBlank).reverse

def trim (s : String) : String := String.ofList (dropBlanksEnd (s.toList.dropWhile isBlank))

-- The pieces between the separators, empty ones included; never no piece at all.
def splitAt (separator : Char → Bool) : List Char → List (List Char)
  | [] => [[]]
  | c :: rest =>
    if separator c then [] :: splitAt separator rest
    else
      match splitAt separator rest with
      | [] => [[c]]
      | piece :: pieces => (c :: piece) :: pieces

def splitOnChar (separator : Char) (s : String) : List String :=
  (splitAt (· == separator) s.toList).map String.ofList

-- The pieces between white space, without empty ones.
def words (s : String) : List String :=
  ((splitAt isBlank s.toList).filter (!·.isEmpty)).map String.ofList

-- The two sides of the first separator.
def splitOnce? (separator : Char) (s : String) : Option (String × String) :=
  let first := s.toList.takeWhile (· != separator)
  match s.toList.drop first.length with
  | [] => none
  | _ :: rest => some (String.ofList first, String.ofList rest)

def replaceChar (old new : Char) (s : String) : String :=
  String.ofList (s.toList.map fun c => if c = old then new else c)

def startsWithChar (c : Char) (s : String) : Bool :=
  match s.toList with
  | [] => false
  | d :: _ => d == c

-- Whether `needle` occurs in one piece in the text.
def occursIn (needle : List Char) : List Char → Bool
  | [] => needle.isEmpty
  | c :: rest => needle.isPrefixOf (c :: rest) || occursIn needle rest

def joined (separator : String) : List String → String
  | [] => ""
  | [s] => s
  | s :: rest => s ++ separator ++ joined separator rest

end DocStore.Text
