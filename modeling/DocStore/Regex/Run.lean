import DocStore.Regex

namespace DocStore.Regex

-- Sets of places in the text are natural numbers, one bit for each place: here the places
-- in front of a character of the set.
def charMask (set : CharSet) : List Char → Nat
  | [] => 0
  | c :: rest => (if set.contains c then 1 else 0) + 2 * charMask set rest

-- The places where a condition holds, `before` being the character in front.
def lookMask (l : Look) (before : Option Char) : List Char → Nat
  | [] => if l.holds before none then 1 else 0
  | c :: rest => (if l.holds before (some c) then 1 else 0) + 2 * lookMask l (some c) rest

-- Adds to a set what one more step reaches from it, until nothing is new.
def closure (step : Nat → Nat) : Nat → Nat → Nat
  | 0, places => places
  | fuel + 1, places =>
    let more := places ||| step places
    if more = places then places else closure step fuel more

-- Takes so many steps, or as many as still change something.
def iterate (step : Nat → Nat) : Nat → Nat → Nat
  | 0, places => places
  | n + 1, places =>
    let next := step places
    if next = places then places else iterate step n next

-- The number of further steps that may reach a new place.
def extraSteps (text : List Char) (low : Nat) : Option Nat → Nat
  | some high => high - low
  | none => text.length + 1

def run (text : List Char) : Regex → Nat → Nat
  | empty, places => places
  | chars set, places => 2 * (places &&& charMask set text)
  | look l, places => places &&& lookMask l none text
  | seq a b, places => run text b (run text a places)
  | alt a b, places => run text a places ||| run text b places
  | times a low high, places =>
    closure (run text a) (extraSteps text low high) (iterate (run text a) low places)
  | group _ a, places => run text a places

def allPlaces (text : List Char) : Nat := Nat.pow 2 (text.length + 1) - 1

def isMatch (r : Regex) (text : List Char) : Bool := run text r (allPlaces text) != 0

end DocStore.Regex
