namespace DocStore

inductive IntegerError where
  | empty
  | invalidDigit
  | tooLarge
  | tooSmall
  deriving DecidableEq

namespace IntegerError

def message : IntegerError → String
  | empty => "cannot parse integer from empty string"
  | invalidDigit => "invalid digit found in string"
  | tooLarge => "number too large to fit in target type"
  | tooSmall => "number too small to fit in target type"

end IntegerError

namespace Integer

def digit? (c : Char) : Option Nat :=
  if '0' ≤ c ∧ c ≤ '9' then some (c.toNat - '0'.toNat) else none

def isDigit (c : Char) : Bool := (digit? c).isSome

-- The value of a run of digits; other characters count as nothing.
def ofDigits (digits : List Char) : Nat :=
  digits.foldl (fun n c => 10 * n + (digit? c).getD 0) 0

-- Reads all of `digits`, stopping at the first character that is no digit or
-- that takes the value past `limit`.
def readDigits (limit : Nat) (beyond : IntegerError) : Nat → List Char → Except IntegerError Nat
  | n, [] => .ok n
  | n, c :: rest =>
    match digit? c with
    | none => .error .invalidDigit
    | some d => if limit < 10 * n + d then .error beyond else readDigits limit beyond (10 * n + d) rest

-- A number from 0 to `limit`, with or without a plus sign.
def parseUnsigned (limit : Nat) (text : String) : Except IntegerError Nat :=
  match text.toList with
  | [] => .error .empty
  | ['+'] => .error .invalidDigit
  | '+' :: digits => readDigits limit .tooLarge 0 digits
  | digits => readDigits limit .tooLarge 0 digits

-- A number from `-limit - 1` to `limit`, with or without a sign.
def parseSigned (limit : Nat) (text : String) : Except IntegerError Int :=
  match text.toList with
  | [] => .error .empty
  | ['+'] => .error .invalidDigit
  | ['-'] => .error .invalidDigit
  | '+' :: digits => (readDigits limit .tooLarge 0 digits).map Int.ofNat
  | '-' :: digits => (readDigits (limit + 1) .tooSmall 0 digits).map fun n => -(n : Int)
  | digits => (readDigits limit .tooLarge 0 digits).map Int.ofNat

def max16 : Nat := Nat.pow 2 15 - 1
def max32 : Nat := Nat.pow 2 31 - 1
def max64 : Nat := Nat.pow 2 63 - 1
def maxUnsigned32 : Nat := Nat.pow 2 32 - 1
def maxUnsigned64 : Nat := Nat.pow 2 64 - 1

def fits32 (n : Int) : Bool := decide (-(max32 : Int) - 1 ≤ n ∧ n ≤ max32)

def fits64 (n : Int) : Bool := decide (-(max64 : Int) - 1 ≤ n ∧ n ≤ max64)

def parse32? (text : String) : Option Int32 :=
  (parseSigned max32 text).toOption.map Int32.ofInt

def parse64? (text : String) : Option Int64 :=
  (parseSigned max64 text).toOption.map Int64.ofInt

end Integer

end DocStore
