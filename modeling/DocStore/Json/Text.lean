import DocStore.Number.Integer
import DocStore.Text.Bytes

namespace DocStore

structure JsonNumber where
  negative : Bool
  whole : List Char
  -- Digits behind the point; a point without digits is no number.
  fraction : List Char
  -- Sign and digits of the exponent.
  exponent : Option (Bool × List Char)
  deriving DecidableEq

-- Numbers are kept as they are written and strings that name half a surrogate pair are
-- marked, because a reader that passes over a value does not mind either.
inductive JsonText where
  | null
  | boolean (b : Bool)
  | number (n : JsonNumber)
  | string (s : Option String)
  | array (items : List JsonText)
  | object (fields : List (Option String × JsonText))

namespace JsonText

def isSpace (c : Char) : Bool := c == ' ' || c == '\t' || c == '\n' || c == '\r'

def skipSpace (text : List Char) : List Char := text.dropWhile isSpace

def digitsOf (text : List Char) : List Char × List Char :=
  (text.takeWhile Integer.isDigit, text.dropWhile Integer.isDigit)

-- The digits in front of the point: no zero at the start but a single one.
def wholePart? (text : List Char) : Option (List Char × List Char) :=
  match digitsOf text with
  | ([], _) => none
  | (['0'], rest) => some (['0'], rest)
  | ('0' :: _, _) => none
  | (digits, rest) => some (digits, rest)

def fractionPart? (text : List Char) : Option (List Char × List Char) :=
  match text with
  | '.' :: rest =>
    match digitsOf rest with
    | ([], _) => none
    | (digits, rest) => some (digits, rest)
  | _ => some ([], text)

def exponentPart? (text : List Char) : Option (Option (Bool × List Char) × List Char) :=
  let signed (negative : Bool) (text : List Char) : Option (Option (Bool × List Char) × List Char) :=
    match digitsOf text with
    | ([], _) => none
    | (digits, rest) => some (some (negative, digits), rest)
  let marked (text : List Char) : Option (Option (Bool × List Char) × List Char) :=
    match text with
    | '+' :: rest => signed false rest
    | '-' :: rest => signed true rest
    | rest => signed false rest
  match text with
  | 'e' :: rest => marked rest
  | 'E' :: rest => marked rest
  | rest => some (none, rest)

def number? (text : List Char) : Option (JsonNumber × List Char) := do
  let (negative, text) := match text with
    | '-' :: rest => (true, rest)
    | rest => (false, rest)
  let (whole, text) ← wholePart? text
  let (fraction, text) ← fractionPart? text
  let (exponent, text) ← exponentPart? text
  return (⟨negative, whole, fraction, exponent⟩, text)

def isHighSurrogate (n : Nat) : Bool := decide (0xd800 ≤ n ∧ n < 0xdc00)

def isLowSurrogate (n : Nat) : Bool := decide (0xdc00 ≤ n ∧ n < 0xe000)

def simpleEscape? : Char → Option Char
  | '"' => some '"'
  | '\\' => some '\\'
  | '/' => some '/'
  | 'b' => some (Char.ofNat 8)
  | 'f' => some (Char.ofNat 12)
  | 'n' => some '\n'
  | 'r' => some '\r'
  | 't' => some '\t'
  | _ => none

-- The characters up to the closing quote, or nothing in their place once half
-- a surrogate pair has been met.
def stringBody? : Nat → Option (List Char) → List Char → Option (Option String × List Char)
  | 0, _, _ => none
  | fuel + 1, chars, text =>
    let push (c : Char) (rest : List Char) := stringBody? fuel (chars.map (c :: ·)) rest
    match text with
    | [] => none
    | '"' :: rest => some (chars.map fun cs => String.ofList cs.reverse, rest)
    | '\\' :: 'u' :: a :: b :: c :: d :: rest =>
      match Text.hexNumber? [a, b, c, d] with
      | none => none
      | some n =>
        if isHighSurrogate n then
          match rest with
          | '\\' :: 'u' :: e :: f :: g :: h :: after =>
            match Text.hexNumber? [e, f, g, h] with
            | none => none
            | some m =>
              if isLowSurrogate m then
                push (Char.ofNat (0x10000 + (n - 0xd800) * 1024 + (m - 0xdc00))) after
              else stringBody? fuel none rest
          | _ => stringBody? fuel none rest
        else if isLowSurrogate n then stringBody? fuel none rest
        else push (Char.ofNat n) rest
    | '\\' :: c :: rest =>
      match simpleEscape? c with
      | some d => push d rest
      | none => none
    | c :: rest => if c.toNat < 32 then none else push c rest

-- A string behind its opening quote.
def string? (text : List Char) : Option (Option String × List Char) :=
  stringBody? (text.length + 1) (some []) text

mutual

def value? : Nat → List Char → Option (JsonText × List Char)
  | 0, _ => none
  | fuel + 1, text =>
    match skipSpace text with
    | 'n' :: 'u' :: 'l' :: 'l' :: rest => some (.null, rest)
    | 't' :: 'r' :: 'u' :: 'e' :: rest => some (.boolean true, rest)
    | 'f' :: 'a' :: 'l' :: 's' :: 'e' :: rest => some (.boolean false, rest)
    | '"' :: rest => (string? rest).map fun (s, rest) => (.string s, rest)
    | '[' :: rest =>
      match skipSpace rest with
      | ']' :: rest => some (.array [], rest)
      | rest => (items? fuel [] rest).map fun (items, rest) => (.array items, rest)
    | '\x7b' :: rest =>
      match skipSpace rest with
      | '\x7d' :: rest => some (.object [], rest)
      | rest => (fields? fuel [] rest).map fun (fields, rest) => (.object fields, rest)
    | text => (number? text).map fun (n, rest) => (.number n, rest)

-- Items up to the closing bracket; those read before stand in reverse.
def items? : Nat → List JsonText → List Char → Option (List JsonText × List Char)
  | 0, _, _ => none
  | fuel + 1, before, text =>
    match value? fuel text with
    | none => none
    | some (item, rest) =>
      match skipSpace rest with
      | ',' :: rest => items? fuel (item :: before) rest
      | ']' :: rest => some ((item :: before).reverse, rest)
      | _ => none

def fields? : Nat → List (Option String × JsonText) → List Char →
    Option (List (Option String × JsonText) × List Char)
  | 0, _, _ => none
  | fuel + 1, before, text =>
    match skipSpace text with
    | '"' :: rest =>
      match string? rest with
      | none => none
      | some (key, rest) =>
        match skipSpace rest with
        | ':' :: rest =>
          match value? fuel rest with
          | none => none
          | some (item, rest) =>
            match skipSpace rest with
            | ',' :: rest => fields? fuel ((key, item) :: before) rest
            | '\x7d' :: rest => some (((key, item) :: before).reverse, rest)
            | _ => none
        | _ => none
    | _ => none

end

-- One value with nothing but space around it. No value takes more steps than
-- twice its characters.
def parse? (text : String) : Option JsonText :=
  let chars := text.toList
  match value? (2 * chars.length + 2) chars with
  | some (v, rest) => if (skipSpace rest).isEmpty then some v else none
  | none => none

end JsonText

end DocStore
