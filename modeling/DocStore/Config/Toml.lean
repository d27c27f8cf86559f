import DocStore.Number.Integer
import DocStore.OrderedMap
import DocStore.Text.Blank
import DocStore.Text.Bytes
import DocStore.Time.Calendar

namespace DocStore

-- How a table came about, which decides what may be added to it.
inductive TableShape where
  -- By a header of its own.
  | header
  -- By the header of a table inside of it.
  | implied
  -- By a dotted key.
  | dotted
  -- Written as a value.
  | inline
  deriving DecidableEq

inductive Toml where
  | string (s : String)
  | integer (n : Int)
  | float
  | boolean (b : Bool)
  | datetime
  -- `growing` arrays are made by headers, one table each.
  | array (growing : Bool) (items : List Toml)
  | table (shape : TableShape) (fields : List (String × Toml))

namespace Toml

abbrev Fields := OrderedMap Toml

-- Adds an entry under a dotted key. All tables on the way have to be made by
-- dotted keys, or to be still without a header.
def assign : List String → Toml → Fields → Option Fields
  | [], _, _ => none
  | [key], v, fields => if fields.contains key then none else some (fields.insert key v)
  | key :: rest, v, fields =>
    let under (shape : TableShape) (inner : Fields) : Option Fields := do
      if shape != .dotted && rest.length == 1 then none
      else return fields.insert key (.table shape (← assign rest v inner))
    match fields.get? key with
    | none => under .dotted []
    | some (.table .dotted inner) => under .dotted inner
    | some (.table .implied inner) => under .implied inner
    | _ => none

-- Opens the table of a header, or adds a table to the array of a header.
def openTable (isArray : Bool) : List String → Fields → Option Fields
  | [], _ => none
  | [key], fields =>
    if isArray then
      match fields.get? key with
      | none => some (fields.insert key (.array true [.table .header []]))
      | some (.array true items) => some (fields.insert key (.array true (items ++ [.table .header []])))
      | _ => none
    else
      match fields.get? key with
      | none => some (fields.insert key (.table .header []))
      | some (.table .implied inner) => some (fields.insert key (.table .header inner))
      | _ => none
  | key :: rest, fields =>
    match fields.get? key with
    | none => do return fields.insert key (.table .implied (← openTable isArray rest []))
    | some (.table .inline _) => none
    | some (.table shape inner) => do
      return fields.insert key (.table shape (← openTable isArray rest inner))
    | some (.array true items) =>
      match items.getLast? with
      | some (.table shape inner) => do
        let inner ← openTable isArray rest inner
        return fields.insert key (.array true (items.dropLast ++ [.table shape inner]))
      | _ => none
    | _ => none

-- Adds an entry to the table that the last header has opened.
def assignUnder : List String → List String → Toml → Fields → Option Fields
  | [], path, v, fields => assign path v fields
  | key :: header, path, v, fields =>
    match fields.get? key with
    | some (.table shape inner) => do
      return fields.insert key (.table shape (← assignUnder header path v inner))
    | some (.array true items) =>
      match items.getLast? with
      | some (.table shape inner) => do
        let inner ← assignUnder header path v inner
        return fields.insert key (.array true (items.dropLast ++ [.table shape inner]))
      | _ => none
    | _ => none

abbrev Reader (α : Type) := List Char → Option (α × List Char)

def isControl (c : Char) : Bool := (c.toNat < 32 && c != '\t') || c.toNat == 127

def skipBlanks (text : List Char) : List Char := text.dropWhile fun c => c == ' ' || c == '\t'

-- What stands behind a comment, if there is one.
def skipComment (text : List Char) : Option (List Char) :=
  match text with
  | '#' :: rest =>
    let body := rest.takeWhile (· != '\n')
    let after := rest.drop body.length
    let body := if !after.isEmpty && body.getLast? == some '\r' then body.dropLast else body
    if body.any isControl then none else some after
  | _ => some text

def newline? (text : List Char) : Option (List Char) :=
  match text with
  | '\n' :: rest => some rest
  | '\r' :: '\n' :: rest => some rest
  | _ => none

-- The end of a line, after which the next one starts or nothing follows.
def endOfLine (text : List Char) : Option (List Char) := do
  let rest ← skipComment (skipBlanks text)
  match rest with
  | [] => some []
  | _ => newline? rest

-- Blanks, comments and line ends between the items of an array.
def skipLines : Nat → List Char → Option (List Char)
  | 0, text => some text
  | fuel + 1, text => do
    let rest ← skipComment (skipBlanks text)
    match newline? rest with
    | some rest => skipLines fuel rest
    | none => some rest

def isBareKeyChar (c : Char) : Bool := c.isAlphanum || c == '_' || c == '-'

def codePoint? (digits : List Char) : Option Char := do
  let n ← Text.hexNumber? digits
  if n < 0xd800 ∨ (0xe000 ≤ n ∧ n < 0x110000) then some (Char.ofNat n) else none

-- What an escape stands for, behind its backslash.
def escape? : Reader Char
  | 'b' :: rest => some (Char.ofNat 8, rest)
  | 't' :: rest => some ('\t', rest)
  | 'n' :: rest => some ('\n', rest)
  | 'f' :: rest => some (Char.ofNat 12, rest)
  | 'r' :: rest => some ('\r', rest)
  | '"' :: rest => some ('"', rest)
  | '\\' :: rest => some ('\\', rest)
  | 'u' :: rest =>
    if rest.length < 4 then none else do return (← codePoint? (rest.take 4), rest.drop 4)
  | 'U' :: rest =>
    if rest.length < 8 then none else do return (← codePoint? (rest.take 8), rest.drop 8)
  | _ => none

-- The rest of a string on one line, `quote` ending it.
def lineString? (quote : Char) (escapes : Bool) : Nat → List Char → Reader String
  | 0, _, _ => none
  | fuel + 1, before, text =>
    match text with
    | [] => none
    | c :: rest =>
      if c = quote then some (String.ofList before.reverse, rest)
      else if c = '\\' && escapes then do
        let (d, rest) ← escape? rest
        lineString? quote escapes fuel (d :: before) rest
      else if isControl c then none
      else lineString? quote escapes fuel (c :: before) rest

-- A backslash at the end of a line takes all white space behind it away.
def lineContinuation? (text : List Char) : Option (List Char) :=
  match newline? (skipBlanks text) with
  | some rest => some (rest.dropWhile fun c => c == ' ' || c == '\t' || c == '\n' || c == '\r')
  | none => none

-- The rest of a string that three quotes end; two more may stand before them.
def blockString? (quote : Char) (escapes : Bool) : Nat → List Char → Reader String
  | 0, _, _ => none
  | fuel + 1, before, text =>
    match text with
    | [] => none
    | c :: rest =>
      if c = quote then
        let quotes := (text.takeWhile (· == quote)).length
        if quotes < 3 then blockString? quote escapes fuel (c :: before) rest
        else if 5 < quotes then none
        else some (String.ofList ((List.replicate (quotes - 3) quote ++ before).reverse), text.drop quotes)
      else if c = '\\' && escapes then
        match lineContinuation? rest with
        | some rest => blockString? quote escapes fuel before rest
        | none => do
          let (d, rest) ← escape? rest
          blockString? quote escapes fuel (d :: before) rest
      else
        match newline? text with
        | some rest => blockString? quote escapes fuel ('\n' :: before) rest
        | none => if isControl c then none else blockString? quote escapes fuel (c :: before) rest

def string? (quote : Char) (text : List Char) : Option (String × List Char) :=
  let escapes := quote == '"'
  match text with
  | a :: b :: rest =>
    if a = quote ∧ b = quote then blockString? quote escapes (rest.length + 1) [] ((newline? rest).getD rest)
    else lineString? quote escapes (text.length + 1) [] text
  | _ => lineString? quote escapes (text.length + 1) [] text

def simpleKey? (text : List Char) : Option (String × List Char) :=
  match text with
  | '"' :: rest => lineString? '"' true (rest.length + 1) [] rest
  | '\'' :: rest => lineString? '\'' false (rest.length + 1) [] rest
  | _ =>
    let key := text.takeWhile isBareKeyChar
    if key.isEmpty then none else some (String.ofList key, text.drop key.length)

-- A key with its dots, and blanks around these.
def key? : Nat → Reader (List String)
  | 0, _ => none
  | fuel + 1, text => do
    let (first, rest) ← simpleKey? (skipBlanks text)
    match skipBlanks rest with
    | '.' :: rest => do
      let (others, rest) ← key? fuel rest
      return (first :: others, rest)
    | rest => return ([first], rest)

-- Digits with single underscores between them.
def plainDigits? (isDigit : Char → Bool) (text : List Char) : Option (List Char) :=
  let pieces := Text.splitAt (· == '_') text
  if pieces.all (fun piece => !piece.isEmpty && piece.all isDigit) then some pieces.flatten else none

def unsigned (text : List Char) : Bool × List Char :=
  match text with
  | '-' :: rest => (true, rest)
  | '+' :: rest => (false, rest)
  | _ => (false, text)

def ofRadix (radix : Nat) (digits : List Char) : Nat :=
  digits.foldl (fun n c => radix * n + (Text.hexValue? c).getD 0) 0

def radixInteger? (radix : Nat) (text : List Char) : Option Int := do
  let isDigit (c : Char) : Bool := match Text.hexValue? c with
    | some d => decide (d < radix)
    | none => false
  return ofRadix radix (← plainDigits? isDigit text)

-- A decimal whole number does not start with a superfluous zero.
def decimalInteger? (text : List Char) : Option Int := do
  let (negative, digits) := unsigned text
  let digits ← plainDigits? Integer.isDigit digits
  if digits.head? == some '0' && 1 < digits.length then none
  let n : Int := Integer.ofDigits digits
  return if negative then -n else n

def integer? (text : List Char) : Option Int := do
  let n ← match text with
    | '0' :: 'x' :: digits => radixInteger? 16 digits
    | '0' :: 'o' :: digits => radixInteger? 8 digits
    | '0' :: 'b' :: digits => radixInteger? 2 digits
    | _ => decimalInteger? text
  if -(Nat.pow 2 127 : Int) ≤ n ∧ n < Nat.pow 2 128 then some n else none

def isFloat (text : List Char) : Bool :=
  let (_, text) := unsigned text
  let mantissa := text.takeWhile fun c => c != 'e' && c != 'E'
  let exponent := text.drop mantissa.length
  let whole := mantissa.takeWhile (· != '.')
  let fraction := mantissa.drop whole.length
  if text == "inf".toList || text == "nan".toList then true
  else
    (decimalInteger? whole).isSome && whole.head? != some '-' && whole.head? != some '+' &&
      (fraction.isEmpty || (plainDigits? Integer.isDigit (fraction.drop 1)).isSome) &&
      (exponent.isEmpty || (plainDigits? Integer.isDigit (unsigned (exponent.drop 1)).2).isSome) &&
      !(fraction.isEmpty && exponent.isEmpty)

def twoDigits? (limit : Nat) : Reader Nat
  | a :: b :: rest =>
    if Integer.isDigit a && Integer.isDigit b && decide (Integer.ofDigits [a, b] ≤ limit)
    then some (Integer.ofDigits [a, b], rest) else none
  | _ => none

def expect? (c : Char) : List Char → Option (List Char)
  | d :: rest => if d = c then some rest else none
  | [] => none

def date? (text : List Char) : Option (List Char) := do
  let year := text.take 4
  if year.length != 4 || !year.all Integer.isDigit then none
  let (month, rest) ← twoDigits? 12 (← expect? '-' (text.drop 4))
  let (day, rest) ← twoDigits? 31 (← expect? '-' rest)
  let date : Calendar.Date := ⟨Integer.ofDigits year, month, day⟩
  if date.isValid then some rest else none

def time? (text : List Char) : Option (List Char) := do
  let (_, rest) ← twoDigits? 23 text
  let (_, rest) ← twoDigits? 59 (← expect? ':' rest)
  let (_, rest) ← twoDigits? 60 (← expect? ':' rest)
  match rest with
  | '.' :: rest =>
    let digits := rest.takeWhile Integer.isDigit
    if digits.isEmpty then none else some (rest.drop digits.length)
  | _ => some rest

def isOffset (text : List Char) : Bool :=
  match text with
  | [] => true
  | ['Z'] => true
  | ['z'] => true
  | sign :: rest =>
    (sign == '+' || sign == '-') &&
      (match twoDigits? 23 rest with
        | some (_, ':' :: rest) =>
          match twoDigits? 59 rest with
          | some (_, []) => true
          | _ => false
        | _ => false)

def isDatetime (text : List Char) : Bool :=
  match date? text with
  | some [] => true
  | some (separator :: rest) =>
    (separator == 'T' || separator == 't' || separator == ' ') &&
      (match time? rest with
        | some rest => isOffset rest
        | none => false)
  | none => time? text == some []

def isScalarChar (c : Char) : Bool := c.isAlphanum || ['+', '-', '.', '_', ':'].contains c

-- The characters of a value without quotes. A date may have a time behind a blank.
def scalarText (text : List Char) : List Char :=
  let first := text.takeWhile isScalarChar
  match text.drop first.length with
  | ' ' :: a :: rest =>
    if date? first == some [] && Integer.isDigit a then first ++ ' ' :: (a :: rest).takeWhile isScalarChar
    else first
  | _ => first

def scalar? (text : List Char) : Option (Toml × List Char) :=
  let word := scalarText text
  let rest := text.drop word.length
  if word == "true".toList then some (.boolean true, rest)
  else if word == "false".toList then some (.boolean false, rest)
  else
    match integer? word with
    | some n => some (.integer n, rest)
    | none =>
      if isFloat word then some (.float, rest)
      else if isDatetime word then some (.datetime, rest)
      else none

mutual

def value? : Nat → Reader Toml
  | 0, _ => none
  | fuel + 1, text =>
    match text with
    | '"' :: rest => (string? '"' rest).map fun (s, rest) => (.string s, rest)
    | '\'' :: rest => (string? '\'' rest).map fun (s, rest) => (.string s, rest)
    | '[' :: rest => items? fuel [] rest
    | '\x7b' :: rest =>
      match skipBlanks rest with
      | '\x7d' :: rest => some (.table .inline [], rest)
      | rest => inlineFields? fuel [] rest
    | _ => scalar? text

-- The items of an array and its closing bracket; a comma may follow the last.
def items? : Nat → List Toml → Reader Toml
  | 0, _, _ => none
  | fuel + 1, before, text => do
    match ← skipLines (text.length + 1) text with
    | ']' :: rest => return (.array false before.reverse, rest)
    | text => do
      let (item, rest) ← value? fuel text
      match ← skipLines (rest.length + 1) rest with
      | ',' :: rest => items? fuel (item :: before) rest
      | ']' :: rest => return (.array false (item :: before).reverse, rest)
      | _ => none

def inlineFields? : Nat → Fields → Reader Toml
  | 0, _, _ => none
  | fuel + 1, fields, text => do
    let (path, rest) ← key? (text.length + 1) text
    let rest ← expect? '=' (skipBlanks rest)
    let (v, rest) ← value? fuel (skipBlanks rest)
    let fields ← assign path v fields
    match skipBlanks rest with
    | ',' :: rest => inlineFields? fuel fields rest
    | '\x7d' :: rest => return (.table .inline fields, rest)
    | _ => none

end

-- A header between its brackets, which are doubled for arrays of tables.
def header? (text : List Char) : Option ((Bool × List String) × List Char) :=
  match text with
  | '[' :: '[' :: rest => do
    let (path, rest) ← key? (rest.length + 1) rest
    match skipBlanks rest with
    | ']' :: ']' :: rest => return ((true, path), rest)
    | _ => none
  | '[' :: rest => do
    let (path, rest) ← key? (rest.length + 1) rest
    match skipBlanks rest with
    | ']' :: rest => return ((false, path), rest)
    | _ => none
  | _ => none

-- The lines of a document, one step each; `header` names the open table.
def lines? : Nat → List String → Fields → List Char → Option Fields
  | 0, _, _, _ => none
  | fuel + 1, header, fields, text =>
    match skipBlanks text with
    | [] => some fields
    | '[' :: rest => do
      let ((isArray, path), rest) ← header? ('[' :: rest)
      let fields ← openTable isArray path fields
      lines? fuel path fields (← endOfLine rest)
    | text =>
      match endOfLine text with
      | some rest => lines? fuel header fields rest
      | none => do
        let (path, rest) ← key? (text.length + 1) text
        let rest ← expect? '=' (skipBlanks rest)
        let (v, rest) ← value? (2 * text.length + 2) (skipBlanks rest)
        let fields ← assignUnder header path v fields
        lines? fuel header fields (← endOfLine rest)

-- A whole document, a mark of its byte order in front counting as nothing.
def parse? (text : String) : Option Fields :=
  let chars := match text.toList with
    | c :: rest => if c.toNat = 0xfeff then rest else c :: rest
    | [] => []
  lines? (chars.length + 1) [] [] chars

end Toml

end DocStore
