import DocStore.Number.Double
import DocStore.Number.Integer

namespace DocStore

namespace Double

-- The number nearest to `coefficient * 10 ^ exponent`. Exponents far outside
-- the range give infinity or zero without being raised to.
def ofDecimal (negative : Bool) (coefficient : Nat) (exponent : Int) : Double :=
  let length : Int := (Nat.toDigits 10 coefficient).length
  if coefficient = 0 then zero negative
  else if 400 < exponent + length then infinity negative
  else if exponent + length < -400 then zero negative
  else if 0 ≤ exponent then ofRatio negative (coefficient * Nat.pow 10 exponent.toNat) 1
  else ofRatio negative coefficient (Nat.pow 10 (-exponent).toNat)

def readExponent (text : List Char) : Option Int :=
  let unsigned (digits : List Char) : Option Int :=
    if digits.isEmpty || !digits.all Integer.isDigit then none else some (Integer.ofDigits digits)
  match text with
  | '-' :: digits => (unsigned digits).map (- ·)
  | '+' :: digits => unsigned digits
  | digits => unsigned digits

-- An unsigned decimal: digits with at most one point among them, at least
-- one digit, and an optional exponent.
def parseUnsigned? (negative : Bool) (text : List Char) : Option Double :=
  let mantissa := text.takeWhile fun c => c != 'e' && c != 'E'
  let whole := mantissa.takeWhile (· != '.')
  let fraction := (mantissa.drop whole.length).drop 1
  let digits := whole ++ fraction
  let exponent := match text.drop mantissa.length with
    | [] => some 0
    | _ :: rest => readExponent rest
  if digits.isEmpty || !digits.all Integer.isDigit then none
  else exponent.map fun e => ofDecimal negative (Integer.ofDigits digits) (e - fraction.length)

def parseMagnitude? (negative : Bool) (text : List Char) : Option Double :=
  match String.ofList (text.map Char.toLower) with
  | "inf" => some (infinity negative)
  | "infinity" => some (infinity negative)
  | "nan" => some (nan negative)
  | _ => parseUnsigned? negative text

-- Reading rounds to nearest; writing gives the fewest digits that read back, of those the
-- nearest, and never an exponent.
def parse? (text : String) : Option Double :=
  match text.toList with
  | '-' :: rest => parseMagnitude? true rest
  | '+' :: rest => parseMagnitude? false rest
  | rest => parseMagnitude? false rest

-- Digits without a point and the power of ten that the last of them counts.
structure Decimal where
  digits : Nat
  exponent : Int
  deriving DecidableEq

-- Four times the value and the ends of the interval that rounds to it, all in
-- quarters of a unit. Below a power of two the gap is half as wide.
structure Interval where
  low : Nat
  value : Nat
  high : Nat
  closed : Bool

def Interval.of (x : Double) : Interval :=
  let gap := if x.exponentField = 0 then 1 else Nat.pow 2 (x.exponentField - 1)
  let below := if x.fractionField = 0 && decide (1 < x.exponentField) then gap else 2 * gap
  { low := 4 * x.units - below
    value := 4 * x.units
    high := 4 * x.units + 2 * gap
    closed := x.fractionField % 2 == 0 }

-- Numerator and denominator of `q` quarters of a unit over `10 ^ exponent`.
def onGrid (q : Nat) (exponent : Int) : Nat × Nat :=
  let quarters := 4 * unitsOfOne
  if 0 ≤ exponent then (q, quarters * Nat.pow 10 exponent.toNat)
  else (q * Nat.pow 10 (-exponent).toNat, quarters)

-- Which of the two grid points around the value reads back, the nearer first
-- and the upper one at equal distance.
def candidate? (i : Interval) (exponent : Int) : Option Decimal :=
  let (num, den) := onGrid i.value exponent
  let (low, _) := onGrid i.low exponent
  let (high, _) := onGrid i.high exponent
  let floor := num / den
  let inside (d : Nat) : Bool :=
    if i.closed then decide (low ≤ d * den ∧ d * den ≤ high)
    else decide (low < d * den ∧ d * den < high)
  let upFirst := decide (den ≤ 2 * (num % den))
  let order := if upFirst then [floor + 1, floor] else [floor, floor + 1]
  (order.find? inside).map fun d => ⟨d, exponent⟩

-- The exponent of the leading digit of `num / den`.
def leadingExponent (num den : Nat) : Int :=
  if den ≤ num then (Nat.toDigits 10 (num / den)).length - 1
  else -((Nat.toDigits 10 ((den - 1) / num)).length : Int)

def shortestFrom (i : Interval) (leading : Int) : Nat → Nat → Decimal
  | 0, _ => ⟨0, 0⟩
  | fuel + 1, count =>
    match candidate? i (leading + 1 - count) with
    | some d => d
    | none => shortestFrom i leading fuel (count + 1)

-- The decimal with the fewest digits that reads back as the positive finite `x`.
def shortest (x : Double) : Decimal :=
  let i := Interval.of x
  shortestFrom i (leadingExponent i.value (4 * unitsOfOne)) 18 1

-- Positional notation without superfluous zeros.
def Decimal.text (d : Decimal) : String :=
  let digits := Nat.toDigits 10 d.digits
  if 0 ≤ d.exponent then String.ofList (digits ++ List.replicate d.exponent.toNat '0')
  else
    let places := (-d.exponent).toNat
    let padded := List.replicate (places + 1 - digits.length) '0' ++ digits
    let whole := padded.take (padded.length - places)
    let fraction := (padded.drop (padded.length - places)).reverse.dropWhile (· == '0') |>.reverse
    if fraction.isEmpty then String.ofList whole else String.ofList (whole ++ '.' :: fraction)

def text (x : Double) : String :=
  let sign := if x.isNegative then "-" else ""
  if x.isNaN then "NaN"
  else if x.isInfinite then sign ++ "inf"
  else if x.isZero then sign ++ "0"
  else sign ++ x.shortest.text

end Double

end DocStore
