import DocStore.Number.DoubleText

namespace DocStore

-- Decimal floating-point numbers of 34 digits.
inductive Decimal128 where
  | finite (negative : Bool) (coefficient : Nat) (exponent : Int)
  | infinity (negative : Bool)
  | nan (negative signalling : Bool)
  deriving DecidableEq

namespace Decimal128

def maxDigits : Nat := 34
def minExponent : Int := -6176
def maxExponent : Int := 6111

-- The first `count` digits, provided that nothing but zeros is cut off.
def cutZeros? (digits : List Char) (count : Nat) : Option (List Char) :=
  if (digits.drop count).all (· == '0') then some (digits.take count) else none

def fits16 (n : Int) : Bool := decide (-(Integer.max16 : Int) - 1 ≤ n ∧ n ≤ Integer.max16)

-- Digits and exponent brought into range by dropping or adding zeros.
def settle? (digits : List Char) (exponent : Int) : Option (List Char × Int) := do
  let (digits, exponent) ←
    if maxDigits < digits.length then
      (cutZeros? digits maxDigits).map fun d => (d, exponent + (digits.length - maxDigits : Nat))
    else some (digits, exponent)
  if exponent < minExponent then
    if digits == ['0'] then return (digits, minExponent)
    let surplus := (minExponent - exponent).toNat
    if digits.length < surplus then none
    else return (← cutZeros? digits (digits.length - surplus), minExponent)
  if maxExponent < exponent then
    if digits == ['0'] then return (digits, maxExponent)
    let missing := (exponent - maxExponent).toNat
    if maxDigits < digits.length + missing then none
    else return (digits ++ List.replicate missing '0', maxExponent)
  return (digits, exponent)

def parseFinite? (negative : Bool) (text : List Char) : Option Decimal128 := do
  let mantissa := text.takeWhile (· != 'e')
  let exponent ← match text.drop mantissa.length with
    | [] => some 0
    | _ :: rest => (Integer.parseSigned Integer.max16 (String.ofList rest)).toOption
  let whole := mantissa.takeWhile (· != '.')
  let fraction := (mantissa.drop whole.length).drop 1
  let exponent := exponent - fraction.length
  if !fits16 exponent then none
  let significant := (whole ++ fraction).dropWhile (· == '0')
  let digits := if significant.isEmpty then ['0'] else significant
  let (digits, exponent) ← settle? digits exponent
  let coefficient ← (Integer.parseUnsigned (Nat.pow 10 maxDigits - 1) (String.ofList
    (if digits.isEmpty then ['0'] else digits))).toOption
  return .finite negative coefficient exponent

def parseUnsigned? (negative : Bool) (text : List Char) : Option Decimal128 :=
  let lower := text.map Char.toLower
  match String.ofList lower with
  | "nan" => some (.nan negative false)
  | "snan" => some (.nan negative true)
  | "infinity" => some (.infinity negative)
  | "inf" => some (.infinity negative)
  | _ => parseFinite? negative lower

def parse? (text : String) : Option Decimal128 :=
  match text.toList with
  | '-' :: rest => parseUnsigned? true rest
  | '+' :: rest => parseUnsigned? false rest
  | rest => parseUnsigned? false rest

-- Positional down to six zeros after the point, with an exponent otherwise.
def finiteText (coefficient : Nat) (exponent : Int) : List Char :=
  let digits := Nat.toDigits 10 coefficient
  let leading := exponent + digits.length - 1
  if exponent ≤ 0 ∧ -6 ≤ leading then
    let places := exponent.natAbs
    if places = 0 then digits
    else if digits.length ≤ places then
      '0' :: '.' :: List.replicate (places - digits.length) '0' ++ digits
    else digits.take (digits.length - places) ++ '.' :: digits.drop (digits.length - places)
  else
    let fraction := digits.drop 1
    let point := if fraction.isEmpty then [] else '.' :: fraction
    let sign := if leading < 0 then '-' else '+'
    digits.take 1 ++ point ++ 'E' :: sign :: Nat.toDigits 10 leading.natAbs

def text : Decimal128 → String
  | finite negative coefficient exponent =>
    String.ofList ((if negative then ['-'] else []) ++ finiteText coefficient exponent)
  | infinity negative => if negative then "-Infinity" else "Infinity"
  | nan negative _ => if negative then "-NaN" else "NaN"

def toDouble : Decimal128 → Double
  | finite negative coefficient exponent => Double.ofDecimal negative coefficient exponent
  | infinity negative => Double.infinity negative
  | nan negative _ => Double.nan negative

-- The interchange form as a number: sign, exponent counted from the least one,
-- coefficient.
def pattern : Decimal128 → Nat
  | finite negative coefficient exponent =>
    (if negative then Nat.pow 2 127 else 0) + (exponent - minExponent).toNat * Nat.pow 2 113 + coefficient
  | infinity negative => (if negative then Nat.pow 2 127 else 0) + 0x78 * Nat.pow 2 120
  | nan negative signalling =>
    (if negative then Nat.pow 2 127 else 0) + (if signalling then 0x7e else 0x7c) * Nat.pow 2 120

-- The sixteen bytes of the interchange form, lowest first.
def bytes (d : Decimal128) : List UInt8 :=
  (List.range 16).map fun i => UInt8.ofNat (d.pattern / Nat.pow 256 i)

end Decimal128

end DocStore
