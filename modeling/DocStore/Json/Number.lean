import DocStore.Json.Text
import DocStore.Number.Double

namespace DocStore.JsonNumber

inductive Reading where
  | whole (n : Int)
  | fractional (x : Double)
  deriving DecidableEq

def powerOfTen (n : Nat) : Double := Double.ofRatio false (Nat.pow 10 n) 1

-- Leading digits that stay below 2^64, and how many were left out.
def leadingDigits (start : Nat) : List Char → Nat × Nat
  | [] => (start, 0)
  | c :: rest =>
    let next := 10 * start + (Integer.digit? c).getD 0
    if Integer.maxUnsigned64 < next then (start, rest.length + 1) else leadingDigits next rest

def scale : Nat → Double → Int → Option Double
  | 0, x, _ => some x
  | fuel + 1, x, exponent =>
    if exponent.natAbs ≤ 308 then
      if 0 ≤ exponent then
        let y := x * powerOfTen exponent.natAbs
        if y.isInfinite then none else some y
      else some (x / powerOfTen exponent.natAbs)
    else if x.isZero then some x
    else if 0 ≤ exponent then none
    else scale fuel (x / powerOfTen 308) (exponent + 308)

def withSign (negative : Bool) (x : Double) : Double := if negative then -x else x

-- Digits, point and exponent as one significand and one power of ten.
def approximate? (n : JsonNumber) : Option Double :=
  let (head, cut) := leadingDigits 0 n.whole
  let (significand, dropped) :=
    if cut = 0 then leadingDigits head n.fraction
    else
      let (extended, rest) := leadingDigits head n.fraction
      (extended, rest)
  let shift : Int := cut - ((n.fraction.length : Int) - dropped)
  let scaled (exponent : Int) := (scale 8 (Double.ofInt significand) exponent).map (withSign n.negative)
  match n.exponent with
  | none => scaled shift
  | some (down, digits) =>
    let power := Integer.ofDigits digits
    if Integer.max32 < power then
      if !down && significand != 0 then none else some (withSign n.negative (Double.zero false))
    else scaled (if down then shift - power else shift + power)

-- Whole numbers that fit in 64 bits are exact. All others are scaled from the leading
-- digits that fit in 64 bits, so the last bit is not always the nearest one; numbers past
-- the range are refused.
def value? (n : JsonNumber) : Option Reading :=
  let whole := Integer.ofDigits n.whole
  if n.fraction.isEmpty && n.exponent.isNone then
    if !n.negative && decide (whole ≤ Integer.maxUnsigned64) then some (.whole whole)
    else if n.negative && decide (whole ≠ 0 ∧ whole ≤ Integer.max64 + 1) then some (.whole (-(whole : Int)))
    else n.approximate?.map .fractional
  else n.approximate?.map .fractional

end DocStore.JsonNumber
