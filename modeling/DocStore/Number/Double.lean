namespace DocStore

-- A binary floating-point number as its bit pattern. Every finite number is a whole
-- multiple of the smallest positive one, so magnitudes are natural numbers in that unit and
-- arithmetic is exact until one rounding to nearest, ties to even.
structure Double where
  bits : UInt64
  deriving DecidableEq

namespace Double

def signBit : Nat := Nat.pow 2 63

def fractionBase : Nat := Nat.pow 2 52

-- The exponent field of infinities and of everything that is not a number.
def topExponent : Nat := 2047

-- One, counted in the smallest positive number.
def unitsOfOne : Nat := Nat.pow 2 1074

def pattern (x : Double) : Nat := x.bits.toNat

def isNegative (x : Double) : Bool := decide (signBit ≤ x.pattern)

def exponentField (x : Double) : Nat := x.pattern / fractionBase % 2048

def fractionField (x : Double) : Nat := x.pattern % fractionBase

def isNaN (x : Double) : Bool := x.exponentField == topExponent && x.fractionField != 0

def isInfinite (x : Double) : Bool := x.exponentField == topExponent && x.fractionField == 0

def isFinite (x : Double) : Bool := x.exponentField != topExponent

def ofPattern (negative : Bool) (magnitude : Nat) : Double :=
  ⟨UInt64.ofNat (if negative then signBit + magnitude else magnitude)⟩

def infinity (negative : Bool) : Double := ofPattern negative (topExponent * fractionBase)

def zero (negative : Bool) : Double := ofPattern negative 0

-- The quiet not-a-number that reading text gives.
def nan (negative : Bool) : Double := ofPattern negative (topExponent * fractionBase + Nat.pow 2 51)

-- The magnitude of a finite number in the smallest positive number.
def units (x : Double) : Nat :=
  if x.exponentField = 0 then x.fractionField
  else (fractionBase + x.fractionField) * Nat.pow 2 (x.exponentField - 1)

def signedUnits (x : Double) : Int := if x.isNegative then - (x.units : Int) else x.units

-- The pattern of the number nearest to `num / den * 2 ^ base` units, where
-- `base` is zero or `den <= num`. A result of at most 53 bits is its own
-- pattern; a longer one drops `shift` bits and moves the exponent field up
-- by as many.
def nearestPattern (base num den : Nat) : Nat :=
  let shift := base + ((num / den).log2 + 1) - 53
  let scaled := num * Nat.pow 2 (base - shift)
  let step := den * Nat.pow 2 (shift - base)
  let quotient := scaled / step
  let rest := scaled % step
  let significand :=
    if step < 2 * rest ∨ (step = 2 * rest ∧ quotient % 2 = 1) then quotient + 1 else quotient
  shift * fractionBase + significand

def ofMagnitude (negative : Bool) (magnitude : Nat) : Double :=
  if topExponent * fractionBase ≤ magnitude then infinity negative
  else ofPattern negative magnitude

-- The number nearest to `num / den` units.
def ofUnitRatio (negative : Bool) (num den : Nat) : Double :=
  ofMagnitude negative (nearestPattern 0 num den)

-- The number nearest to `num / den`.
def ofRatio (negative : Bool) (num den : Nat) : Double :=
  ofUnitRatio negative (num * unitsOfOne) den

def ofInt (n : Int) : Double :=
  if n = 0 then zero false
  else ofMagnitude (decide (n < 0)) (nearestPattern 1074 n.natAbs 1)

def quiet (x : Double) : Double := ⟨x.bits ||| 0x0008000000000000⟩

-- The result of an operation that has none, such as adding opposite infinities.
def invalid : Double := nan true

def add (x y : Double) : Double :=
  if x.isNaN then x.quiet
  else if y.isNaN then y.quiet
  else if x.isInfinite then
    if y.isInfinite && x.isNegative != y.isNegative then invalid else x
  else if y.isInfinite then y
  else
    let sum := x.signedUnits + y.signedUnits
    if sum = 0 then zero (x.isNegative && y.isNegative)
    else ofUnitRatio (decide (sum < 0)) sum.natAbs 1

def mul (x y : Double) : Double :=
  let negative := x.isNegative != y.isNegative
  if x.isNaN then x.quiet
  else if y.isNaN then y.quiet
  else if x.isInfinite || y.isInfinite then
    if x.isFinite && x.units = 0 || y.isFinite && y.units = 0 then invalid
    else infinity negative
  else ofUnitRatio negative (x.units * y.units) unitsOfOne

def div (x y : Double) : Double :=
  let negative := x.isNegative != y.isNegative
  if x.isNaN then x.quiet
  else if y.isNaN then y.quiet
  else if x.isInfinite then if y.isInfinite then invalid else infinity negative
  else if y.isInfinite then zero negative
  else if y.units = 0 then if x.units = 0 then invalid else infinity negative
  else ofUnitRatio negative (x.units * unitsOfOne) y.units

def neg (x : Double) : Double := ⟨x.bits ^^^ 0x8000000000000000⟩

instance : Add Double := ⟨add⟩
instance : Mul Double := ⟨mul⟩
instance : Div Double := ⟨div⟩
instance : Neg Double := ⟨neg⟩

-- Numeric equality: both zeros are equal, and nothing equals what is not a number.
def equal (x y : Double) : Bool :=
  !x.isNaN && !y.isNaN && (x.bits == y.bits || (x.pattern % signBit == 0 && y.pattern % signBit == 0))

-- Place in the total order of bit patterns: negative not-a-number, negative
-- infinity, ..., -0, +0, ..., infinity, not-a-number.
def rank (x : Double) : Int :=
  if x.isNegative then (signBit : Int) - 1 - x.pattern else x.pattern

def totalCompare (x y : Double) : Ordering := compare x.rank y.rank

def isNegativeNumber (x : Double) : Bool :=
  x.isNegative && !x.isNaN && x.pattern != signBit

def isZero (x : Double) : Bool := x.pattern % signBit == 0

-- The whole number that the value is, if it is one.
def toInt? (x : Double) : Option Int :=
  if x.isFinite && x.units % unitsOfOne == 0 then
    let whole : Int := (x.units / unitsOfOne : Nat)
    some (if x.isNegative then -whole else whole)
  else none

end Double

end DocStore
