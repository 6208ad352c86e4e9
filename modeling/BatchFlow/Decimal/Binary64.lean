import BatchFlow.Decimal.Power

/-! The binary64 numbers: what their bits mean, and the nearest one to an exact fraction. -/

namespace BatchFlow

/-- A 64-bit floating-point number, held as its bits so that its meaning is exact arithmetic. -/
structure Binary64 where
  bits : UInt64
deriving DecidableEq

namespace Binary64

/-- The bits without the sign. -/
def magnitude (x : Binary64) : Nat :=
  x.bits.toNat % twoTo 63

/-- The sign bit, which zero carries too. -/
def isNegative (x : Binary64) : Bool :=
  twoTo 63 ≤ x.bits.toNat

/-- Neither an infinity nor a not-a-number. -/
def isFinite (x : Binary64) : Bool :=
  x.magnitude < 2047 * twoTo 52

/-- The integer `m` of the value `m * 2 ^ q`. -/
def significand (x : Binary64) : Nat :=
  -- A zero exponent field means a subnormal, which has no hidden leading bit.
  if x.magnitude < twoTo 52 then x.magnitude else x.magnitude % twoTo 52 + twoTo 52

/-- The power `q` of the value `m * 2 ^ q`. -/
def scale (x : Binary64) : Int :=
  if x.magnitude < twoTo 52 then -1074 else (x.magnitude / twoTo 52 : Nat) - 1075

/-- Zero of either sign. -/
def isZero (x : Binary64) : Bool :=
  x.magnitude == 0

/-- Numerical equality: the two zeros are equal, and other finite numbers only to themselves. -/
def agrees (x y : Binary64) : Bool :=
  x == y || (x.isZero && y.isZero)

/-- The number with the given sign and magnitude bits. -/
def ofMagnitude (negative : Bool) (magnitude : Nat) : Binary64 :=
  ⟨UInt64.ofNat ((if negative then twoTo 63 else 0) + magnitude)⟩

/-- The magnitude bits of infinity. -/
def infinityMagnitude : Nat :=
  2047 * twoTo 52

/-- A quotient rounded to the nearest integer, a half going to the even neighbour. -/
def roundQuotient (numerator denominator : Nat) : Nat :=
  let quotient := numerator / denominator
  let twice := 2 * (numerator % denominator)
  if twice < denominator then quotient
  else if denominator < twice then quotient + 1
  else quotient + quotient % 2

/-- A fraction multiplied by a power of two, as another fraction. -/
def shiftFraction (numerator denominator : Nat) (power : Int) : Nat × Nat :=
  if power < 0 then (numerator, denominator * twoTo (-power).toNat)
  else (numerator * twoTo power.toNat, denominator)

/-- The power of two whose multiples give a positive fraction 53 bits, or else the least one. -/
def fractionScale (numerator denominator : Nat) : Int :=
  let estimate : Int := (numerator.log2 : Int) - denominator.log2 - 52
  -- The estimate is off by one when the fraction lies below the power its logarithms suggest.
  let shifted := shiftFraction numerator denominator (-estimate)
  let exact := if shifted.1 / shifted.2 < twoTo 52 then estimate - 1 else estimate
  max exact (-1074)

/-- The nearest number to a fraction, a tie going to the even significand. -/
def ofFraction (negative : Bool) (numerator denominator : Nat) : Binary64 :=
  if numerator = 0 then ofMagnitude negative 0
  else
    let power := fractionScale numerator denominator
    let shifted := shiftFraction numerator denominator (-power)
    -- A significand rounded up to a power of two carries into the exponent field, as it should.
    let magnitude := (power + 1074).toNat * twoTo 52 + roundQuotient shifted.1 shifted.2
    ofMagnitude negative (min magnitude infinityMagnitude)

/-- The number of decimal digits, with one for zero. -/
def digitCount (n : Nat) : Nat :=
  (Nat.toDigits 10 n).length

/-- The nearest number to `digits * 10 ^ exponent`. -/
def ofDecimal (negative : Bool) (digits : Nat) (exponent : Int) : Binary64 :=
  let leading := exponent + digitCount digits
  -- Far beyond either end of the range the exact power need not be computed.
  if digits = 0 ∨ leading < -330 then ofMagnitude negative 0
  else if 310 < leading then ofMagnitude negative infinityMagnitude
  else if exponent < 0 then ofFraction negative digits (tenTo (-exponent).toNat)
  else ofFraction negative (digits * tenTo exponent.toNat) 1

/-- The exact magnitude as a fraction. -/
def toFraction (x : Binary64) : Nat × Nat :=
  shiftFraction x.significand 1 x.scale

end Binary64

end BatchFlow
