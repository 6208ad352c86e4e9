import BatchFlow.Decimal.Binary64

/-! The shortest decimal that reads back as a given binary64 number, and how it is written. -/

namespace BatchFlow

/-- The number `digits * 10 ^ exponent`. -/
structure Decimal where
  digits : Nat
  exponent : Int
deriving DecidableEq

namespace Decimal

/-- Whether a fraction is at least a power of ten. -/
def reachesPower (numerator denominator : Nat) (power : Int) : Bool :=
  if power < 0 then denominator ≤ numerator * tenTo (-power).toNat
  else denominator * tenTo power.toNat ≤ numerator

/-- The number of digits before the point of a positive fraction, negative for leading zeros. -/
def integerDigits (numerator denominator : Nat) : Int :=
  let estimate : Int :=
    (Binary64.digitCount numerator : Int) - Binary64.digitCount denominator
  if reachesPower numerator denominator estimate then estimate + 1 else estimate

/-- The decimals that read back as one number lie between two bounds, ends included or not. -/
structure Interval where
  /-- Four times the significand, so that the bounds are integers too. -/
  centre : Nat
  low : Nat
  high : Nat
  closed : Bool
  /-- The power of two that all three are multiplied by. -/
  scale : Int

/-- The interval of reals that round to a positive finite number. -/
def Interval.around (x : Binary64) : Interval :=
  let m := x.significand
  -- Just above a power of two the neighbour below is only half as far away.
  let below := if m = twoTo 52 ∧ -1074 < x.scale then 1 else 2
  ⟨4 * m, 4 * m - below, 4 * m + 2, m % 2 == 0, x.scale - 2⟩

/-- Compares `count * 10 ^ power` with `bound * 2 ^ scale`, cleared of both denominators. -/
def scaled (count : Nat) (power : Int) (bound : Nat) (scale : Int) : Nat × Nat :=
  let left := count * tenTo power.toNat * twoTo (-scale).toNat
  let right := bound * twoTo scale.toNat * tenTo (-power).toNat
  (left, right)

/-- Whether `count * 10 ^ power` reads back as the number the interval is around. -/
def Interval.holds (interval : Interval) (count : Nat) (power : Int) : Bool :=
  let low := scaled count power interval.low interval.scale
  let high := scaled count power interval.high interval.scale
  if interval.closed then low.2 ≤ low.1 && high.1 ≤ high.2
  else low.2 < low.1 && high.1 < high.2

/-- The nearest point of the grid `10 ^ power` in the interval, if it has one. -/
def Interval.nearest? (interval : Interval) (power : Int) : Option Nat :=
  let unit := scaled 1 power interval.centre interval.scale
  let below := unit.2 / unit.1
  let above := below + 1
  -- Twice the distance to the lower neighbour against one whole step decides between the two.
  let lowerFirst := 2 * (unit.2 - below * unit.1) < unit.1 ||
    (2 * (unit.2 - below * unit.1) == unit.1 && below % 2 == 0)
  match interval.holds below power && below != 0, interval.holds above power with
  | true, true => some (if lowerFirst then below else above)
  | true, false => some below
  | false, true => some above
  | false, false => none

/-- The same decimal without trailing zeros in its digits; `fuel` bounds their number. -/
def trim : Nat → Decimal → Decimal
  | 0, d => d
  | fuel + 1, d =>
    if d.digits ≠ 0 ∧ d.digits % 10 = 0 then trim fuel ⟨d.digits / 10, d.exponent + 1⟩ else d

/-- Tries the grids of `count`, `count + 1`, … digits; the first with a hit wins. -/
def search (interval : Interval) (leading : Int) (count : Nat) : Nat → Decimal
  | 0 => ⟨0, 0⟩
  | fuel + 1 =>
    let power := leading - count
    match interval.nearest? power with
    | some digits => trim 20 ⟨digits, power⟩
    | none => search interval leading (count + 1) fuel

/-- The decimal with the fewest digits that reads back as the magnitude of a finite number. -/
def shortest (x : Binary64) : Decimal :=
  if x.isZero then ⟨0, 0⟩
  else
    let fraction := x.toFraction
    search (.around x) (integerDigits fraction.1 fraction.2) 1 17

/-- Where positional notation ends and what an exponent looks like. -/
structure Layout where
  /-- The most digits before the point of a positional number. -/
  integerPlaces : Int
  /-- The most zeros after the point of a positional number below one. -/
  leadingZeros : Int
  exponentMark : Char

/-- A decimal in positional or exponent notation, always with a fraction or an exponent. -/
def layOut (layout : Layout) (d : Decimal) : String :=
  let digits := Nat.toDigits 10 d.digits
  let point := d.exponent + digits.length
  let text :=
    if 0 ≤ d.exponent ∧ point ≤ layout.integerPlaces then
      digits ++ List.replicate d.exponent.toNat '0' ++ ['.', '0']
    else if 0 < point ∧ point ≤ layout.integerPlaces then
      digits.take point.toNat ++ ['.'] ++ digits.drop point.toNat
    else if -layout.leadingZeros ≤ point ∧ point ≤ 0 then
      ['0', '.'] ++ List.replicate (-point).toNat '0' ++ digits
    else
      let fraction := match digits with
        | [] | [_] => digits
        | first :: rest => first :: '.' :: rest
      fraction ++ layout.exponentMark :: (toString (point - 1)).toList
  String.ofList text

end Decimal

namespace Binary64

/-- Numbers are positional from 0.00001 to 9999999999999999 and have an exponent elsewhere. -/
def layout : Decimal.Layout :=
  ⟨16, 4, 'e'⟩

/-- The text of a finite number. -/
def text (x : Binary64) : String :=
  let magnitude := if x.isZero then "0.0" else Decimal.layOut layout (Decimal.shortest x)
  if x.isNegative then "-" ++ magnitude else magnitude

end Binary64

end BatchFlow
