import BatchFlow.Decimal.Power

/-! Lengths of time to the nanosecond, and their text in the largest fitting unit. -/

namespace BatchFlow

/-- A length of time. -/
structure Duration where
  nanoseconds : Nat
deriving DecidableEq

namespace Duration

/-- A length of time in whole seconds and nanoseconds. -/
def ofSeconds (seconds nanoseconds : Nat) : Duration :=
  ⟨seconds * 1000000000 + nanoseconds⟩

/-- A length of time in milliseconds. -/
def ofMillis (millis : Nat) : Duration :=
  ⟨millis * 1000000⟩

/-- The whole milliseconds, as a 64-bit count. -/
def millisWord (d : Duration) : Nat :=
  d.nanoseconds / 1000000 % twoTo 64

/-- The digits without the zeros at their end. -/
def trimZeros (digits : List Char) : List Char :=
  (digits.reverse.dropWhile (· == '0')).reverse

/-- A count of nanoseconds in units of `10 ^ places` of them. -/
def inUnits (nanoseconds places : Nat) (unit : String) : String :=
  let whole := nanoseconds / tenTo places
  let digits := Nat.toDigits 10 (nanoseconds % tenTo places)
  let fraction := trimZeros (List.replicate (places - digits.length) '0' ++ digits)
  let tail := if fraction.isEmpty then "" else "." ++ String.ofList fraction
  toString whole ++ tail ++ unit

/-- The text in the largest unit of which there is at least one whole. -/
def text (d : Duration) : String :=
  if tenTo 9 ≤ d.nanoseconds then inUnits d.nanoseconds 9 "s"
  else if tenTo 6 ≤ d.nanoseconds then inUnits d.nanoseconds 6 "ms"
  else if tenTo 3 ≤ d.nanoseconds then inUnits d.nanoseconds 3 "µs"
  else inUnits d.nanoseconds 0 "ns"

end Duration

end BatchFlow
