/-! Powers of two and of ten, which scale binary and decimal numbers and bound fixed widths. -/

namespace BatchFlow

/-- Two to a power. -/
abbrev twoTo (exponent : Nat) : Nat := Nat.pow 2 exponent

/-- Ten to a power. -/
abbrev tenTo (exponent : Nat) : Nat := Nat.pow 10 exponent

end BatchFlow
