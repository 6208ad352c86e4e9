import BatchFlow.Item

/-! Reading JSON text into items. -/

namespace BatchFlow.Item.JsonReader

/-- The text after any blanks. -/
def skipBlanks : List Char → List Char
  | ' ' :: rest | '\n' :: rest | '\t' :: rest | '\r' :: rest => skipBlanks rest
  | rest => rest

/-- The value of a hexadecimal digit. -/
def hexValue? (c : Char) : Option Nat :=
  if '0' ≤ c ∧ c ≤ '9' then some (c.toNat - '0'.toNat)
  else if 'a' ≤ c ∧ c ≤ 'f' then some (c.toNat - 'a'.toNat + 10)
  else if 'A' ≤ c ∧ c ≤ 'F' then some (c.toNat - 'A'.toNat + 10)
  else none

/-- Four hexadecimal digits. -/
def unit? : List Char → Option (Nat × List Char)
  | a :: b :: c :: d :: rest => do
    let a ← hexValue? a
    let b ← hexValue? b
    let c ← hexValue? c
    let d ← hexValue? d
    return (((a * 16 + b) * 16 + c) * 16 + d, rest)
  | _ => none

/-- The character of an escape by code; a high surrogate needs its low half right after it. -/
def codeEscape? (text : List Char) : Option (Char × List Char) := do
  let (high, rest) ← unit? text
  -- Codes beyond the basic ones are written in two halves.
  if 0xD800 ≤ high ∧ high < 0xDC00 then
    match rest with
    | '\\' :: 'u' :: rest =>
      let (low, rest) ← unit? rest
      if 0xDC00 ≤ low ∧ low < 0xE000 then
        return (Char.ofNat (0x10000 + (high - 0xD800) * 0x400 + (low - 0xDC00)), rest)
      else none
    | _ => none
  -- A low half by itself is no character.
  else if 0xDC00 ≤ high ∧ high < 0xE000 then none
  else return (Char.ofNat high, rest)

/-- The rest of a string after its opening quote; `fuel` bounds its length. -/
def stringTail? : Nat → List Char → List Char → Option (String × List Char)
  | 0, _, _ => none
  | fuel + 1, done, text =>
    match text with
    | '"' :: rest => some (String.ofList done.reverse, rest)
    | '\\' :: 'u' :: rest => do
      let (c, rest) ← codeEscape? rest
      stringTail? fuel (c :: done) rest
    | '\\' :: c :: rest => do
      let c ← match c with
        | '"' => some '"'
        | '\\' => some '\\'
        | '/' => some '/'
        | 'b' => some '\x08'
        | 'f' => some '\x0c'
        | 'n' => some '\n'
        | 'r' => some '\r'
        | 't' => some '\t'
        | _ => none
      stringTail? fuel (c :: done) rest
    -- Control characters have to be escaped.
    | c :: rest => if c.toNat < 32 then none else stringTail? fuel (c :: done) rest
    | [] => none

/-- A significand of at most 64 bits, and the power of ten its further digits stand for. -/
structure Significand where
  digits : Nat
  exponent : Int
  /-- Set once a digit no longer fits; all later digits are dropped. -/
  full : Bool

/-- Takes one digit more; one after the point lowers the exponent. -/
def Significand.push (s : Significand) (digit : Nat) (afterPoint : Bool) : Significand :=
  let shift : Int := if afterPoint then 1 else 0
  if s.full ∨ twoTo 64 ≤ s.digits * 10 + digit then
    { s with exponent := s.exponent + 1 - shift, full := true }
  else { s with digits := s.digits * 10 + digit, exponent := s.exponent - shift }

/-- The digits that open a text, as numbers, and what follows. -/
def digits : List Char → List Nat × List Char
  | c :: rest =>
    if c.isDigit then
      let (more, tail) := digits rest
      ((c.toNat - '0'.toNat) :: more, tail)
    else ([], c :: rest)
  | [] => ([], [])

/-- The exact value of a finite number as a fraction scaled by another one. -/
def scaleBy (x : Binary64) (power : Binary64) (divide : Bool) : Binary64 :=
  let (a, b) := x.toFraction
  let (c, d) := power.toFraction
  if divide then Binary64.ofFraction false (a * d) (b * c)
  else Binary64.ofFraction false (a * c) (b * d)

/-- Scales by a power of ten in steps of at most 308, each step rounding; `fuel` bounds them. -/
def scaleByTen : Nat → Binary64 → Int → Option Binary64
  | 0, _, _ => none
  | fuel + 1, x, exponent =>
    -- One step is enough for most exponents.
    if exponent.natAbs ≤ 308 then
      let scaled := scaleBy x (.ofDecimal false 1 exponent.natAbs) (exponent < 0)
      if scaled.isFinite then some scaled else none
    else if x.isZero then some x
    else if 0 < exponent then none
    else scaleByTen fuel (scaleBy x (.ofDecimal false 1 308) true) (exponent + 308)

/-- A number with a fraction or an exponent: the significand is rounded first and then scaled. -/
def realOf? (negative : Bool) (s : Significand) : Option Number := do
  let x ← scaleByTen (s.exponent.natAbs + 1) (.ofFraction false s.digits 1) s.exponent
  return .real (.ofMagnitude negative x.magnitude)

/-- An exponent, or zero when the text has none. -/
def exponent? : List Char → Option (Option Int × List Char)
  | c :: rest =>
    if c = 'e' ∨ c = 'E' then
      -- An exponent may have a sign, and needs a digit.
      let (negative, rest) := match rest with
        | '-' :: rest => (true, rest)
        | '+' :: rest => (false, rest)
        | rest => (false, rest)
      match digits rest with
      | ([], _) => none
      | (ds, rest) =>
        let value : Int := (ds.foldl (fun n d => n * 10 + d) 0 : Nat)
        some (some (if negative then -value else value), rest)
    else some (none, c :: rest)
  | [] => some (none, [])

/-- The digits after a point, if there is one. -/
def fraction? : List Char → Option (Option (List Nat) × List Char)
  | '.' :: rest =>
    match digits rest with
    | ([], _) => none
    | (ds, rest) => some (some ds, rest)
  | rest => some (none, rest)

/-- A number without its sign. -/
def unsigned? (negative : Bool) (text : List Char) : Option (Number × List Char) := do
  let (whole, rest) := digits text
  -- A leading zero stands alone before the point.
  let whole ← match whole with
    | [] => none
    | 0 :: _ :: _ => none
    | ds => some ds
  let s := whole.foldl (fun s d => Significand.push s d false) ⟨0, 0, false⟩
  let (fraction, rest) ← fraction? rest
  let (exponent, rest) ← exponent? rest
  -- Whole numbers stay exact as long as they fit.
  if fraction.isNone ∧ exponent.isNone ∧ !s.full ∧
      (!negative ∨ (0 < s.digits ∧ s.digits ≤ twoTo 63)) then
    return (.integer (if negative then -(s.digits : Int) else s.digits), rest)
  else
    let s := (fraction.getD []).foldl (fun s d => Significand.push s d true) s
    let number ← realOf? negative { s with exponent := s.exponent + exponent.getD 0 }
    return (number, rest)

mutual

/-- A value; `fuel` bounds the steps and is taken from the length of the text. -/
def value? : Nat → List Char → Option (Item × List Char)
  | 0, _ => none
  | fuel + 1, text =>
    match skipBlanks text with
    | 'n' :: 'u' :: 'l' :: 'l' :: rest => some (.null, rest)
    | 't' :: 'r' :: 'u' :: 'e' :: rest => some (.bool true, rest)
    | 'f' :: 'a' :: 'l' :: 's' :: 'e' :: rest => some (.bool false, rest)
    | '"' :: rest => (stringTail? fuel [] rest).map fun (s, rest) => (.string s, rest)
    | '[' :: rest =>
      match skipBlanks rest with
      | ']' :: rest => some (.array [], rest)
      | rest => (items? fuel [] rest).map fun (items, rest) => (.array items, rest)
    | '\x7b' :: rest =>
      match skipBlanks rest with
      | '\x7d' :: rest => some (.object [], rest)
      | rest => (fields? fuel [] rest).map fun (fields, rest) => (.object fields, rest)
    | '-' :: rest => (unsigned? true rest).map fun (n, rest) => (.number n, rest)
    | rest => (unsigned? false rest).map fun (n, rest) => (.number n, rest)

/-- The elements of an array that is not empty. -/
def items? : Nat → List Item → List Char → Option (List Item × List Char)
  | 0, _, _ => none
  | fuel + 1, done, text => do
    let (item, rest) ← value? fuel text
    match skipBlanks rest with
    | ',' :: rest => items? fuel (item :: done) rest
    | ']' :: rest => some ((item :: done).reverse, rest)
    | _ => none

/-- The fields of an object that is not empty; of two values of one name the later counts. -/
def fields? : Nat → Fields → List Char → Option (Fields × List Char)
  | 0, _, _ => none
  | fuel + 1, done, text =>
    match skipBlanks text with
    | '"' :: rest => do
      let (name, rest) ← stringTail? fuel [] rest
      match skipBlanks rest with
      | ':' :: rest =>
        let (item, rest) ← value? fuel rest
        let done := done.insert name item
        match skipBlanks rest with
        | ',' :: rest => fields? fuel done rest
        | '\x7d' :: rest => some (done, rest)
        | _ => none
      | _ => none
    | _ => none

end

/-- The item that a whole text stands for. -/
def parse? (text : String) : Option Item := do
  let characters := text.toList
  let (item, rest) ← value? (2 * characters.length + 2) characters
  match skipBlanks rest with
  | [] => some item
  | _ => none

end BatchFlow.Item.JsonReader
