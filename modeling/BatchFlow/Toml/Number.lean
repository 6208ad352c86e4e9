import BatchFlow.Toml.Text
import BatchFlow.Toml.Value

/-! Numbers, dates and times of TOML documents. -/

namespace BatchFlow.Toml.Number

/-- Digits in which single underscores may part neighbours. -/
def grouped? (isDigit : Char → Bool) : Nat → List Char → Option (List Char × List Char)
  | 0, _ => none
  | fuel + 1, text => do
    let c ← text.head?
    if !isDigit c then none
    else match text.tail with
      | '_' :: rest =>
        let (digits, rest) ← grouped? isDigit fuel rest
        return (c :: digits, rest)
      | next :: rest =>
        if isDigit next then
          let (digits, rest) ← grouped? isDigit fuel (next :: rest)
          return (c :: digits, rest)
        else return ([c], next :: rest)
      | [] => return ([c], [])

/-- Decimal digits, perhaps in groups. -/
def digits? (text : List Char) : Option (List Char × List Char) :=
  grouped? Char.isDigit (text.length + 1) text

/-- The value of a row of digits in a base. -/
def valueIn (base : Nat) (digits : List Char) : Nat :=
  digits.foldl (fun value c => value * base + (Text.hexValue? c).getD 0) 0

/-- Whether a character is a digit in a base of at most sixteen. -/
def isDigitIn (base : Nat) (c : Char) : Bool :=
  match Text.hexValue? c with
  | some value => value < base
  | none => false

/-- A sign, if there is one: whether it is a minus. -/
def sign : List Char → Bool × List Char
  | '-' :: rest => (true, rest)
  | '+' :: rest => (false, rest)
  | rest => (false, rest)

/-- The digits before the point: a zero stands alone. -/
def whole? (text : List Char) : Option (List Char × List Char) :=
  match text with
  | '0' :: rest => some (['0'], rest)
  | text => digits? text

/-- An exponent, if there is one. -/
def exponent? (text : List Char) : Option (Option Int × List Char) :=
  match text with
  | c :: rest =>
    if c == 'e' || c == 'E' then do
      let (negative, rest) := sign rest
      let (digits, rest) ← digits? rest
      let value : Int := valueIn 10 digits
      return (some (if negative then -value else value), rest)
    else some (none, text)
  | [] => some (none, [])

/-- The digits after a point, if there is one. -/
def fraction? (text : List Char) : Option (Option (List Char) × List Char) :=
  match text with
  | '.' :: rest => (digits? rest).map fun (digits, rest) => (some digits, rest)
  | text => some (none, text)

/-- A decimal number: an integer of 64 bits, or one with a fraction or an exponent, which must not
be too large. -/
def decimal? (text : List Char) : Option (Value × List Char) := do
  let (negative, rest) := sign text
  let (whole, rest) ← whole? rest
  let (fraction, rest) ← fraction? rest
  let (exponent, rest) ← exponent? rest
  if fraction.isNone && exponent.isNone then
    let value : Int := if negative then -(valueIn 10 whole : Int) else valueIn 10 whole
    if -(twoTo 63 : Int) ≤ value ∧ value < twoTo 63 then return (.integer value, rest) else none
  else
    let digits := whole ++ fraction.getD []
    let scale := exponent.getD 0 - (fraction.getD []).length
    let value := Binary64.ofDecimal negative (valueIn 10 digits) scale
    if value.isFinite then return (.float (some value), rest)
    else if negative then return (.float none, rest)
    else none

/-- The bases that are announced by a letter after a zero. -/
def bases : List (Char × Nat) := [('x', 16), ('o', 8), ('b', 2)]

/-- An integer in another base than ten. -/
def based? (text : List Char) : Option (Value × List Char) :=
  match text with
  | '0' :: letter :: rest => do
    let (_, base) ← bases.find? (·.1 == letter)
    let (digits, rest) ← grouped? (isDigitIn base) (rest.length + 1) rest
    let value := valueIn base digits
    if value < twoTo 63 then return (.integer value, rest) else none
  | _ => none

/-- An infinity, or what is not a number. -/
def boundless? (text : List Char) : Option (Value × List Char) :=
  match (sign text).2 with
  | 'i' :: 'n' :: 'f' :: rest | 'n' :: 'a' :: 'n' :: rest => some (.float none, rest)
  | _ => none

/-- A number of exactly so many digits within bounds. -/
def field? (length low high : Nat) (text : List Char) : Option (Nat × List Char) :=
  let digits := text.take length
  let value := valueIn 10 digits
  if digits.length = length ∧ digits.all Char.isDigit ∧ low ≤ value ∧ value ≤ high then
    some (value, text.drop length)
  else none

/-- The text after a certain character. -/
def after? (c : Char) : List Char → Option (List Char)
  | next :: rest => if next == c then some rest else none
  | [] => none

/-- A number with zeros in front up to a length. -/
def padded (length value : Nat) : String :=
  let digits := Nat.toDigits 10 value
  String.ofList (List.replicate (length - digits.length) '0' ++ digits)

/-- The number of days of a month. -/
def daysIn (year month : Nat) : Nat :=
  let leap := year % 4 == 0 && (year % 100 != 0 || year % 400 == 0)
  if month == 2 then if leap then 29 else 28
  else if month ∈ [4, 6, 9, 11] then 30
  else 31

/-- A date, as its text. -/
def date? (text : List Char) : Option (String × List Char) := do
  let (year, rest) ← field? 4 0 9999 text
  let (month, rest) ← field? 2 1 12 (← after? '-' rest)
  let (day, rest) ← field? 2 1 (daysIn year month) (← after? '-' rest)
  return (padded 4 year ++ "-" ++ padded 2 month ++ "-" ++ padded 2 day, rest)

/-- The fraction of a second to the nanosecond, as its text without zeros at the end. -/
def secondFraction? (text : List Char) : Option (String × List Char) :=
  match text with
  | '.' :: rest =>
    let digits := rest.takeWhile Char.isDigit
    let kept := ((digits.take 9).reverse.dropWhile (· == '0')).reverse
    if digits.isEmpty then none
    else some (if kept.isEmpty then "" else "." ++ String.ofList kept, rest.drop digits.length)
  | text => some ("", text)

/-- A time of day, as its text. -/
def time? (text : List Char) : Option (String × List Char) := do
  let (hour, rest) ← field? 2 0 23 text
  let (minute, rest) ← field? 2 0 59 (← after? ':' rest)
  let (second, rest) ← field? 2 0 60 (← after? ':' rest)
  let (fraction, rest) ← secondFraction? rest
  return (padded 2 hour ++ ":" ++ padded 2 minute ++ ":" ++ padded 2 second ++ fraction, rest)

/-- An offset from universal time, as its text, or nothing. -/
def offset? (text : List Char) : Option (String × List Char) :=
  match text with
  | 'Z' :: rest | 'z' :: rest => some ("Z", rest)
  | c :: rest =>
    if c == '+' || c == '-' then do
      let (hour, rest) ← field? 2 0 23 rest
      let (minute, rest) ← field? 2 0 59 (← after? ':' rest)
      -- Minus zero is no different from plus zero.
      let sign := if c == '-' && 0 < hour + minute then "-" else "+"
      return (sign ++ padded 2 hour ++ ":" ++ padded 2 minute, rest)
    else some ("", text)
  | [] => some ("", [])

/-- Whether a text starts with two digits and a colon, as only times do. -/
def startsTime (text : List Char) : Bool :=
  match text with
  | a :: b :: ':' :: _ => a.isDigit && b.isDigit
  | _ => false

/-- Whether a text starts with four digits and a hyphen, as only dates do. -/
def startsDate (text : List Char) : Bool :=
  (text.take 4).length == 4 && (text.take 4).all Char.isDigit && text[4]? == some '-'

/-- A date, perhaps with a time and an offset. -/
def dateTime? (text : List Char) : Option (Value × List Char) := do
  let (date, rest) ← date? text
  match rest with
  | c :: later =>
    if (c == 'T' || c == 't' || c == ' ') && startsTime later then
      let (time, rest) ← time? later
      let (offset, rest) ← offset? rest
      return (.datetime (date ++ "T" ++ time ++ offset), rest)
    else return (.datetime date, rest)
  | [] => return (.datetime date, [])

/-- A number, a date or a time. -/
def value? (text : List Char) : Option (Value × List Char) :=
  if startsDate text then dateTime? text
  else if startsTime text then (time? text).map fun (time, rest) => (.datetime time, rest)
  else match boundless? text with
    | some found => some found
    | none =>
      match text with
      | '0' :: letter :: _ => if (bases.any (·.1 == letter)) then based? text else decimal? text
      | _ => decimal? text

end BatchFlow.Toml.Number
