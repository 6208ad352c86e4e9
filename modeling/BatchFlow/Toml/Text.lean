/-! The text of TOML documents: blanks, comments, strings and keys. -/

namespace BatchFlow.Toml

namespace Text

/-- The text after any blanks of a line. -/
def skipBlanks (text : List Char) : List Char :=
  text.dropWhile fun c => c == ' ' || c == '\t'

/-- The text after a line break, if there is one. -/
def newline? : List Char → Option (List Char)
  | '\n' :: rest | '\r' :: '\n' :: rest => some rest
  | _ => none

/-- Whether a character may stand in a comment or, but for its delimiters, in a string. -/
def isOrdinary (c : Char) : Bool :=
  c == '\t' || (' ' ≤ c && c ≤ '~') || '\u0080' ≤ c

/-- The text after a comment, if there is one. -/
def skipComment (text : List Char) : List Char :=
  match text with
  | '#' :: rest => rest.dropWhile isOrdinary
  | text => text

/-- The text of the next line, if only blanks and a comment are left on this one. -/
def finishLine? (text : List Char) : Option (List Char) :=
  match skipComment (skipBlanks text) with
  | [] => some []
  | rest => newline? rest

/-- The text after blanks, comments and line breaks. -/
def skipLines : Nat → List Char → List Char
  | 0, text => text
  | fuel + 1, text =>
    match skipComment (skipBlanks text) with
    | [] => []
    | c :: rest =>
      match newline? (c :: rest) with
      | some next => skipLines fuel next
      | none => c :: rest

/-- The value of a hexadecimal digit. -/
def hexValue? (c : Char) : Option Nat :=
  if '0' ≤ c ∧ c ≤ '9' then some (c.toNat - '0'.toNat)
  else if 'a' ≤ c ∧ c ≤ 'f' then some (c.toNat - 'a'.toNat + 10)
  else if 'A' ≤ c ∧ c ≤ 'F' then some (c.toNat - 'A'.toNat + 10)
  else none

/-- A character by the given number of hexadecimal digits. -/
def codeEscape? (length : Nat) (text : List Char) : Option (Char × List Char) := do
  let digits := text.take length
  let code ← digits.foldlM (fun code c => (hexValue? c).map (code * 16 + ·)) 0
  if digits.length = length ∧ code.isValidChar then return (Char.ofNat code, text.drop length)
  else none

/-- The character of an escape, after its backslash. -/
def escape? : List Char → Option (Char × List Char)
  | 'b' :: rest => some ('\x08', rest)
  | 't' :: rest => some ('\t', rest)
  | 'n' :: rest => some ('\n', rest)
  | 'f' :: rest => some ('\x0c', rest)
  | 'r' :: rest => some ('\r', rest)
  | '"' :: rest => some ('"', rest)
  | '\\' :: rest => some ('\\', rest)
  | 'u' :: rest => codeEscape? 4 rest
  | 'U' :: rest => codeEscape? 8 rest
  | _ => none

/-- The rest of a string of one line, after its opening quote. -/
def lineString? (quote : Char) : Nat → List Char → List Char → Option (String × List Char)
  | 0, _, _ => none
  | _ + 1, _, [] => none
  | fuel + 1, done, c :: rest =>
    if c == quote then some (String.ofList done.reverse, rest)
    -- Only double quotes know escapes.
    else if c == '\\' && quote == '"' then do
      let (c, rest) ← escape? rest
      lineString? quote fuel (c :: done) rest
    else if isOrdinary c then lineString? quote fuel (c :: done) rest
    else none

/-- The text after any blanks and line breaks. -/
def skipSpace : List Char → List Char
  | '\r' :: '\n' :: rest | ' ' :: rest | '\t' :: rest | '\n' :: rest => skipSpace rest
  | rest => rest

/-- The text after an escaped line break and all blanks and line breaks after it. -/
def escapedBreak? (text : List Char) : Option (List Char) :=
  (newline? (skipBlanks text)).map skipSpace

/-- The rest of a string of several lines. Up to two quotes may stand right before the closing
ones. -/
def linesString? (quote : Char) : Nat → List Char → List Char → Option (String × List Char)
  | 0, _, _ => none
  | _ + 1, _, [] => none
  | fuel + 1, done, c :: rest =>
    if c == quote then
      -- A row of quotes may close the string, with up to two of them belonging to it.
      let quotes := (c :: rest).takeWhile (· == quote)
      if quotes.length < 3 then linesString? quote fuel (c :: done) rest
      else
        let inside := min (quotes.length - 3) 2
        let text := String.ofList (done.reverse ++ quotes.take inside)
        some (text, (c :: rest).drop (inside + 3))
    else if c == '\\' && quote == '"' then
      -- An escaped break takes all blanks and breaks after it away.
      match escapedBreak? rest with
      | some rest => linesString? quote fuel done rest
      | none => do
        let (c, rest) ← escape? rest
        linesString? quote fuel (c :: done) rest
    else if isOrdinary c then linesString? quote fuel (c :: done) rest
    else match newline? (c :: rest) with
      -- A line break within the string is a line feed, however it is written.
      | some rest => linesString? quote fuel ('\n' :: done) rest
      | none => none

/-- A string of either kind, whose first character is its quote. -/
def string? (text : List Char) : Option (String × List Char) :=
  match text with
  | a :: b :: c :: rest =>
    if a == b && b == c then
      -- A line break right after the opening quotes does not count.
      linesString? a (rest.length + 1) [] ((newline? rest).getD rest)
    else lineString? a (text.length + 1) [] (b :: c :: rest)
  | a :: rest => lineString? a (text.length + 1) [] rest
  | [] => none

/-- A character of a key without quotes. -/
def isKeyPart (c : Char) : Bool := c.isAlphanum || c == '_' || c == '-'

/-- One part of a key. -/
def keyPart? (text : List Char) : Option (String × List Char) :=
  match text with
  | '"' :: rest => lineString? '"' (rest.length + 1) [] rest
  | '\'' :: rest => lineString? '\'' (rest.length + 1) [] rest
  | text =>
    let part := text.takeWhile isKeyPart
    if part.isEmpty then none else some (String.ofList part, text.dropWhile isKeyPart)

/-- The parts of a key, which are parted by points. -/
def keyParts? : Nat → List Char → Option (List String × List Char)
  | 0, _ => none
  | fuel + 1, text => do
    let (part, rest) ← keyPart? (skipBlanks text)
    match skipBlanks rest with
    | '.' :: rest =>
      let (parts, rest) ← keyParts? fuel rest
      return (part :: parts, rest)
    | rest => return ([part], rest)

/-- How deep keys and values may be nested. -/
def nestingLimit : Nat := 80

/-- A key: the parts that lead to it, and the last one. -/
def key? (text : List Char) : Option ((List String × String) × List Char) := do
  let (parts, rest) ← keyParts? (text.length + 1) text
  if nestingLimit ≤ parts.length then none
  else
    let last ← parts.getLast?
    return ((parts.dropLast, last), rest)

end Text

end BatchFlow.Toml
