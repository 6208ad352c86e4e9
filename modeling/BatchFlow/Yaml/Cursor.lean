/-! Cursors: places in a YAML text, which are told apart by line and column. -/

namespace BatchFlow.Yaml

/-- What is left of a text, and where that is. -/
structure Cursor where
  rest : List Char
  /-- The number of characters before this place. -/
  index : Nat
  line : Nat
  column : Nat

/-- A line break. -/
def isBreak (c : Char) : Bool :=
  c == '\n' || c == '\r' || c == '\u0085' || c == '\u2028' || c == '\u2029'

/-- A blank within a line. -/
def isBlank (c : Char) : Bool := c == ' ' || c == '\t'

/-- A letter, a digit, a hyphen or an underscore: what names are made of. -/
def isNamePart (c : Char) : Bool := c.isAlphanum || c == '-' || c == '_'

namespace Cursor

/-- The start of a text. -/
def ofText (text : List Char) : Cursor := ⟨text, 0, 0, 0⟩

/-- The character so many places ahead. -/
def ahead? (cursor : Cursor) (places : Nat) : Option Char := cursor.rest[places]?

/-- The next character. -/
def next? (cursor : Cursor) : Option Char := cursor.rest.head?

/-- Whether a certain character is so many places ahead. -/
def sees (cursor : Cursor) (c : Char) (places : Nat) : Bool := cursor.ahead? places == some c

/-- Whether a character so many places ahead satisfies a condition. -/
def meets (cursor : Cursor) (condition : Char → Bool) (places : Nat) : Bool :=
  match cursor.ahead? places with
  | some c => condition c
  | none => false

/-- The end of the text. -/
def isAtEnd (cursor : Cursor) : Bool := cursor.rest.isEmpty

/-- A line break or the end, so many places ahead. -/
def endsLine (cursor : Cursor) (places : Nat) : Bool :=
  (cursor.ahead? places).isNone || cursor.meets isBreak places

/-- A blank, a line break or the end, so many places ahead. -/
def endsWord (cursor : Cursor) (places : Nat) : Bool :=
  cursor.endsLine places || cursor.meets isBlank places

/-- Three hyphens or three points on their own at the start of a line. -/
def marksDocument (cursor : Cursor) : Bool :=
  cursor.column == 0 && cursor.endsWord 3 &&
    (cursor.rest.take 3 == ['-', '-', '-'] || cursor.rest.take 3 == ['.', '.', '.'])

/-- The place after so many characters of the same line. -/
def skip (cursor : Cursor) (count : Nat) : Cursor :=
  ⟨cursor.rest.drop count, cursor.index + count, cursor.line, cursor.column + count⟩

/-- Goes over a line break, and tells how the break reads: most are a line feed. -/
def takeBreak (cursor : Cursor) : List Char × Cursor :=
  let after (count : Nat) : Cursor :=
    ⟨cursor.rest.drop count, cursor.index + count, cursor.line + 1, 0⟩
  match cursor.rest with
  | '\r' :: '\n' :: _ => (['\n'], after 2)
  | c :: _ =>
    if c == '\u2028' || c == '\u2029' then ([c], after 1)
    else if isBreak c then (['\n'], after 1)
    else ([], cursor)
  | [] => ([], cursor)

/-- The characters of the same line that satisfy a condition, and the place after them. -/
def takeWhile (cursor : Cursor) (condition : Char → Bool) : List Char × Cursor :=
  let taken := cursor.rest.takeWhile condition
  (taken, cursor.skip taken.length)

/-- The place after any blanks. -/
def skipBlanks (cursor : Cursor) : Cursor := (cursor.takeWhile isBlank).2

/-- The place after a comment, if one starts here. -/
def skipComment (cursor : Cursor) : Cursor :=
  if cursor.sees '#' 0 then (cursor.takeWhile fun c => !isBreak c).2 else cursor

/-- The start of the next line, if nothing but blanks and a comment is before it. -/
def finishLine? (cursor : Cursor) : Option Cursor :=
  let rest := cursor.skipBlanks.skipComment
  if rest.endsLine 0 then some rest.takeBreak.2 else none

end Cursor

end BatchFlow.Yaml
