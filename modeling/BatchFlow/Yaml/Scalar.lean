import BatchFlow.Yaml.Cursor

/-! Scalars: plain, quoted and block text, with their lines folded and their escapes resolved. -/

namespace BatchFlow.Yaml

/-- How a scalar is written. -/
inductive Style where
  | plain
  | quoted
  | literal
  | folded
deriving DecidableEq

/-- Blanks and line breaks between two stretches of text. -/
structure Gap where
  /-- Whether there is a line break. -/
  broken : Bool
  /-- The blanks before any break. -/
  blanks : List Char
  /-- The first break, unless it was escaped. -/
  first : List Char
  /-- All further breaks. -/
  more : List Char

namespace Gap

/-- Nothing in between. -/
def none : Gap := ⟨false, [], [], []⟩

/-- A gap that starts with an escaped line break. -/
def escaped : Gap := ⟨true, [], [], []⟩

/-- What a gap reads as: one line feed alone is a blank, and more of them lose the first. -/
def text (gap : Gap) : List Char :=
  if !gap.broken then gap.blanks
  else match gap.first with
    | '\n' :: _ => if gap.more.isEmpty then [' '] else gap.more
    | first => first ++ gap.more

/-- Takes all blanks and breaks. On a fresh line a tab before column `limit` is an error. -/
def take? (limit : Nat) : Nat → Gap → Cursor → Option (Gap × Cursor)
  | 0, _, _ => .none
  | fuel + 1, gap, cursor =>
    match cursor.next? with
    | .none => some (gap, cursor)
    | some c =>
      if isBlank c then
        -- Blanks after a break only indent the next line, and say nothing.
        if gap.broken then
          if c == '\t' && cursor.column < limit then .none
          else take? limit fuel gap (cursor.skip 1)
        else take? limit fuel { gap with blanks := gap.blanks ++ [c] } (cursor.skip 1)
      else if isBreak c then
        let (read, rest) := cursor.takeBreak
        -- Only the first break can be folded into a blank.
        if gap.broken then take? limit fuel { gap with more := gap.more ++ read } rest
        else take? limit fuel { gap with broken := true, first := read } rest
      else some (gap, cursor)

end Gap

namespace Scalar

/-- One after the other, the first of them reversed. -/
def append (done more : List Char) : List Char := more.reverse ++ done

/-- Whether the next character ends a plain scalar, which some do only in flow collections. -/
def endsPlain (flow : Bool) (cursor : Cursor) (c : Char) : Bool :=
  (c == ':' && cursor.endsWord 1) || (flow && [',', '[', ']', '\x7b', '\x7d'].contains c)

/-- In a flow collection a colon may not stand right before an indicator. -/
def misplacesColon (flow : Bool) (cursor : Cursor) (c : Char) : Bool :=
  flow && c == ':' && cursor.meets [',', '?', '[', ']', '\x7b', '\x7d'].contains 1

/-- The characters of a plain scalar up to a blank or its end, in reverse. -/
def plainRun? (flow : Bool) : Nat → List Char → Cursor → Option (List Char × Cursor)
  | 0, _, _ => none
  | fuel + 1, done, cursor =>
    match cursor.next? with
    | none => some (done, cursor)
    | some c =>
      -- Blanks, breaks and the end of the text all end a word.
      if cursor.endsWord 0 then some (done, cursor)
      else if misplacesColon flow cursor c then none
      else if endsPlain flow cursor c then some (done, cursor)
      else plainRun? flow fuel (c :: done) (cursor.skip 1)

/-- The rest of a plain scalar, and whether a line break follows it. Outside of flow collections
its lines are indented at least as far as `indent`. -/
def plainFrom? (flow : Bool) (indent : Nat) :
    Nat → List Char → Gap → Cursor → Option (String × Bool × Cursor)
  | 0, _, _, _ => none
  | fuel + 1, done, gap, cursor => do
    let finish (done : List Char) (gap : Gap) (cursor : Cursor) :=
      some (String.ofList done.reverse, gap.broken, cursor)
    -- A document mark or a comment ends the scalar before its next word.
    if cursor.marksDocument || cursor.sees '#' 0 then finish done gap cursor
    else
      let (run, cursor) ← plainRun? flow fuel [] cursor
      -- What stood between two words is settled once the second one is there.
      let (done, gap) :=
        if run.isEmpty then (done, gap) else (run ++ append done gap.text, Gap.none)
      if !(cursor.meets isBlank 0 || cursor.meets isBreak 0) then finish done gap cursor
      else
        let (gap, cursor) ← Gap.take? indent fuel .none cursor
        -- A line that is indented less belongs to what surrounds the scalar.
        if !flow && cursor.column < indent then finish done gap cursor
        else plainFrom? flow indent fuel done gap cursor

/-- A plain scalar, and whether a line break follows it. -/
def plain? (flow : Bool) (indent : Nat) (cursor : Cursor) : Option (String × Bool × Cursor) :=
  plainFrom? flow indent (2 * cursor.rest.length + 4) [] .none cursor

/-- The characters that escapes of a single letter stand for. -/
def letterEscapes : List (Char × Char) := [
  ('0', '\x00'), ('a', '\x07'), ('b', '\x08'), ('t', '\t'), ('\t', '\t'), ('n', '\n'),
  ('v', '\x0b'), ('f', '\x0c'), ('r', '\r'), ('e', '\x1b'), (' ', ' '), ('"', '"'), ('/', '/'),
  ('\\', '\\'), ('N', '\u0085'), ('_', '\u00a0'), ('L', '\u2028'), ('P', '\u2029')]

/-- The numbers of hexadecimal digits in escapes by code. -/
def codeEscapes : List (Char × Nat) := [('x', 2), ('u', 4), ('U', 8)]

/-- The value of a hexadecimal digit. -/
def digitValue? (c : Char) : Option Nat :=
  if '0' ≤ c ∧ c ≤ '9' then some (c.toNat - '0'.toNat)
  else if 'a' ≤ c ∧ c ≤ 'f' then some (c.toNat - 'a'.toNat + 10)
  else if 'A' ≤ c ∧ c ≤ 'F' then some (c.toNat - 'A'.toNat + 10)
  else none

/-- The value of hexadecimal digits. -/
def codeValue? (digits : List Char) : Option Nat :=
  digits.foldlM (fun value c => (digitValue? c).map (value * 16 + ·)) 0

/-- The character of a code, which must be one. -/
def charOf? (code : Nat) : Option Char :=
  if code.isValidChar then some (Char.ofNat code) else none

/-- The character that an escape stands for; the cursor is at its backslash. -/
def escape? (cursor : Cursor) : Option (Char × Cursor) := do
  let letter ← cursor.ahead? 1
  match letterEscapes.find? (·.1 == letter) with
  | some (_, c) => return (c, cursor.skip 2)
  | none =>
    let (_, length) ← codeEscapes.find? (·.1 == letter)
    let digits := (cursor.rest.drop 2).take length
    if digits.length ≠ length then none
    else return (← charOf? (← codeValue? digits), cursor.skip (2 + length))

/-- The quote that opens and closes a scalar. -/
def quoteOf (single : Bool) : Char := if single then '\'' else '"'

/-- The characters of a quoted scalar up to a blank, a line break or its end, in reverse, and
whether an escaped line break came next. -/
def quotedRun? (single : Bool) : Nat → List Char → Cursor → Option (List Char × Bool × Cursor)
  | 0, _, _ => none
  | fuel + 1, done, cursor =>
    match cursor.next? with
    | none => some (done, false, cursor)
    | some c =>
      if cursor.endsWord 0 then some (done, false, cursor)
      -- Within single quotes a quote is written twice.
      else if single && c == '\'' && cursor.sees '\'' 1 then
        quotedRun? single fuel ('\'' :: done) (cursor.skip 2)
      else if c == quoteOf single then some (done, false, cursor)
      else if !single && c == '\\' then
        -- An escaped break joins two lines without a blank.
        if cursor.meets isBreak 1 then some (done, true, (cursor.skip 1).takeBreak.2)
        else do
          let (c, rest) ← escape? cursor
          quotedRun? single fuel (c :: done) rest
      else quotedRun? single fuel (c :: done) (cursor.skip 1)

/-- The rest of a quoted scalar. -/
def quotedFrom? (single : Bool) : Nat → List Char → Cursor → Option (String × Cursor)
  | 0, _, _ => none
  | fuel + 1, done, cursor => do
    -- A quoted scalar may not run into the next document.
    if cursor.marksDocument || cursor.isAtEnd then none
    else
      let (done, escaped, cursor) ← quotedRun? single fuel done cursor
      if cursor.sees (quoteOf single) 0 then return (String.ofList done.reverse, cursor.skip 1)
      else
        let (gap, cursor) ← Gap.take? 0 fuel (if escaped then .escaped else .none) cursor
        quotedFrom? single fuel (append done gap.text) cursor

/-- A quoted scalar; the cursor is at its opening quote. -/
def quoted? (single : Bool) (cursor : Cursor) : Option (String × Cursor) :=
  quotedFrom? single (2 * cursor.rest.length + 4) [] (cursor.skip 1)

/-- What is done with the line breaks at the end of a block scalar. -/
inductive Chomping where
  /-- All of them are dropped. -/
  | strip
  /-- The first one is kept. -/
  | clip
  /-- All of them are kept. -/
  | keep
deriving DecidableEq

/-- The header of a block scalar after its indicator: what is done at the end, and how far it is
indented if it says so. -/
def header? (cursor : Cursor) : Option (Chomping × Nat × Cursor) :=
  let chomping? (cursor : Cursor) : Option (Chomping × Cursor) :=
    if cursor.sees '+' 0 then some (.keep, cursor.skip 1)
    else if cursor.sees '-' 0 then some (.strip, cursor.skip 1)
    else none
  let indent? (cursor : Cursor) : Option (Nat × Cursor) :=
    match cursor.next? with
    | some c =>
      if c == '0' then none
      else if c.isDigit then some (c.toNat - '0'.toNat, cursor.skip 1)
      else some (0, cursor)
    | none => some (0, cursor)
  -- The two marks of a header may stand in either order.
  match chomping? cursor with
  | some (chomping, cursor) => do
    let (indent, cursor) ← indent? cursor
    return (chomping, indent, cursor)
  | none => do
    let (indent, cursor) ← indent? cursor
    -- Without an indentation in front of it, the other mark would have come first.
    match if indent = 0 then none else chomping? cursor with
    | some (chomping, cursor) => return (chomping, indent, cursor)
    | none => return (.clip, indent, cursor)

/-- The place after the blanks of an indentation; without a known one all blanks belong to it. -/
def skipIndent (indent : Option Nat) (cursor : Cursor) : Cursor :=
  let blanks := (cursor.rest.takeWhile (· == ' ')).length
  match indent with
  | some indent => cursor.skip (min blanks (indent - cursor.column))
  | none => cursor.skip blanks

/-- Takes the empty lines before the next line of a block scalar, and tells how far the deepest of
the lines is indented. -/
def emptyLines? (indent : Option Nat) :
    Nat → List Char → Nat → Cursor → Option (List Char × Nat × Cursor)
  | 0, _, _, _ => none
  | fuel + 1, breaks, deepest, cursor =>
    let cursor := skipIndent indent cursor
    let deepest := max deepest cursor.column
    let inIndent := match indent with
      | some indent => cursor.column < indent
      | none => true
    -- A tab cannot be part of the indentation.
    if inIndent && cursor.sees '\t' 0 then none
    else if cursor.meets isBreak 0 then
      let (read, rest) := cursor.takeBreak
      emptyLines? indent fuel (breaks ++ read) deepest rest
    else some (breaks, deepest, cursor)

/-- What is pending between two lines of a block scalar. -/
structure Pending where
  /-- The break after the last line. -/
  leading : List Char
  /-- The breaks of the empty lines that follow. -/
  trailing : List Char
  /-- Whether the last line started with a blank, which keeps its break from being folded. -/
  blank : Bool

/-- The lines of a block scalar, all indented by the same number of blanks. -/
def lines? (folded : Bool) (indent : Nat) :
    Nat → List Char → Pending → Cursor → Option (List Char × Pending × Cursor)
  | 0, _, _, _ => none
  | fuel + 1, done, pending, cursor =>
    if cursor.column ≠ indent ∨ cursor.isAtEnd then some (done, pending, cursor)
    else do
      -- A line that starts with a blank is never folded, nor are its neighbours.
      let blank := cursor.meets isBlank 0
      let fold := folded && pending.leading.head? == some '\n' && !pending.blank && !blank
      let joint :=
        if !fold then pending.leading
        -- One break reads as a blank, and the first of several is dropped.
        else if pending.trailing.isEmpty then [' ']
        else []
      let (line, rest) := cursor.takeWhile fun c => !isBreak c
      let (leading, rest) := rest.takeBreak
      let (trailing, _, rest) ← emptyLines? (some indent) fuel [] 0 rest
      let done := append (append (append done joint) pending.trailing) line
      lines? folded indent fuel done ⟨leading, trailing, blank⟩ rest

/-- A block scalar; the cursor is at its indicator, and `parent` is how far its surroundings are
indented, if they are. -/
def block? (folded : Bool) (parent : Option Nat) (cursor : Cursor) : Option (String × Cursor) := do
  let (chomping, increment, cursor) ← header? (cursor.skip 1)
  let cursor ← cursor.finishLine?
  let fuel := 2 * cursor.rest.length + 4
  -- The content is indented further than what surrounds it.
  let least := match parent with
    | some parent => parent + 1
    | none => 1
  let given := match increment, parent with
    | 0, _ => none
    | increment, some parent => some (parent + increment)
    | increment, none => some increment
  let (trailing, deepest, cursor) ← emptyLines? given fuel [] 0 cursor
  -- Without a given indentation the first line decides, and deep empty lines before it count.
  let indent := given.getD (max deepest least)
  let (done, pending, cursor) ← lines? folded indent fuel [] ⟨[], trailing, false⟩ cursor
  -- What the scalar ends with is what was pending after its last line.
  let tail := match chomping with
    | .strip => []
    | .clip => pending.leading
    | .keep => pending.leading ++ pending.trailing
  return (String.ofList (append done tail).reverse, cursor)

end Scalar

end BatchFlow.Yaml
