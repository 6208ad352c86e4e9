import BatchFlow.Decimal.Power
import BatchFlow.Yaml.Scalar

/-! Tokens: the marks and texts that a YAML document is made of, and reading those that do not
depend on the layout around them. -/

namespace BatchFlow.Yaml

/-- A piece of a document. -/
inductive Token where
  /-- The version that a document announces. -/
  | version (major minor : Nat)
  /-- What a tag handle stands for in a document. -/
  | shorthand (handle expansion : String)
  | documentStart
  | documentEnd
  | blockSequence
  | blockMapping
  | blockEnd
  | flowSequence
  | flowSequenceEnd
  | flowMapping
  | flowMappingEnd
  /-- The hyphen before an element of a block sequence. -/
  | element
  | comma
  | key
  | value
  | alias (name : String)
  | anchor (name : String)
  | tag (handle suffix : String)
  | scalar (style : Style) (text : String)
deriving DecidableEq

namespace Token

/-- The name of an anchor or alias; the cursor is at its indicator. -/
def anchorName? (cursor : Cursor) : Option (String × Cursor) :=
  let (name, rest) := (cursor.skip 1).takeWhile isNamePart
  if name.isEmpty then none
  else if rest.endsWord 0 || rest.meets ['?', ':', ',', ']', '\x7d', '%', '@', '\x60'].contains 0
  then some (String.ofList name, rest)
  else none

/-- The bytes of a character after its first one, by the first one. -/
def continuationBytes? (first : Nat) : Option Nat :=
  if first < 0x80 then some 0
  else if 0xC0 ≤ first ∧ first < 0xE0 then some 1
  else if 0xE0 ≤ first ∧ first < 0xF0 then some 2
  else if 0xF0 ≤ first ∧ first < 0xF8 then some 3
  else none

/-- A byte written as a percent sign and two hexadecimal digits. -/
def escapedByte? : List Char → Option (Nat × List Char)
  | '%' :: a :: b :: rest => do
    return ((← Scalar.digitValue? a) * 16 + (← Scalar.digitValue? b), rest)
  | _ => none

/-- So many escaped bytes that each continue a character. -/
def continuation? : Nat → Nat → List Char → Option (Nat × List Char)
  | 0, code, rest => some (code, rest)
  | more + 1, code, text => do
    let (byte, rest) ← escapedByte? text
    if byte / 64 = 2 then continuation? more (code * 64 + byte % 64) rest else none

/-- A character written as escaped bytes. -/
def escapedChar? (text : List Char) : Option (Char × List Char) := do
  let (first, rest) ← escapedByte? text
  let more ← continuationBytes? first
  let start := if more = 0 then first else first % twoTo (6 - more)
  let (code, rest) ← continuation? more start rest
  return (← Scalar.charOf? code, rest)

/-- A character that may stand in a tag; brackets and commas only where it is told so. -/
def isTagPart (verbatim : Bool) (c : Char) : Bool :=
  isNamePart c || ";/?:@&=+$.%!~*'()".toList.contains c || (verbatim && ",[]".toList.contains c)

/-- The characters of a tag, in reverse, with escapes resolved. -/
def tagText? (verbatim : Bool) : Nat → List Char → Cursor → Option (List Char × Cursor)
  | 0, _, _ => none
  | fuel + 1, done, cursor =>
    if cursor.sees '%' 0 then do
      let (c, rest) ← escapedChar? cursor.rest
      tagText? verbatim fuel (c :: done) (cursor.skip (cursor.rest.length - rest.length))
    else match cursor.next? with
      | some c =>
        if isTagPart verbatim c then tagText? verbatim fuel (c :: done) (cursor.skip 1)
        else some (done, cursor)
      | none => some (done, cursor)

/-- A part of a tag, which may be empty only if something comes before it. -/
def tagSuffix? (verbatim : Bool) (before : List Char) (cursor : Cursor) :
    Option (String × Cursor) := do
  let (done, rest) ← tagText? verbatim (cursor.rest.length + 1) [] cursor
  if before.isEmpty && done.isEmpty then none
  else return (String.ofList (before.drop 1 ++ done.reverse), rest)

/-- A handle: an exclamation mark, perhaps with a name and another mark after it. -/
def tagHandle? (cursor : Cursor) : Option (List Char × Cursor) :=
  if !cursor.sees '!' 0 then none
  else
    let (name, rest) := (cursor.skip 1).takeWhile isNamePart
    if rest.sees '!' 0 then some ('!' :: name ++ ['!'], rest.skip 1)
    else some ('!' :: name, rest)

/-- Whether a handle has an exclamation mark at both ends. -/
def isNamedHandle (handle : List Char) : Bool :=
  2 ≤ handle.length && handle.getLast? == some '!'

/-- A tag that is written out between angle brackets. -/
def verbatimTag? (cursor : Cursor) : Option (Token × Cursor) := do
  let (suffix, rest) ← tagSuffix? true [] (cursor.skip 2)
  if rest.sees '>' 0 then return (.tag "" suffix, rest.skip 1) else none

/-- A tag with a handle. A mark by itself is a tag of its own. -/
def handledTag? (cursor : Cursor) : Option (Token × Cursor) := do
  let (handle, rest) ← tagHandle? cursor
  if isNamedHandle handle then
    let (suffix, rest) ← tagSuffix? false [] rest
    return (.tag (String.ofList handle) suffix, rest)
  else
    let (suffix, rest) ← tagSuffix? false handle rest
    return (if suffix.isEmpty then .tag "" "!" else .tag "!" suffix, rest)

/-- A tag; the cursor is at its exclamation mark. -/
def tag? (flow : Bool) (cursor : Cursor) : Option (Token × Cursor) := do
  let (token, rest) ← if cursor.sees '<' 1 then verbatimTag? cursor else handledTag? cursor
  if rest.endsWord 0 || (flow && rest.sees ',' 0) then return (token, rest) else none

/-- A number of a version, of at most nine digits. -/
def versionNumber? (cursor : Cursor) : Option (Nat × Cursor) :=
  let (digits, rest) := cursor.takeWhile Char.isDigit
  if digits.isEmpty || 9 < digits.length then none
  else some (digits.foldl (fun n c => n * 10 + (c.toNat - '0'.toNat)) 0, rest)

/-- The version after the name of its directive. -/
def versionDirective? (cursor : Cursor) : Option (Token × Cursor) := do
  let (major, rest) ← versionNumber? cursor.skipBlanks
  if !rest.sees '.' 0 then none
  let (minor, rest) ← versionNumber? (rest.skip 1)
  return (.version major minor, rest)

/-- The handle and what it stands for after the name of their directive. -/
def handleDirective? (cursor : Cursor) : Option (Token × Cursor) := do
  let (handle, rest) ← tagHandle? cursor.skipBlanks
  if !(isNamedHandle handle || handle == ['!']) || !rest.meets isBlank 0 then none
  let (expansion, rest) ← tagSuffix? true [] rest.skipBlanks
  if rest.endsWord 0 then return (.shorthand (String.ofList handle) expansion, rest) else none

/-- A directive; the cursor is at its percent sign. -/
def directive? (cursor : Cursor) : Option (Token × Cursor) := do
  let (name, rest) := (cursor.skip 1).takeWhile isNamePart
  if !rest.endsWord 0 then none
  let (token, rest) ←
    if name == "YAML".toList then versionDirective? rest
    else if name == "TAG".toList then handleDirective? rest
    else none
  return (token, ← rest.finishLine?)

end Token

end BatchFlow.Yaml
