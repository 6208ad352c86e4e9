import BatchFlow.Yaml.Token

/-! Layout: how indentation and flow brackets part a text into tokens, and which of them turn out
to be keys only when the colon after them is reached. -/

namespace BatchFlow.Yaml

/-- A place at which a key of a mapping may have begun. -/
structure KeyStart where
  /-- The number of tokens before it. -/
  token : Nat
  index : Nat
  line : Nat
  column : Nat
  /-- Nothing but a key can stand here. -/
  required : Bool

/-- A text that has been parted into tokens up to a cursor. -/
structure Layout where
  cursor : Cursor
  tokens : Array Token
  /-- The columns of the open block collections, the innermost first. -/
  indents : List Nat
  /-- Whether a key may start here. -/
  allowsKey : Bool
  /-- Where a key may have begun: innermost first, outside of flow collections last. -/
  keys : List (Option KeyStart)

namespace Layout

/-- The start of a text. -/
def ofText (text : List Char) : Layout := ⟨.ofText text, #[], [], true, [none]⟩

/-- Whether the cursor is inside of flow brackets. -/
def inFlow (layout : Layout) : Bool := 1 < layout.keys.length

/-- The column of the innermost block collection. -/
def indent? (layout : Layout) : Option Nat := layout.indents.head?

/-- Whether a column lies to the right of the innermost block collection. -/
def isDeeper (layout : Layout) (column : Nat) : Bool :=
  match layout.indent? with
  | some indent => indent < column
  | none => true

/-- Adds a token at the end. -/
def push (layout : Layout) (token : Token) : Layout :=
  { layout with tokens := layout.tokens.push token }

/-- Adds a token at the end that leaves the cursor elsewhere. -/
def pushTo (layout : Layout) (token : Token) (cursor : Cursor) : Layout :=
  { layout with tokens := layout.tokens.push token, cursor }

/-- Adds a token before others. -/
def insert (layout : Layout) (place : Nat) (token : Token) : Layout :=
  { layout with tokens := layout.tokens.insertIdxIfInBounds place token }

/-- Goes over so many characters. -/
def skip (layout : Layout) (count : Nat) : Layout :=
  { layout with cursor := layout.cursor.skip count }

/-- Sets whether a key may start here. -/
def allowKey (layout : Layout) (allowsKey : Bool) : Layout := { layout with allowsKey }

/-- Closes the block collections to the right of a column, or all of them. -/
def closeBlocks (column : Option Nat) (layout : Layout) : List Nat → Layout
  | [] => { layout with indents := [] }
  | indent :: rest =>
    -- Without a column, no block stays open.
    let stays : Bool := match column with
      | some column => indent ≤ column
      | none => false
    if stays then { layout with indents := indent :: rest }
    else closeBlocks column (layout.push .blockEnd) rest

/-- Closes the block collections to the right of a column; flow brackets hide all layout. -/
def closeTo (layout : Layout) (column : Option Nat) : Layout :=
  if layout.inFlow then layout else layout.closeBlocks column layout.indents

/-- Opens a block collection at a column to the right of the innermost one. -/
def openBlock (layout : Layout) (column : Nat) (place : Option Nat) (token : Token) : Layout :=
  -- At the column of the innermost block the collection is that block, and needs no opening.
  if layout.inFlow || !layout.isDeeper column then layout
  else
    let opened := { layout with indents := column :: layout.indents }
    match place with
    | some place => opened.insert place token
    | none => opened.push token

/-- Whether a place can still turn out to be a key: it has to be on the same line, and not too
far away. -/
def isFresh (cursor : Cursor) (key : KeyStart) : Bool :=
  key.line == cursor.line && cursor.index ≤ key.index + 1024

/-- Gives up a place that cannot be a key any more; it is an error if it had to be one. -/
def refreshKey? (cursor : Cursor) : Option KeyStart → Option (Option KeyStart)
  | none => some none
  | some key =>
    if isFresh cursor key then some (some key)
    else if key.required then none
    else some none

/-- Gives up all places that cannot be keys any more. -/
def refresh? (layout : Layout) : Option Layout := do
  return { layout with keys := ← layout.keys.mapM (refreshKey? layout.cursor) }

/-- Gives up the place that may have been a key; it is an error if it had to be one. -/
def dropKey? (layout : Layout) : Option Layout :=
  match layout.keys with
  | some key :: rest => if key.required then none else some { layout with keys := none :: rest }
  | _ => some layout

/-- Marks that a key may begin here. -/
def saveKey? (layout : Layout) : Option Layout :=
  if !layout.allowsKey then some layout
  else do
    -- A second place on the same level takes over from the first.
    let dropped ← layout.dropKey?
    let cursor := layout.cursor
    let key : KeyStart := {
      token := layout.tokens.size
      index := cursor.index
      line := cursor.line
      column := cursor.column
      -- At the column of a block, a key is the only thing that can begin.
      required := !layout.inFlow && layout.indent? == some cursor.column }
    return { dropped with keys := some key :: dropped.keys.tail }

/-- Goes to the next token, over blanks, comments and line breaks. -/
def toNext (layout : Layout) : Nat → Layout
  | 0 => layout
  | fuel + 1 =>
    -- A byte order mark may start any line.
    let cursor := if layout.cursor.column == 0 && layout.cursor.sees '\ufeff' 0
      then layout.cursor.skip 1 else layout.cursor
    -- Where a key may start, a tab is no indentation.
    let tabs := layout.inFlow || !layout.allowsKey
    let (_, cursor) := cursor.takeWhile fun c => c == ' ' || (tabs && c == '\t')
    let cursor := cursor.skipComment
    if cursor.meets isBreak 0 then
      toNext { layout with
        cursor := cursor.takeBreak.2
        -- A new line outside of flow collections may begin with a key.
        allowsKey := !layout.inFlow || layout.allowsKey } fuel
    else { layout with cursor }

/-- The brackets that open flow collections. -/
def opening? (c : Char) : Option Token :=
  if c == '[' then some .flowSequence else if c == '\x7b' then some .flowMapping else none

/-- The brackets that close flow collections. -/
def closing? (c : Char) : Option Token :=
  if c == ']' then some .flowSequenceEnd else if c == '\x7d' then some .flowMappingEnd else none

/-- A directive or a document mark, before which all blocks are closed. -/
def documentToken? (layout : Layout) (token : Token) (cursor : Cursor) : Option Layout := do
  let closed ← (layout.closeTo none).dropKey?
  return (closed.allowKey false).pushTo token cursor

/-- A flow collection begins, which may be a key as a whole. -/
def openFlow? (layout : Layout) (token : Token) : Option Layout := do
  let saved ← layout.saveKey?
  return ({ saved with keys := none :: saved.keys }.allowKey true).skip 1 |>.push token

/-- A flow collection ends. -/
def closeFlow? (layout : Layout) (token : Token) : Option Layout := do
  let dropped ← layout.dropKey?
  -- The bracket itself may have been a key, on the level outside.
  let keys := if dropped.inFlow then dropped.keys.tail else dropped.keys
  return ({ dropped with keys }.allowKey false).skip 1 |>.push token

/-- A comma between elements. -/
def comma? (layout : Layout) : Option Layout := do
  return ((← layout.dropKey?).allowKey true).skip 1 |>.push .comma

/-- Opens a block collection here, where one may start. -/
def openHere? (layout : Layout) (token : Token) : Option Layout :=
  if layout.inFlow then some layout
  else if layout.allowsKey then some (layout.openBlock layout.cursor.column none token)
  else none

/-- A hyphen before an element. -/
def element? (layout : Layout) : Option Layout := do
  let opened ← layout.openHere? .blockSequence
  return ((← opened.dropKey?).allowKey true).skip 1 |>.push .element

/-- A question mark before a key. -/
def key? (layout : Layout) : Option Layout := do
  let opened ← layout.openHere? .blockMapping
  return ((← opened.dropKey?).allowKey (!layout.inFlow)).skip 1 |>.push .key

/-- A colon before a value. What may have been a key turns out to be one. -/
def value? (layout : Layout) : Option Layout :=
  match layout.keys with
  | some key :: rest =>
    -- The key is marked where it began, which may open a mapping there, too.
    let keyed := { layout with keys := none :: rest }.insert key.token .key
    let opened := keyed.openBlock key.column (some key.token) .blockMapping
    some <| (opened.allowKey false).skip 1 |>.push .value
  | _ => do
    let opened ← layout.openHere? .blockMapping
    return (opened.allowKey (!layout.inFlow)).skip 1 |>.push .value

/-- A token after which no key may start, but which may start one itself. -/
def keyLike? (layout : Layout) (read : Cursor → Option (Token × Cursor)) : Option Layout := do
  let saved ← layout.saveKey?
  let (token, cursor) ← read layout.cursor
  return (saved.allowKey false).pushTo token cursor

/-- A block scalar, which is never a key. -/
def blockScalar? (layout : Layout) (style : Style) : Option Layout := do
  let dropped ← layout.dropKey?
  let (text, cursor) ← Scalar.block? (style == .folded) layout.indent? layout.cursor
  return (dropped.allowKey true).pushTo (.scalar style text) cursor

/-- A plain scalar; the line break after it may be followed by a key. -/
def plainScalar? (layout : Layout) : Option Layout := do
  let saved ← layout.saveKey?
  -- Outside of any block, a plain scalar may start in the first column.
  let indent := match layout.indent? with
    | some indent => indent + 1
    | none => 0
  let (text, broken, cursor) ← Scalar.plain? layout.inFlow indent layout.cursor
  return (saved.allowKey broken).pushTo (.scalar .plain text) cursor

/-- The characters that start something else than a plain scalar. -/
def indicators : List Char := "-?:,[]\x7b\x7d#&*!|>'\"%@\x60".toList

/-- Whether a plain scalar may start here. -/
def startsPlain (layout : Layout) (c : Char) : Bool :=
  let cursor := layout.cursor
  (!isBlank c && !indicators.contains c) || (c == '-' && !cursor.meets isBlank 1) ||
    (!layout.inFlow && (c == '?' || c == ':') && !cursor.endsWord 1)

/-- Reads the token at the cursor, which starts with the given character. -/
def token? (layout : Layout) (c : Char) : Option Layout :=
  let cursor := layout.cursor
  let separate := cursor.endsWord 1
  let quoted (single : Bool) (cursor : Cursor) : Option (Token × Cursor) :=
    (Scalar.quoted? single cursor).map fun (text, rest) => (.scalar .quoted text, rest)
  let named (make : String → Token) (cursor : Cursor) : Option (Token × Cursor) :=
    (Token.anchorName? cursor).map fun (name, rest) => (make name, rest)
  -- Directives and document marks count only at the start of a line.
  if cursor.column == 0 && c == '%' then do
    let (token, rest) ← Token.directive? cursor
    layout.documentToken? token rest
  else if cursor.marksDocument then
    layout.documentToken? (if c == '-' then .documentStart else .documentEnd) (cursor.skip 3)
  else match opening? c, closing? c with
    | some token, _ => layout.openFlow? token
    | _, some token => layout.closeFlow? token
    -- Of the indicators, some need a blank behind them outside of flow collections.
    | _, _ =>
      if c == ',' then layout.comma?
      else if c == '-' && separate then layout.element?
      else if c == '?' && (layout.inFlow || separate) then layout.key?
      else if c == ':' && (layout.inFlow || separate) then layout.value?
      else if c == '*' then layout.keyLike? (named .alias)
      else if c == '&' then layout.keyLike? (named .anchor)
      else if c == '!' then layout.keyLike? (Token.tag? layout.inFlow)
      else if c == '|' && !layout.inFlow then layout.blockScalar? .literal
      else if c == '>' && !layout.inFlow then layout.blockScalar? .folded
      else if c == '\'' then layout.keyLike? (quoted true)
      else if c == '"' then layout.keyLike? (quoted false)
      else if layout.startsPlain c then layout.plainScalar?
      else none

/-- Closes everything at the end of the text. -/
def finish? (layout : Layout) : Option (List Token) := do
  let closed ← (layout.closeTo none).dropKey?
  return closed.tokens.toList

/-- Parts the rest of a text into tokens; each of them takes at least one character. -/
def run? : Nat → Layout → Option (List Token)
  | 0, _ => none
  | fuel + 1, layout => do
    let here ← (layout.toNext (layout.cursor.rest.length + 1)).refresh?
    -- Blocks are closed before the token that is outside of them.
    let here := here.closeTo (some here.cursor.column)
    match here.cursor.next? with
    | none => here.finish?
    | some c => run? fuel (← here.token? c)

/-- The characters that a text may consist of. -/
def isPrintable (c : Char) : Bool :=
  c == '\t' || c == '\n' || c == '\r' || (' ' ≤ c && c ≤ '~') || c == '\u0085' ||
    ('\u00a0' ≤ c && c != '\ufffe' && c != '\uffff')

/-- The tokens of a text, which may start with a byte order mark. -/
def tokens? (text : List Char) : Option (List Token) :=
  let text := match text with
    | '\ufeff' :: rest => rest
    | text => text
  if text.all isPrintable then run? (text.length + 1) (.ofText text) else none

end Layout

end BatchFlow.Yaml
