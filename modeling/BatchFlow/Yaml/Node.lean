import BatchFlow.Yaml.Layout

/-! Nodes: the tree of scalars, sequences and mappings that the tokens of a document describe. -/

namespace BatchFlow.Yaml

/-- A part of a document, with the tag it was given. -/
inductive Node where
  | scalar (style : Style) (tag : Option String) (text : String)
  | sequence (tag : Option String) (elements : List Node)
  | mapping (tag : Option String) (entries : List (Node × Node))
  /-- The anchor of a number is meant. -/
  | alias (anchor : Nat)

namespace Node

/-- The scalar that stands where nothing is written. -/
def absent : Node := .scalar .plain none ""

end Node

/-- A document: its root, and the node that each anchor refers to. -/
structure Document where
  root : Node
  anchors : List (Nat × Node)
  /-- The number of nodes, with those counted twice that hold others. -/
  size : Nat

/-- How far the tokens of a document have been read. -/
structure Reading where
  tokens : List Token
  /-- What the handles of tags stand for. -/
  handles : List (String × String)
  /-- The number that each name of an anchor has by now. -/
  names : List (String × Nat)
  /-- Which node each anchor refers to: the one that started last. -/
  places : List (Nat × Nat)
  /-- The finished nodes that have anchors, by the order in which they started. -/
  marked : List (Nat × Node)
  /-- The number of anchors so far. -/
  marks : Nat
  size : Nat

namespace Reading

/-- Reading that may fail. -/
abbrev Read (α : Type) : Type := StateT Reading Option α

/-- A reading of tokens from their start. -/
def ofTokens (tokens : List Token) : Reading where
  tokens
  handles := [("!", "!"), ("!!", "tag:yaml.org,2002:")]
  names := []
  places := []
  marked := []
  marks := 0
  size := 0

/-- The next token. -/
def peek : Read (Option Token) := return (← get).tokens.head?

/-- Goes over the next token. -/
def skip : Read Unit := modify fun reading => { reading with tokens := reading.tokens.tail }

/-- Goes over the next token if it is the given one. -/
def accept (token : Token) : Read Bool := do
  if (← peek) == some token then
    skip
    return true
  else return false

/-- Nothing else may come here. -/
def expect (token : Token) : Read Unit := do
  if !(← accept token) then failure

/-- Whether the next token is one of several. -/
def sees (tokens : List Token) : Read Bool := do
  match ← peek with
  | some token => return tokens.contains token
  | none => return false

/-- Counts parts of the document. -/
def count (parts : Nat) : Read Unit :=
  modify fun reading => { reading with size := reading.size + parts }

/-- A scalar that is not written. -/
def absent : Read Node := do
  count 1
  return .absent

/-- An anchor is about to be set: gives it a number, and the node a mark to be found by. A name
that is used again gets the number after those of all names. -/
def startAnchor (name : String) : Read Nat := do
  let reading ← get
  let number := reading.names.length
  let names := (name, number) :: reading.names.filter (·.1 != name)
  let places := (number, reading.marks) :: reading.places.filter (·.1 != number)
  set { reading with names, places, marks := reading.marks + 1 }
  return reading.marks

/-- The node of a mark is finished. -/
def finishAnchor (mark : Option Nat) (node : Node) : Read Node := do
  match mark with
  | some mark => modify fun reading => { reading with marked := (mark, node) :: reading.marked }
  | none => pure ()
  return node

/-- The number of the anchor that a name refers to by now. -/
def anchorOf (name : String) : Read Nat := do
  match (← get).names.find? (·.1 == name) with
  | some (_, number) => return number
  | none => failure

/-- The whole tag for a handle and what follows it. -/
def wholeTag (handle suffix : String) : Read String := do
  if handle.isEmpty then return suffix
  else match (← get).handles.find? (·.1 == handle) with
    | some (_, expansion) => return expansion ++ suffix
    | none => failure

/-- What stands before a node: an anchor and a tag, in either order. -/
structure Properties where
  anchor : Option String
  tag : Option String

/-- Reads a tag, if there is one. -/
def readTag : Read (Option String) := do
  match ← peek with
  | some (.tag handle suffix) =>
    skip
    return some (← wholeTag handle suffix)
  | _ => return none

/-- Reads an anchor, if there is one. -/
def readAnchor : Read (Option String) := do
  match ← peek with
  | some (.anchor name) =>
    skip
    return some name
  | _ => return none

/-- Reads what stands before a node. -/
def readProperties : Read Properties := do
  let anchor ← readAnchor
  let tag ← readTag
  match anchor with
  | some anchor => return ⟨some anchor, tag⟩
  -- The tag came first, so an anchor may still follow.
  | none => if tag.isSome then return ⟨← readAnchor, tag⟩ else return ⟨none, none⟩

/-- Reads something that starts, and may be referred to by its anchor from now on. -/
def anchored (properties : Properties) (parts : Nat) (read : Read Node) : Read Node := do
  count parts
  -- The anchor is known from here on, even within the node itself.
  let mark ← match properties.anchor with
    | some name => some <$> startAnchor name
    | none => pure none
  finishAnchor mark (← read)

/-- Whether a node would come next in a block mapping, where it may also be left out. -/
def endsBlockPart : List Token := [.key, .value, .blockEnd]

mutual

/-- A node. Blocks are read only outside of flow collections, and a sequence without indentation
of its own only as part of a mapping. -/
def node (block bare : Bool) : Nat → Read Node
  | 0 => failure
  | fuel + 1 => do
    match ← peek with
    | some (.alias name) =>
      skip
      count 1
      return .alias (← anchorOf name)
    | _ =>
      let properties ← readProperties
      let tag := properties.tag
      match ← peek with
      | some (.scalar style text) =>
        skip
        -- A mark by itself as a tag leaves a scalar untagged.
        let tag := if tag == some "!" then none else tag
        anchored properties 1 (pure (.scalar style tag text))
      | some .flowSequence =>
        skip
        anchored properties 2 (.sequence tag <$> flowElements true fuel)
      | some .flowMapping =>
        skip
        anchored properties 2 (.mapping tag <$> flowEntries true fuel)
      | some .blockSequence =>
        -- A block within a flow collection is not allowed.
        if !block then failure
        skip
        anchored properties 2 (.sequence tag <$> blockElements fuel)
      | some .blockMapping =>
        if !block then failure
        skip
        anchored properties 2 (.mapping tag <$> blockEntries fuel)
      | next =>
        -- An element right where a mapping expects a value starts a sequence of its own.
        if bare && next == some .element then
          anchored properties 2 (.sequence tag <$> bareElements fuel)
        -- Properties by themselves describe an empty scalar.
        else if properties.anchor.isSome || tag.isSome then
          anchored properties 1 (pure (.scalar .plain tag ""))
        else failure

/-- A node that may be left out before certain tokens. -/
def nodeUnless (block bare : Bool) (ends : List Token) : Nat → Read Node
  | 0 => failure
  | fuel + 1 => do
    if ← sees ends then absent else node block bare fuel

/-- The elements of a block sequence. -/
def blockElements : Nat → Read (List Node)
  | 0 => failure
  | fuel + 1 => do
    if ← accept .element then
      let first ← nodeUnless true false [.element, .blockEnd] fuel
      return first :: (← blockElements fuel)
    else
      expect .blockEnd
      return []

/-- The elements of a sequence that is not indented further than the mapping it is part of. -/
def bareElements : Nat → Read (List Node)
  | 0 => failure
  | fuel + 1 => do
    if ← accept .element then
      let first ← nodeUnless true false (.element :: endsBlockPart) fuel
      return first :: (← bareElements fuel)
    else return []

/-- The entries of a block mapping. -/
def blockEntries : Nat → Read (List (Node × Node))
  | 0 => failure
  | fuel + 1 => do
    if ← accept .key then
      let key ← nodeUnless true true endsBlockPart fuel
      let value ←
        if ← accept .value then nodeUnless true true endsBlockPart fuel else absent
      return (key, value) :: (← blockEntries fuel)
    else
      expect .blockEnd
      return []

/-- The elements of a flow sequence. One may also be a mapping with a single entry. -/
def flowElements (first : Bool) : Nat → Read (List Node)
  | 0 => failure
  | fuel + 1 => do
    if ← accept .flowSequenceEnd then return []
    if !first then expect .comma
    -- A key within a sequence starts a mapping of this one entry.
    if ← accept .key then
      count 2
      let key ←
        if ← sees [.value, .comma, .flowSequenceEnd] then
          -- What follows the question mark at once is taken for the key that is left out.
          skip
          absent
        else node false false fuel
      let value ←
        if ← accept .value then nodeUnless false false [.comma, .flowSequenceEnd] fuel else absent
      return .mapping none [(key, value)] :: (← flowElements false fuel)
    else if ← accept .flowSequenceEnd then return []
    else
      let element ← node false false fuel
      return element :: (← flowElements false fuel)

/-- The entries of a flow mapping. -/
def flowEntries (first : Bool) : Nat → Read (List (Node × Node))
  | 0 => failure
  | fuel + 1 => do
    if ← accept .flowMappingEnd then return []
    if !first then expect .comma
    if ← accept .key then
      let key ← nodeUnless false false [.value, .comma, .flowMappingEnd] fuel
      let value ←
        if ← accept .value then nodeUnless false false [.comma, .flowMappingEnd] fuel else absent
      return (key, value) :: (← flowEntries false fuel)
    else if ← accept .flowMappingEnd then return []
    else
      let key ← node false false fuel
      -- Without a mark in front of it, an entry is a key without a value.
      return (key, ← absent) :: (← flowEntries false fuel)

end

/-- Reads the directives before a document. The version may be given once, and each handle. -/
def directives (versioned : Bool) (defined : List String) : Nat → Read Unit
  | 0 => failure
  | fuel + 1 => do
    match ← peek with
    | some (.version major minor) =>
      -- Later versions may mean something else, and a second one is an error.
      if versioned || major != 1 || (minor != 1 && minor != 2) then failure
      skip
      directives true defined fuel
    | some (.shorthand handle expansion) =>
      if defined.contains handle then failure
      skip
      modify fun reading =>
        { reading with
          handles := (handle, expansion) :: reading.handles.filter (·.1 != handle) }
      directives versioned (handle :: defined) fuel
    | _ => return ()

/-- Goes over the marks at the end of a document. -/
def endMarks : Nat → Read Unit
  | 0 => return ()
  | fuel + 1 => do
    if ← accept .documentEnd then endMarks fuel

/-- Reads the root of a document. Without directives and a mark at its start it has to have one,
unless there is nothing at all. -/
def root (fuel : Nat) : Read Node := do
  match ← peek with
  | none => absent
  | some (.version ..) | some (.shorthand ..) | some .documentStart =>
    directives false [] fuel
    expect .documentStart
    match ← peek with
    -- A document that ends at once has an empty root.
    | none | some (.version ..) | some (.shorthand ..) | some .documentStart
    | some .documentEnd => absent
    | some _ => node true false fuel
  | some _ => node true false fuel

/-- Reads the only document of a text. -/
def document (fuel : Nat) : Read Node := do
  let root ← root fuel
  endMarks fuel
  if (← peek).isSome then failure
  return root

/-- The node that each anchor refers to in the end. -/
def anchors (reading : Reading) : List (Nat × Node) :=
  reading.places.filterMap fun (number, mark) =>
    (reading.marked.find? (·.1 == mark)).map fun (_, node) => (number, node)

end Reading

/-- The document that a text consists of. -/
def Document.parse? (text : String) : Option Document := do
  let tokens ← Layout.tokens? text.toList
  let (root, reading) ← (Reading.document (4 * tokens.length + 8)).run (.ofTokens tokens)
  return ⟨root, reading.anchors, reading.size⟩

end BatchFlow.Yaml
