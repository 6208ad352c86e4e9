import BatchFlow.Shape
import BatchFlow.Yaml.Node

/-! The core schema: what plain scalars mean, and YAML documents as a format to read records
from. -/

namespace BatchFlow.Yaml

/-- The tags that say what a scalar means. -/
inductive Meaning where
  | null
  | bool
  | int
  | float
deriving DecidableEq

/-- The tag of a meaning. -/
def Meaning.tag : Meaning → String
  | .null => "tag:yaml.org,2002:null"
  | .bool => "tag:yaml.org,2002:bool"
  | .int => "tag:yaml.org,2002:int"
  | .float => "tag:yaml.org,2002:float"

/-- The name in a tag of the document's own, which starts with an exclamation mark. -/
def localName? (tag : Option String) : Option String :=
  match tag.map String.toList with
  | some ('!' :: name) => some (String.ofList name)
  | _ => none

namespace Schema

/-- The texts for null. -/
def isNull (text : String) : Bool := text ∈ ["null", "Null", "NULL", "~"]

/-- The truth value that a text stands for. -/
def bool? (text : String) : Option Bool :=
  if text ∈ ["true", "True", "TRUE"] then some true
  else if text ∈ ["false", "False", "FALSE"] then some false
  else none

/-- A sign. -/
def isSign (c : Char) : Bool := c == '+' || c == '-'

/-- Digits after a leading zero, with or without a sign, are not a number. -/
def isPadded (text : List Char) : Bool :=
  let unsigned := match text with
    | c :: rest => if isSign c then rest else text
    | [] => []
  match unsigned with
  | '0' :: c :: rest => (c :: rest).all Char.isDigit
  | _ => false

/-- The value of a digit in a base of at most sixteen. -/
def digitIn? (base : Nat) (c : Char) : Option Nat :=
  (Scalar.digitValue? c).filter (· < base)

/-- The value of a row of digits. -/
def digits? (base : Nat) (text : List Char) : Option Nat :=
  if text.isEmpty then none
  else text.foldlM (fun value c => (digitIn? base c).map (value * base + ·)) 0

/-- The bases that are announced by a letter after a zero. -/
def bases : List (Char × Nat) := [('x', 16), ('o', 8), ('b', 2)]

/-- An integer without a sign, if it is below a limit. -/
def unsigned? (limit : Nat) (text : List Char) : Option Nat :=
  let based := match text with
    | '0' :: letter :: rest =>
      (bases.find? (·.1 == letter)).bind fun (_, base) => (digits? base rest).filter (· < limit)
    | _ => none
  match based with
  | some value => some value
  | none => if isPadded text then none else (digits? 10 text).filter (· < limit)

/-- An integer that is not negative, with or without a plus sign, below a limit. -/
def natural? (limit : Nat) : List Char → Option Nat
  | '+' :: rest => if isPadded ('+' :: rest) then none else unsigned? limit rest
  | text => unsigned? limit text

/-- A negative integer down to a limit; zero may have a minus sign too. -/
def negative? (limit : Nat) : List Char → Option Int
  | '-' :: rest => (unsigned? (limit + 1) rest).map fun value => -(value : Int)
  | _ => none

/-- The digits at the start of a text, and the rest of it. -/
def leadingDigits (text : List Char) : List Char × List Char :=
  (text.takeWhile Char.isDigit, text.dropWhile Char.isDigit)

/-- The exponent at the end of a number, if there is one. -/
def exponent? : List Char → Option Int
  | [] => some 0
  | mark :: rest =>
    if mark ≠ 'e' ∧ mark ≠ 'E' then none
    else match rest with
      | '-' :: digits => (digits? 10 digits).map fun value => -(value : Int)
      | '+' :: digits => (digits? 10 digits).map (·)
      | digits => (digits? 10 digits).map (·)

/-- A decimal number that is not too large, without a sign: digits with a point anywhere among
them or none, and perhaps an exponent. -/
def decimal? (negative : Bool) (text : List Char) : Option Binary64 := do
  let (whole, rest) := leadingDigits text
  let (fraction, rest) := match rest with
    | '.' :: rest => leadingDigits rest
    | rest => ([], rest)
  let digits ← digits? 10 (whole ++ fraction)
  let exponent ← exponent? rest
  let value := Binary64.ofDecimal negative digits (exponent - fraction.length)
  if value.isFinite then some value else none

/-- Infinities and what is not a number have no place among items: they are null. -/
def isBoundless (text : String) : Bool :=
  text ∈ [".inf", ".Inf", ".INF", "+.inf", "+.Inf", "+.INF", "-.inf", "-.Inf", "-.INF",
    ".nan", ".NaN", ".NAN"]

/-- A number with a fraction or an exponent, as an item. -/
def float? (text : String) : Option Item :=
  if isBoundless text then some .null
  else
    let value := match text.toList with
      | '+' :: rest => decimal? false rest
      | '-' :: rest => decimal? true rest
      | rest => decimal? false rest
    value.map fun value => .number (.real value)

/-- What reading an integer comes to. -/
inductive Integer where
  | value (value : Int)
  /-- It has between 64 and 128 bits, which no item has room for. -/
  | tooLarge
  /-- It is no integer, or an even larger one. -/
  | none

/-- Reads an integer. -/
def integer (text : String) : Integer :=
  let characters := text.toList
  match natural? (twoTo 64) characters, negative? (twoTo 63) characters with
  | some value, _ => .value value
  | .none, some value => .value value
  | .none, .none =>
    if (natural? (twoTo 128) characters).isSome || (negative? (twoTo 127) characters).isSome then
      .tooLarge
    else .none

/-- What a plain scalar without a tag means. -/
def untagged? (text : String) : Option Item :=
  if text.isEmpty || isNull text then some .null
  else match bool? text with
    | some value => some (.bool value)
    | none =>
      match integer text with
      | .value value => some (.int value)
      | .tooLarge => none
      | .none =>
        if isPadded text.toList then some (.string text)
        else match float? text with
          | some item => some item
          | none => some (.string text)

/-- What a scalar means as an item. A tag of the document's own says nothing that items know. -/
def item? (style : Style) (tag : Option String) (text : String) : Option Item :=
  match tag with
  | none => if style = .plain then untagged? text else some (.string text)
  | some tag =>
    if (localName? (some tag)).isSome then none
    else if tag = Meaning.bool.tag then (bool? text).map .bool
    else if tag = Meaning.int.tag then
      match integer text with
      | .value value => some (.int value)
      | _ => none
    else if tag = Meaning.float.tag then float? text
    else if tag = Meaning.null.tag then if isNull text then some .null else none
    else some (.string text)

/-- Whether a scalar may be read as something else than text. -/
def isOpen (meaning : Meaning) (style : Style) (tag : Option String) : Bool :=
  style == .plain || (style == .literal && tag == some meaning.tag)

end Schema

/-- A part of a document that is yet to be read. -/
structure Part where
  anchors : List (Nat × Node)
  /-- How many levels of collections may still be opened. -/
  depth : Nat
  /-- How many aliases may be followed for one item. -/
  patience : Nat
  node : Node

namespace Part

/-- A document as a whole. -/
def ofDocument (document : Document) : Part :=
  ⟨document.anchors, 128, 100 * document.size, document.root⟩

/-- The node that is meant: an alias stands for another one. -/
def target (anchors : List (Nat × Node)) : Node → Node
  | .alias number =>
    match anchors.find? (·.1 == number) with
    | some (_, node) => node
    | none => .alias number
  | node => node

/-- The node of a part. -/
def content (part : Part) : Node := target part.anchors part.node

/-- A part below another one. -/
def inner (part : Part) (node : Node) : Part := { part with depth := part.depth - 1, node }

/-- The text of a scalar, however it is written. -/
def text? (part : Part) : Option String :=
  match part.content with
  | .scalar _ _ text => some text
  | _ => none

/-- A truth value. -/
def flag? (part : Part) : Option Bool :=
  match part.content with
  | .scalar style tag text =>
    if Schema.isOpen .bool style tag then Schema.bool? text else none
  | _ => none

/-- A 64-bit count. -/
def word? (part : Part) : Option Nat :=
  match part.content with
  | .scalar style tag text =>
    if Schema.isOpen .int style tag then Schema.natural? (twoTo 64) text.toList else none
  | _ => none

/-- The value of an optional field. Absence is an empty plain scalar or null. -/
def present? (part : Part) : Option (Option Part) :=
  match part.content with
  | .scalar .plain none text =>
    some (if text.isEmpty || Schema.isNull text then none else some part)
  | .scalar .plain (some tag) text =>
    if tag = Meaning.null.tag then if Schema.isNull text then some none else none
    else some (if text.isEmpty then none else some part)
  | _ => some (some part)

/-- The elements of a sequence; nothing at all is an empty one. -/
def list? (part : Part) : Option (List Part) :=
  match part.content with
  | .sequence _ elements => if part.depth = 0 then none else some (elements.map part.inner)
  | .scalar .plain _ "" => some []
  | _ => none

/-- The entries of a mapping, whose keys have to be scalars; nothing at all is an empty one. -/
def entries? (part : Part) : Option (List (String × Part)) :=
  match part.content with
  | .mapping _ entries =>
    if part.depth = 0 then none
    else entries.mapM fun (key, value) => do
      return (← (part.inner key).text?, part.inner value)
  | .scalar .plain _ "" => some []
  | _ => none

/-- The name of an alternative: a scalar, or the tag of one that says nothing else. -/
def choice? (part : Part) : Option String :=
  match part.content with
  | .scalar style tag text =>
    match localName? tag with
    | some name =>
      if style = .plain ∧ (text.isEmpty ∨ Schema.isNull text) then some name else none
    | none => some text
  | _ => none

/-- The item that a node stands for, down to a depth, with so many aliases left to follow. -/
def itemOf (anchors : List (Nat × Node)) : Nat → Node → StateT Nat Option Item
  | depth, node => do
    match node with
    -- Aliases can multiply what a text says, so only so many are followed.
    | .alias _ =>
      let left ← get
      if left = 0 then failure
      set (left - 1)
    | _ => pure ()
    match target anchors node, depth with
    | .scalar style tag text, _ =>
      match Schema.item? style tag text with
      | some item => return item
      | none => failure
    | .sequence tag elements, depth + 1 =>
      -- A tag of somebody's own names an alternative, and no item has any.
      if (localName? tag).isSome then failure
      return .array (← elements.mapM (itemOf anchors depth))
    | .mapping tag entries, depth + 1 =>
      if (localName? tag).isSome then failure
      let fields ← entries.mapM fun (key, value) => do
        -- Fields are named by scalars only.
        match target anchors key with
        | .scalar _ _ name => return (name, ← itemOf anchors depth value)
        | _ => failure
      return .record fields
    | _, _ => failure

/-- The item that a part stands for. -/
def item? (part : Part) : Option Item :=
  ((itemOf part.anchors part.depth part.node).run part.patience).map (·.1)

/-- Parts of documents as a format. A record is always a mapping. -/
def format : Format Part where
  text? := text?
  flag? := flag?
  word? := word?
  present? := present?
  list? := list?
  entries? := entries?
  shape? part := part.entries?.map .named
  choice? := choice?
  item? := item?
  allowsExtra := false

end Part

end BatchFlow.Yaml
