import BatchFlow.Toml.Number

/-! Documents: values, sections and the tables that they make up. -/

namespace BatchFlow.Toml

/-- A value under a key with parts. -/
structure Assignment where
  path : List String
  key : String
  value : Value

/-- Adds values one after the other, making tables of the given origin for dotted keys. -/
def assignAll? (fresh : Origin) (entries : Entries) (assignments : List Assignment) :
    Option Entries :=
  assignments.foldlM (fun entries assignment =>
    Entries.insertDotted? fresh assignment.path assignment.key assignment.value entries) entries

mutual

/-- A value, with so many levels left for arrays and inline tables. -/
def value? : Nat → Nat → List Char → Option (Value × List Char)
  | 0, _, _ => none
  | fuel + 1, levels, text =>
    match text with
    | 't' :: 'r' :: 'u' :: 'e' :: rest => some (.bool true, rest)
    | 'f' :: 'a' :: 'l' :: 's' :: 'e' :: rest => some (.bool false, rest)
    | '[' :: rest =>
      -- Each level of nesting is taken from those that are left.
      match levels with
      | 0 => none
      | levels + 1 => do
        let (elements, rest) ← elements? fuel levels rest
        return (.array elements, rest)
    | '\x7b' :: rest =>
      match levels with
      | 0 => none
      | levels + 1 => do
        let (assignments, rest) ← inlineEntries? fuel levels rest
        -- Nothing can be added to an inline table later, so dotted keys are fixed, too.
        return (.table (.inline false) (← assignAll? (.inline true) [] assignments), rest)
    | c :: _ =>
      if c == '"' || c == '\'' then
        (Text.string? text).map fun (string, rest) => (.string string, rest)
      else Number.value? text
    | [] => none

/-- The elements of an array after its opening bracket or a comma. -/
def elements? : Nat → Nat → List Char → Option (List Value × List Char)
  | 0, _, _ => none
  | fuel + 1, levels, text =>
    match Text.skipLines (text.length + 1) text with
    -- A comma may come before the closing bracket.
    | ']' :: rest => some ([], rest)
    | text => do
      let (first, rest) ← value? fuel levels text
      match Text.skipLines (rest.length + 1) rest with
      | ',' :: rest =>
        let (more, rest) ← elements? fuel levels rest
        return (first :: more, rest)
      | ']' :: rest => return ([first], rest)
      | _ => none

/-- What stands between the braces of an inline table, after the opening one. -/
def inlineEntries? : Nat → Nat → List Char → Option (List Assignment × List Char)
  | 0, _, _ => none
  | fuel + 1, levels, text =>
    match Text.skipBlanks text with
    | '\x7d' :: rest => some ([], rest)
    | text => moreInlineEntries? fuel levels text

/-- At least one assignment of an inline table, and the closing brace. -/
def moreInlineEntries? : Nat → Nat → List Char → Option (List Assignment × List Char)
  | 0, _, _ => none
  | fuel + 1, levels, text => do
    let ((path, key), rest) ← Text.key? text
    match rest with
    | '=' :: rest =>
      let (value, rest) ← value? fuel levels (Text.skipBlanks rest)
      match Text.skipBlanks rest with
      | ',' :: rest =>
        let (more, rest) ← moreInlineEntries? fuel levels rest
        return (⟨path, key, value⟩ :: more, rest)
      | '\x7d' :: rest => return ([⟨path, key, value⟩], rest)
      | _ => none
    | _ => none

end

/-- The header of a section. -/
inductive Header where
  /-- The top of the document has none. -/
  | top
  | table (path : List String) (key : String)
  /-- Another table in a list of tables. -/
  | element (path : List String) (key : String)

/-- A header with the values below it. -/
structure Section where
  header : Header
  assignments : List Assignment

/-- A header on a line of its own, after its first bracket. -/
def header? (text : List Char) : Option (Header × List Char) :=
  -- Doubled brackets add to a list of tables.
  match text with
  | '[' :: rest => do
    let ((path, key), rest) ← Text.key? rest
    match rest with
    | ']' :: ']' :: rest => return (.element path key, ← Text.finishLine? rest)
    | _ => none
  | text => do
    let ((path, key), rest) ← Text.key? text
    match rest with
    | ']' :: rest => return (.table path key, ← Text.finishLine? rest)
    | _ => none

/-- A value on a line of its own. -/
def assignment? (text : List Char) : Option (Assignment × List Char) := do
  let ((path, key), rest) ← Text.key? text
  match rest with
  | '=' :: rest =>
    let rest := Text.skipBlanks rest
    let (value, rest) ← value? (2 * rest.length + 4) (Text.nestingLimit - 1) rest
    return (⟨path, key, value⟩, ← Text.finishLine? rest)
  | _ => none

/-- The rest of a document: the assignments up to the next header, and the sections from there. -/
def sections? : Nat → List Char → Option (List Assignment × List Section)
  | 0, _ => none
  | fuel + 1, text =>
    match Text.skipLines (text.length + 1) text with
    -- The document ends with the values of its last section.
    | [] => some ([], [])
    | '[' :: rest => do
      let (header, rest) ← header? rest
      let (assignments, sections) ← sections? fuel rest
      return ([], ⟨header, assignments⟩ :: sections)
    | text => do
      let (assignment, rest) ← assignment? text
      let (assignments, sections) ← sections? fuel rest
      return (assignment :: assignments, sections)

/-- Adds a section to the tables so far. A table has one header at most, and none if dotted keys
made it; headers of tables below it may come before its own. -/
def addSection? (entries : Entries) (part : Section) : Option Entries :=
  match part.header with
  | .top => assignAll? .dotted entries part.assignments
  | .table path key =>
    -- The table may have been made on the way to one below it, but not by a header of its own.
    let change : Option Value → Option Value
      | none => (assignAll? .dotted [] part.assignments).map (.table .header)
      | some (.table .implied inner) =>
        (assignAll? .dotted inner part.assignments).map (.table .header)
      | some _ => none
    entries.changeAt? change path key
  | .element path key =>
    -- A list grows by one table, and nothing else can be turned into one.
    let change : Option Value → Option Value
      | none => (assignAll? .dotted [] part.assignments).map fun entries => .tables [entries]
      | some (.tables elements) =>
        (assignAll? .dotted [] part.assignments).map fun entries => .tables (elements ++ [entries])
      | some _ => none
    entries.changeAt? change path key

/-- The tables that a text describes. It may start with a byte order mark. -/
def parse? (text : String) : Option Entries := do
  let characters := match text.toList with
    | '\ufeff' :: rest => rest
    | characters => characters
  let (assignments, sections) ← sections? (characters.length + 1) characters
  (⟨.top, assignments⟩ :: sections).foldlM addSection? []

end BatchFlow.Toml
