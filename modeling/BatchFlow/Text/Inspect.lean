import BatchFlow.Item
import BatchFlow.Text.Ranges

/-! Diagnostic text: strings with their invisible characters escaped, and values with their sort. -/

namespace BatchFlow.Text

/-- The escape of a character by its code. -/
def codeEscape (c : Char) : List Char :=
  '\\' :: 'u' :: '\x7b' :: Nat.toDigits 16 c.toNat ++ ['\x7d']

/-- How a character shows in a quoted diagnostic text. -/
def inspectChar (c : Char) : List Char :=
  match c with
  | '"' => ['\\', '"']
  | '\\' => ['\\', '\\']
  | '\n' => ['\\', 'n']
  | '\r' => ['\\', 'r']
  | '\t' => ['\\', 't']
  | '\x00' => ['\\', '0']
  | c =>
    -- An accent would attach to the quote or letter before it, so it is escaped as well.
    if isExtender c || !isVisible c then codeEscape c else [c]

/-- A string in quotes, with whatever does not show escaped. -/
def inspect (s : String) : String :=
  String.ofList ('"' :: s.toList.flatMap inspectChar ++ ['"'])

/-- Parts in a row, parted by commas. -/
def commas (parts : List String) : String :=
  String.intercalate ", " parts

/-- A list of strings in brackets. -/
def inspectList (values : List String) : String :=
  "[" ++ commas (values.map inspect) ++ "]"

/-- A named record of fields whose values are already text. -/
def inspectRecord (name : String) (fields : List (String × String)) : String :=
  name ++ " \x7b " ++ commas (fields.map fun field => field.1 ++ ": " ++ field.2) ++ " \x7d"

/-- A value that may be missing. -/
def inspectOption (value : Option String) : String :=
  match value with
  | some text => "Some(" ++ text ++ ")"
  | none => "None"

end BatchFlow.Text

namespace BatchFlow.Item

mutual

/-- The diagnostic text of an item, which names the sort of every value. -/
def inspect : Item → String
  | .null => "Null"
  | .bool value => "Bool(" ++ toString value ++ ")"
  | .number value => "Number(" ++ value.text ++ ")"
  | .string value => "String(" ++ Text.inspect value ++ ")"
  | .array items => "Array [" ++ inspectItems items ++ "]"
  | .object fields => "Object \x7b" ++ inspectFields fields ++ "\x7d"

/-- The elements of a list, parted by commas. -/
def inspectItems : List Item → String
  | [] => ""
  | [item] => inspect item
  | item :: next :: rest => inspect item ++ ", " ++ inspectItems (next :: rest)

/-- The fields of an object, parted by commas. -/
def inspectFields : List (String × Item) → String
  | [] => ""
  | [(name, value)] => Text.inspect name ++ ": " ++ inspect value
  | (name, value) :: next :: rest =>
    Text.inspect name ++ ": " ++ inspect value ++ ", " ++ inspectFields (next :: rest)

end

end BatchFlow.Item
