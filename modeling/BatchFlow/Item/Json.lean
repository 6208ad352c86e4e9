import BatchFlow.Item

/-! The JSON text of an item: compact on one line, or indented by two blanks a level. -/

namespace BatchFlow.Item

/-- The hexadecimal digits, in lower case. -/
def hexDigit (n : Nat) : Char :=
  (Nat.digitChar (n % 16))

/-- How one character is written inside a JSON string. -/
def escapeChar (c : Char) : List Char :=
  match c with
  | '"' => ['\\', '"']
  | '\\' => ['\\', '\\']
  | '\n' => ['\\', 'n']
  | '\r' => ['\\', 'r']
  | '\t' => ['\\', 't']
  | '\x08' => ['\\', 'b']
  | '\x0c' => ['\\', 'f']
  | c =>
    -- Of the other characters only the controls below the blank are escaped, by their code.
    if c.toNat < 32 then ['\\', 'u', '0', '0', hexDigit (c.toNat / 16), hexDigit c.toNat] else [c]

/-- A string in quotes. -/
def quoted (s : String) : String :=
  String.ofList ('"' :: s.toList.flatMap escapeChar ++ ['"'])

mutual

/-- The text without any blanks. -/
def compact : Item → String
  | .null => "null"
  | .bool true => "true"
  | .bool false => "false"
  | .number n => n.text
  | .string s => quoted s
  | .array items => "[" ++ compactItems items ++ "]"
  | .object fields => "\x7b" ++ compactFields fields ++ "\x7d"

/-- The elements of an array, parted by commas. -/
def compactItems : List Item → String
  | [] => ""
  | [item] => compact item
  | item :: next :: rest => compact item ++ "," ++ compactItems (next :: rest)

/-- The fields of an object, parted by commas. -/
def compactFields : List (String × Item) → String
  | [] => ""
  | [(name, value)] => quoted name ++ ":" ++ compact value
  | (name, value) :: next :: rest =>
    quoted name ++ ":" ++ compact value ++ "," ++ compactFields (next :: rest)

end

/-- A new line with the blanks of a level. -/
def newLine (level : Nat) : String :=
  String.ofList ('\n' :: List.replicate (2 * level) ' ')

mutual

/-- The text on several lines, starting at the given level. -/
def indented (level : Nat) : Item → String
  | .null => "null"
  | .bool true => "true"
  | .bool false => "false"
  | .number n => n.text
  | .string s => quoted s
  | .array [] => "[]"
  | .array (item :: rest) =>
    "[" ++ indentedItems (level + 1) (item :: rest) ++ newLine level ++ "]"
  | .object [] => "\x7b\x7d"
  | .object (field :: rest) =>
    "\x7b" ++ indentedFields (level + 1) (field :: rest) ++ newLine level ++ "\x7d"

/-- The elements of an array, each on a line of its own. -/
def indentedItems (level : Nat) : List Item → String
  | [] => ""
  | [item] => newLine level ++ indented level item
  | item :: next :: rest =>
    newLine level ++ indented level item ++ "," ++ indentedItems level (next :: rest)

/-- The fields of an object, each on a line of its own. -/
def indentedFields (level : Nat) : List (String × Item) → String
  | [] => ""
  | [(name, value)] => newLine level ++ quoted name ++ ": " ++ indented level value
  | (name, value) :: next :: rest =>
    newLine level ++ quoted name ++ ": " ++ indented level value ++ "," ++
      indentedFields level (next :: rest)

end

/-- The text on several lines. -/
def pretty (item : Item) : String :=
  indented 0 item

end BatchFlow.Item
