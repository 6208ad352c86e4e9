import BatchFlow.Shape
import BatchFlow.Toml.Document

/-! TOML documents as a format to read records from. -/

namespace BatchFlow.Toml.Value

/-- The key under which a date or time shows where a table is expected. -/
def datetimeKey : String := "$__toml_private_datetime"

/-- The text of a string. -/
def text? : Value → Option String
  | .string text => some text
  | _ => none

/-- A truth value. -/
def flag? : Value → Option Bool
  | .bool value => some value
  | _ => none

/-- A count, of which a document can write those below half of all 64-bit counts. -/
def word? : Value → Option Nat
  | .integer value => if 0 ≤ value then some value.toNat else none
  | _ => none

/-- The elements of an array or of a list of tables. -/
def list? : Value → Option (List Value)
  | .array elements => some elements
  | .tables elements => some (elements.map (.table .header))
  | _ => none

/-- The entries of a table. -/
def entries? : Value → Option Entries
  | .table _ entries => some entries
  | .datetime text => some [(datetimeKey, .string text)]
  | _ => none

/-- A record: a table, or an array of its fields. -/
def shape? (value : Value) : Option (Shape Value) :=
  match value.entries?, value.list? with
  | some entries, _ => some (.named entries)
  | none, some elements => some (.positional elements)
  | none, none => none

/-- A value that says nothing. -/
def isEmpty : Value → Bool
  | .array [] | .table _ [] => true
  | _ => false

/-- The name of an alternative: a string, or the first key of a table with nothing below it. An
inline table may have no other key. -/
def choice? : Value → Option String
  | .string name => some name
  | .table origin ((name, value) :: rest) =>
    if value.isEmpty && (rest.isEmpty || !origin.isInline) then some name else none
  | _ => none

mutual

/-- The item that a value stands for. -/
def item : Value → Item
  | .string text => .string text
  | .integer value => .int value
  | .float (some value) => .number (.real value)
  | .float none => .null
  | .bool value => .bool value
  | .datetime text => .object [(datetimeKey, .string text)]
  | .array elements => .array (items elements)
  | .table _ entries => .record (fields entries)
  | .tables elements => .array (records elements)

/-- The items of several values. -/
def items : List Value → List Item
  | [] => []
  | value :: rest => item value :: items rest

/-- The fields of a table. -/
def fields : List (String × Value) → List (String × Item)
  | [] => []
  | (key, value) :: rest => (key, item value) :: fields rest

/-- The items of several tables. -/
def records : List (List (String × Value)) → List Item
  | [] => []
  | entries :: rest => .record (fields entries) :: records rest

end

/-- Values as a format. Nothing is null, and fields beyond the declared ones are passed over. -/
def format : Format Value where
  text? := text?
  flag? := flag?
  word? := word?
  present? value := some (some value)
  list? := list?
  entries? := entries?
  shape? := shape?
  choice? := choice?
  item? value := some value.item
  allowsExtra := true

end BatchFlow.Toml.Value
