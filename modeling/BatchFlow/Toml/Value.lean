import BatchFlow.Decimal.Binary64

/-! Values of TOML documents, and how tables grow while a document is read. -/

namespace BatchFlow.Toml

/-- How a table came to be, which decides who may add to it. -/
inductive Origin where
  /-- By a header of its own. -/
  | header
  /-- By the header of a table below it. -/
  | implied
  /-- By the first part of a dotted key. -/
  | dotted
  /-- Between braces, or by a dotted key between them. -/
  | inline (dotted : Bool)
deriving DecidableEq

/-- A value. Lists of tables made by headers are kept apart from arrays, which are complete. -/
inductive Value where
  | string (text : String)
  | integer (value : Int)
  /-- An infinity or what is not a number has no finite value. -/
  | float (value : Option Binary64)
  | bool (value : Bool)
  | datetime (text : String)
  | array (elements : List Value)
  | table (origin : Origin) (entries : List (String × Value))
  | tables (elements : List (List (String × Value)))

/-- The entries of a table, every key once. -/
abbrev Entries := List (String × Value)

namespace Origin

/-- Whether a dotted key may lead into such a table. -/
def isOpen : Origin → Bool
  | implied | dotted | inline true => true
  | header | inline false => false

/-- Whether such a table was made by dotted keys, so that they may add to it. -/
def isDotted : Origin → Bool
  | dotted | inline true => true
  | header | implied | inline false => false

/-- Whether such a table is complete with its closing brace. -/
def isInline : Origin → Bool
  | inline _ => true
  | header | implied | dotted => false

end Origin

namespace Entries

/-- The value of a key. -/
def get? (entries : Entries) (key : String) : Option Value :=
  (entries.find? (·.1 == key)).map (·.2)

/-- Sets the value of a key in its place, or at the end. -/
def put (entries : Entries) (key : String) (value : Value) : Entries :=
  match entries with
  | [] => [(key, value)]
  | (name, old) :: rest =>
    if name = key then (key, value) :: rest else (name, old) :: put rest key value

/-- Adds a value under a dotted key, making tables of the given origin on the way. The table that
takes the value has to be one that dotted keys made. -/
def insertDotted? (fresh : Origin) : List String → String → Value → Entries → Option Entries
  | [], key, value, entries =>
    if (get? entries key).isSome then none else some (put entries key value)
  | part :: path, key, value, entries =>
    match get? entries part with
    | none => do
      return put entries part (.table fresh (← insertDotted? fresh path key value []))
    | some (.table origin inner) =>
      if !origin.isOpen || (path.isEmpty && !origin.isDotted) then none
      else do
        return put entries part (.table origin (← insertDotted? fresh path key value inner))
    | some _ => none

/-- Changes what stands under the key of a header. The tables above it are implied by it; of a list
of tables the last one is meant. -/
def changeAt? (change : Option Value → Option Value) :
    List String → String → Entries → Option Entries
  | [], key, entries => do
    return put entries key (← change (get? entries key))
  | part :: path, key, entries =>
    match get? entries part with
    | none => do
      return put entries part (.table .implied (← changeAt? change path key []))
    | some (.table origin inner) =>
      if origin.isInline then none
      else do
        return put entries part (.table origin (← changeAt? change path key inner))
    | some (.tables elements) =>
      match elements.reverse with
      | last :: before => do
        return put entries part
          (.tables (before.reverse ++ [← changeAt? change path key last]))
      | [] => none
    | some _ => none

end Entries

end BatchFlow.Toml
