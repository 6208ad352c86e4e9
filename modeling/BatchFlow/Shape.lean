import BatchFlow.Item

/-! Reading typed records out of documents, whatever format the documents are written in. -/

namespace BatchFlow

/-- The parts of a record: under their names, or in the order in which they are declared. -/
inductive Shape (δ : Type) where
  | named (fields : List (String × δ))
  | positional (values : List δ)

/-- How the values of one format look to a reader that knows what it wants. -/
structure Format (δ : Type) where
  /-- A string. -/
  text? : δ → Option String
  /-- A truth value. -/
  flag? : δ → Option Bool
  /-- A 64-bit count. -/
  word? : δ → Option Nat
  /-- The value of an optional field, which may also stand for its absence. -/
  present? : δ → Option (Option δ)
  /-- A list of values. -/
  list? : δ → Option (List δ)
  /-- A mapping, its keys read as strings, in the order in which they are written. -/
  entries? : δ → Option (List (String × δ))
  /-- A record. -/
  shape? : δ → Option (Shape δ)
  /-- The name of one of several alternatives. -/
  choice? : δ → Option String
  /-- A value of any sort. -/
  item? : δ → Option Item
  /-- Whether a record in declared order may have more values than the type has fields. -/
  allowsExtra : Bool

namespace Shape

variable {δ α : Type}

/-- No declared field is given twice, and values in order are not too many. -/
def fits (format : Format δ) (names : List String) : Shape δ → Bool
  | .named fields => names.all fun name => (fields.filter (·.1 == name)).length ≤ 1
  | .positional values => format.allowsExtra || values.length ≤ names.length

/-- The value given for the field that is declared at a position under a name. -/
def find? (shape : Shape δ) (position : Nat) (name : String) : Option δ :=
  match shape with
  | .named fields => (fields.find? (·.1 == name)).map (·.2)
  | .positional values => values[position]?

/-- A field that must be given. -/
def required (shape : Shape δ) (position : Nat) (name : String) (read : δ → Option α) : Option α :=
  (shape.find? position name).bind read

/-- A field that may be missing, in which case it has the default value. -/
def defaulted (shape : Shape δ) (position : Nat) (name : String) (default : α)
    (read : δ → Option α) : Option α :=
  match shape.find? position name with
  | some value => read value
  | none => some default

/-- A field that may be missing or empty; in declared order its place must still be taken. -/
def possible (format : Format δ) (shape : Shape δ) (position : Nat) (name : String)
    (read : δ → Option α) : Option (Option α) :=
  match shape.find? position name with
  | some value =>
    match format.present? value with
    | some (some value) => (read value).map some
    | some none => some none
    | none => none
  | none =>
    match shape with
    | .named _ => some none
    | .positional _ => none

end Shape

namespace Format

variable {δ α : Type}

/-- A record with the declared fields. -/
def record? (format : Format δ) (names : List String) (read : Shape δ → Option α) (value : δ) :
    Option α := do
  let shape ← format.shape? value
  if shape.fits format names then read shape else none

/-- A list whose elements are read one after the other. -/
def listOf? (format : Format δ) (read : δ → Option α) (value : δ) : Option (List α) := do
  (← format.list? value).mapM read

/-- A mapping whose values are read one after the other. -/
def mapOf? (format : Format δ) (read : δ → Option α) (value : δ) :
    Option (List (String × α)) := do
  (← format.entries? value).mapM fun entry => (read entry.2).map (entry.1, ·)

/-- A mapping of options, in the order of their names; of two under one name the later counts. -/
def options? (format : Format δ) (value : δ) : Option Fields :=
  (format.mapOf? format.item? value).map Fields.ofList

end Format

namespace Item

/-- The name of an alternative: a string, or an object with nothing but null under the name. -/
def choice? : Item → Option String
  | .string name => some name
  | .object [(name, .null)] => some name
  | _ => none

/-- Items as documents: a record may also be an array of its fields. -/
def format : Format Item where
  text? := string?
  flag? := bool?
  word? := word?
  present? item := match item with
    | .null => some none
    | item => some (some item)
  list? := array?
  entries? := object?
  shape? item := match item with
    | .object fields => some (.named fields)
    | .array values => some (.positional values)
    | _ => none
  choice? := choice?
  item? := some
  allowsExtra := false

end Item

end BatchFlow
