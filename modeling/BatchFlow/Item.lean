import BatchFlow.Decimal.Shortest

/-! Payload items: the values that messages carry, that options hold and that contexts record. -/

namespace BatchFlow

/-- A number is an integer or a binary fraction; `1` and `1.0` are different numbers. -/
inductive Number where
  | integer (value : Int)
  | real (value : Binary64)
deriving DecidableEq

/-- A single payload value. The fields of an object are kept in the order of their names. -/
inductive Item where
  | null
  | bool (value : Bool)
  | number (value : Number)
  | string (value : String)
  | array (items : List Item)
  | object (fields : List (String × Item))

instance : Inhabited Item := ⟨.null⟩

/-- The named values of an object, of options or of metadata. -/
abbrev Fields := List (String × Item)

namespace Fields

/-- The value under a name. -/
def get? (fields : Fields) (name : String) : Option Item :=
  match fields with
  | [] => none
  | (key, value) :: rest => if key = name then some value else get? rest name

/-- Sets a value in its place by name, replacing the one already there. -/
def insert (fields : Fields) (name : String) (value : Item) : Fields :=
  match fields with
  | [] => [(name, value)]
  | (key, old) :: rest =>
    if key = name then (name, value) :: rest
    else if name < key then (name, value) :: (key, old) :: rest
    else (key, old) :: insert rest name value

/-- The fields of a list of pairs; of two values under one name the later counts. -/
def ofList (pairs : List (String × Item)) : Fields :=
  pairs.foldl (fun fields pair => fields.insert pair.1 pair.2) []

/-- Sets every value of `more`, one after the other. -/
def merge (fields more : Fields) : Fields :=
  more.foldl (fun fields pair => fields.insert pair.1 pair.2) fields

/-- Setting a value changes what is under its own name and nothing else. -/
@[simp] theorem get?_insert (fields : Fields) (name other : String) (value : Item) :
    (fields.insert name value).get? other =
      if name = other then some value else fields.get? other := by
  induction fields with
  | nil => simp [insert, get?]
  | cons field rest ih =>
    obtain ⟨key, old⟩ := field
    by_cases same : key = name
    · -- The value replaces one that nobody else could have found.
      subst same
      simp only [insert, get?, if_pos]
      split <;> rfl
    · simp only [insert, if_neg same]
      split
      · simp only [get?]
      · -- The value belongs further back, behind a field of another name.
        simp only [get?, ih]
        by_cases found : key = other
        · have apart : name ≠ other := fun equal => same (found.trans equal.symm)
          simp [found, apart]
        · simp [found]

end Fields

namespace Number

/-- Numerical equality within one of the two sorts of number. -/
def agrees : Number → Number → Bool
  | .integer a, .integer b => a == b
  | .real a, .real b => a.agrees b
  | _, _ => false

/-- The text of a number. -/
def text : Number → String
  | .integer value => toString value
  | .real value => value.text

end Number

namespace Item

/-- An integer item. -/
def int (value : Int) : Item := .number (.integer value)

/-- A count as an item. -/
def nat (value : Nat) : Item := .number (.integer value)

/-- An object with the given fields, put in order. -/
def record (pairs : List (String × Item)) : Item := .object (Fields.ofList pairs)

/-- A list of strings as an item. -/
def strings (values : List String) : Item := .array (values.map .string)

/-- An item, or null in its absence. -/
def optional : Option Item → Item
  | some value => value
  | none => .null

mutual

/-- Equality of items, numbers being compared by value. -/
def agrees : Item → Item → Bool
  | .null, .null => true
  | .bool a, .bool b => a == b
  | .number a, .number b => a.agrees b
  | .string a, .string b => a == b
  | .array a, .array b => agreesAll a b
  | .object a, .object b => agreesFields a b
  | _, _ => false

/-- Equality of two lists of items. -/
def agreesAll : List Item → List Item → Bool
  | [], [] => true
  | a :: as, b :: bs => agrees a b && agreesAll as bs
  | _, _ => false

/-- Equality of two lists of fields. -/
def agreesFields : List (String × Item) → List (String × Item) → Bool
  | [], [] => true
  | (k, a) :: as, (l, b) :: bs => k == l && agrees a b && agreesFields as bs
  | _, _ => false

end

/-- The text of a string item. -/
def string? : Item → Option String
  | .string value => some value
  | _ => none

/-- The value of a boolean item. -/
def bool? : Item → Option Bool
  | .bool value => some value
  | _ => none

/-- The elements of an array item. -/
def array? : Item → Option (List Item)
  | .array items => some items
  | _ => none

/-- The fields of an object item. -/
def object? : Item → Option Fields
  | .object fields => some fields
  | _ => none

/-- The value of an integer item. -/
def int? : Item → Option Int
  | .number (.integer value) => some value
  | _ => none

/-- The value of an integer item from zero to the largest 64-bit count. -/
def word? : Item → Option Nat
  | .number (.integer value) => if 0 ≤ value ∧ value < twoTo 64 then some value.toNat else none
  | _ => none

/-- A field of an object item. -/
def field? (item : Item) (name : String) : Option Item :=
  item.object?.bind (Fields.get? · name)

end Item

end BatchFlow
