import BatchFlow.Item.Json
import BatchFlow.Script

/-! Enrichment: a key is taken from an item, records are read by it, and merged into the item. -/

namespace BatchFlow

/-- Looks up the key field of an object and stores what was read in the target field. -/
structure FieldMerge where
  keyField : String
  targetField : String
deriving DecidableEq

namespace FieldMerge

/-- The name of the implementation. -/
def name : String := "field_merge"

/-- The value of the key field, if the item is an object that has it. -/
def parametersFor (merge : FieldMerge) (item : Item) : Option Item :=
  item.field? merge.keyField

/-- One record as it is, several as a list, none as null. -/
def merged : List Item → Item
  | [] => .null
  | [record] => record
  | records => .array records

/-- The item with the records in its target field. -/
def resultFor (merge : FieldMerge) (item : Item) (records : List Item) : StepResult :=
  match item with
  | .object fields => .ok [.object (Fields.insert fields merge.targetField (merged records))]
  | _ => .error (.failed (.dataFormat "field_merge only accepts object items"))

/-- What is wrong with the options. -/
def problems (merge : FieldMerge) : List String :=
  (if merge.keyField.isEmpty then ["key_field is empty"] else []) ++
    if merge.targetField.isEmpty then ["target_field is empty"] else []

end FieldMerge

/-- Records under their keys. -/
structure LookupTable where
  entries : List (String × List Item)

namespace LookupTable

/-- The name of the implementation. -/
def name : String := "lookup_table"

/-- The records that a value of an object stands for: a list holds several. -/
def recordsOf : Item → List Item
  | .array records => records
  | record => [record]

/-- The table of an object. -/
def ofObject (fields : Fields) : LookupTable :=
  ⟨fields.map fun field => (field.1, recordsOf field.2)⟩

/-- A string is a key as it is, any other value by its JSON text. -/
def keyOf : Item → String
  | .string key => key
  | other => other.compact

/-- The records under a key; without a key nothing is read. -/
def read (table : LookupTable) (parameters : Option Item) : List Item :=
  match parameters with
  | none => []
  | some parameter =>
    match table.entries.find? (·.1 == keyOf parameter) with
    | some (_, records) => records
    | none => []

/-- What is wrong with the options. -/
def problems (table : LookupTable) : List String :=
  if table.entries.isEmpty then ["lookup table is empty"] else []

end LookupTable

/-- What turns an item into parameters, and merges records into it. -/
inductive Enricher where
  | fieldMerge (merge : FieldMerge)
  | scripted (parameters : Option Item) (outcome : Outcome)

namespace Enricher

/-- The name of an enricher. -/
def name : Enricher → String
  | fieldMerge _ => FieldMerge.name
  | scripted .. => "script_enricher"

/-- The parameters to read records by. -/
def parametersFor : Enricher → Item → Option Item
  | fieldMerge merge, item => merge.parametersFor item
  | scripted parameters _, _ => parameters

/-- The result of merging records into an item. -/
def resultFor : Enricher → Item → List Item → StepResult
  | fieldMerge merge, item, records => merge.resultFor item records
  | scripted _ outcome, item, records =>
    outcome.resultFor (.record [("data", .array records), ("item", item)])

/-- What is wrong with the options of an enricher. -/
def problems : Enricher → List String
  | fieldMerge merge => merge.problems
  | scripted .. => []

end Enricher

/-- Where records are read. -/
inductive Reader where
  | table (content : LookupTable)
  | scripted (script : ReaderScript)

namespace Reader

/-- The name of a reader. -/
def name : Reader → String
  | .table _ => LookupTable.name
  | .scripted script => if script.link.isSome then "faulty_reader" else "script_reader"

/-- What is wrong with the options of a reader. -/
def problems : Reader → List String
  | .table content => content.problems
  | .scripted script => script.problems

end Reader

end BatchFlow
