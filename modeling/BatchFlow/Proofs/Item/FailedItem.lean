import BatchFlow.FailedItem
import BatchFlow.Proofs.Item.Fields

/-! What an error route delivers says everything about a failure, and the failure can be read back
from it, whatever the item was that failed. It may have been delivered along error routes before,
any number of times. -/

namespace BatchFlow

/-- A field as a record type declares it: the name it goes by, and how its value is written. -/
structure DeclaredField (α : Type) where
  name : String
  write : α → Item

/-- A value is written field by field, in the order of their declaration, into an object that is
empty at first. -/
def writeRecord {α : Type} (declared : List (DeclaredField α)) (value : α) : Item :=
  .object
    (declared.foldl (fun fields field => Fields.insert fields field.name (field.write value)) [])

/-- What is written in this way is the record of the written fields. -/
theorem writeRecord_eq {α : Type} (declared : List (DeclaredField α)) (value : α) :
    writeRecord declared value =
      .record (declared.map fun field => (field.name, field.write value)) := by
  rw [writeRecord, Item.record, Fields.ofList, List.foldl_map]

/-- A kind is written as its name, as if it were nothing but that. -/
def Kind.write (kind : Kind) : Item := .string kind.name

namespace Condition

/-- The fields of a condition. -/
def declared : List (DeclaredField Condition) :=
  [⟨"kind", fun condition => condition.kind.write⟩,
    ⟨"message", fun condition => .string condition.message⟩,
    ⟨"fatal", fun condition => .bool condition.fatal⟩]

/-- A condition is written field by field. -/
theorem toItem_eq_write (condition : Condition) :
    condition.toItem = writeRecord declared condition :=
  (writeRecord_eq declared condition).symm

/-- A condition is read back as it was, fatal or not. -/
theorem read?_toItem (condition : Condition) :
    read? Item.format condition.toItem = some condition := by
  -- The three fields are under three names, so that each is found under its own.
  have distinct : [("kind", Item.string condition.kind.name),
      ("message", .string condition.message), ("fatal", .bool condition.fatal)].Pairwise
        (·.1 ≠ ·.1) := by simp
  rw [read?, toItem, Item.record?_record]
  rw [Item.required_ofList distinct (.head _), Item.required_ofList distinct (.tail _ (.head _)),
    Item.defaulted_ofList distinct (.tail _ (.tail _ (.head _)))]
  rfl

end Condition

namespace FailedItem

/-- The fields of a failed item. The condition goes by another name in writing. -/
def declared : List (DeclaredField FailedItem) :=
  [⟨"data", fun failed => failed.data⟩,
    ⟨"error", fun failed => writeRecord Condition.declared failed.cause⟩,
    ⟨"origin", fun failed => .string failed.origin⟩,
    ⟨"worker", fun failed => .string failed.worker⟩]

/-- So is a failed item, and within it the condition. -/
theorem toItem_eq_write (failed : FailedItem) : failed.toItem = writeRecord declared failed := by
  rw [writeRecord_eq, toItem, failed.cause.toItem_eq_write]
  rfl

/-- A failure is read back from the item that says everything about it. -/
theorem ofItem?_toItem (failed : FailedItem) : ofItem? failed.toItem = some failed := by
  have distinct : [("data", failed.data), ("error", failed.cause.toItem),
      ("origin", .string failed.origin), ("worker", .string failed.worker)].Pairwise
      (·.1 ≠ ·.1) := by simp
  rw [ofItem?, toItem, Item.record?_record]
  -- The item that failed may be anything, and is not looked into.
  rw [Item.required_ofList distinct (.head _), Item.required_ofList distinct (.tail _ (.head _)),
    Item.required_ofList distinct (.tail _ (.tail _ (.head _))),
    Item.required_ofList distinct (.tail _ (.tail _ (.tail _ (.head _)))),
    failed.cause.read?_toItem]
  rfl

/-- Why an item failed, in which node and on which worker. -/
structure Circumstances where
  cause : Condition
  origin : String
  worker : String

/-- An item that has failed again and again, the first of the failures being the latest. -/
def buried (data : Item) : List Circumstances → Item
  | [] => data
  | latest :: earlier =>
    toItem ⟨buried data earlier, latest.cause, latest.origin, latest.worker⟩

/-- Goes back through a number of failures, to the item that was there before them. -/
def unearth? : Nat → Item → Option (List Circumstances × Item)
  | 0, item => some ([], item)
  | count + 1, item => do
    let failed ← ofItem? item
    let (earlier, data) ← unearth? count failed.data
    return (⟨failed.cause, failed.origin, failed.worker⟩ :: earlier, data)

/-- However often an item has failed, it is found again below its failures. -/
theorem unearth?_buried (data : Item) (failures : List Circumstances) :
    unearth? failures.length (buried data failures) = some (failures, data) := by
  induction failures with
  -- No failure, nothing to go back through.
  | nil => rfl
  | cons latest earlier ih =>
    -- The latest failure is read back as it was, and the item that it holds is the one below.
    rw [List.length_cons, unearth?, buried, ofItem?_toItem]
    simp [ih]

/-- A failed item survives its delivery. What is delivered is what its declared fields are written
as, and the failure is read back from it as it was, whatever the item is that failed. So no two
failures are delivered as the same item; and if an item that was delivered fails itself, time and
again, all its failures are found in the end, and the item below them. -/
theorem survives_delivery (failed : FailedItem) :
    failed.toItem = writeRecord declared failed ∧
    ofItem? failed.toItem = some failed ∧
    (∀ other : FailedItem, other.toItem = failed.toItem → other = failed) ∧
    ∀ failures : List Circumstances,
      unearth? failures.length (buried failed.toItem failures) =
        some (failures, failed.toItem) := by
  refine ⟨failed.toItem_eq_write, failed.ofItem?_toItem, fun other same => ?_, unearth?_buried _⟩
  -- Each of the two is read back from what is delivered, and that is the same item.
  have read := other.ofItem?_toItem
  rw [same, failed.ofItem?_toItem] at read
  exact (Option.some.inj read).symm

end FailedItem

end BatchFlow
