import BatchFlow.Condition
import BatchFlow.Shape

/-! Failed items: an item with the condition, the node and the worker of its failure. -/

namespace BatchFlow

namespace Condition

variable {δ : Type}

/-- Reads a condition; one that does not say whether it is fatal is not. -/
def read? (format : Format δ) : δ → Option Condition :=
  format.record? ["kind", "message", "fatal"] fun shape => do
    let kind ← shape.required 0 "kind" format.text?
    let message ← shape.required 1 "message" format.text?
    let fatal ← shape.defaulted 2 "fatal" false format.flag?
    return ⟨⟨kind⟩, message, fatal⟩

end Condition

/-- An item that failed, with why, where and on which worker. Error routes deliver these. -/
structure FailedItem where
  data : Item
  cause : Condition
  origin : String
  worker : String

namespace FailedItem

/-- The text of a failure. -/
def text (failed : FailedItem) : String :=
  failed.cause.text ++ " (node '" ++ failed.origin ++ "', worker '" ++ failed.worker ++ "')"

/-- The item that an error route delivers. -/
def toItem (failed : FailedItem) : Item :=
  .record [("data", failed.data), ("error", failed.cause.toItem),
    ("origin", .string failed.origin), ("worker", .string failed.worker)]

/-- Recovers a failure from the item that an error route delivered. -/
def ofItem? : Item → Option FailedItem :=
  Item.format.record? ["data", "error", "origin", "worker"] fun shape => do
    let data ← shape.required 0 "data" some
    let cause ← shape.required 1 "error" (Condition.read? Item.format)
    let origin ← shape.required 2 "origin" Item.format.text?
    let worker ← shape.required 3 "worker" Item.format.text?
    return ⟨data, cause, origin, worker⟩

end FailedItem

end BatchFlow
