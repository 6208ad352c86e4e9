import BatchFlow.FailedItem
import BatchFlow.Failure

/-! What a finished traversal leaves behind, and how a worker ended. -/

namespace BatchFlow

/-- Items that stopped at a leaf, and the node they stopped at. -/
structure TerminalBatch where
  node : String
  items : List Item

/-- A terminal batch as an item. -/
def TerminalBatch.toItem (batch : TerminalBatch) : Item :=
  .record [("node_id", .string batch.node), ("items", .array batch.items)]

/-- Everything that a successful traversal left behind. -/
structure Terminal where
  transaction : Nat
  outputs : List TerminalBatch
  discards : List TerminalBatch
  /-- Unrouted errors of best-effort nodes. -/
  unhandled : List FailedItem
  committed : Bool

namespace Terminal

/-- The items that stopped at output leaves, in the order in which they arrived. -/
def outputItems (results : Terminal) : List Item :=
  results.outputs.flatMap (·.items)

/-- The items that stopped at the output leaf of one node. -/
def outputsOf (results : Terminal) (node : String) : List Item :=
  (results.outputs.filter (·.node == node)).flatMap (·.items)

/-- The items that stopped at discard leaves. -/
def discardedItems (results : Terminal) : List Item :=
  results.discards.flatMap (·.items)

/-- The name of the outcome of the transaction. -/
def outcome (results : Terminal) : String :=
  if results.committed then "Committed" else "RolledBack"

/-- What a traversal left behind, as the fields of an item. -/
def fields (results : Terminal) : Fields :=
  .ofList [("transaction_id", .nat results.transaction),
    ("outputs", .array (results.outputs.map (·.toItem))),
    ("discards", .array (results.discards.map (·.toItem))),
    ("unhandled_errors", .array (results.unhandled.map (·.toItem))),
    ("outcome", .string results.outcome), ("committed", .bool results.committed)]

end Terminal

/-- How a worker ended: cleanly, or with a failure. -/
structure WorkerExit where
  producer : String
  failure : Option WorkerFailure
deriving DecidableEq

namespace WorkerExit

/-- The exit code of a worker. -/
def code (exit : WorkerExit) : Int32 :=
  match exit.failure with
  | none => 0
  | some _ => 1

end WorkerExit

/-- An exit code as an item. -/
instance : Coe Int32 Item := ⟨fun code => .int code.toInt⟩

end BatchFlow
