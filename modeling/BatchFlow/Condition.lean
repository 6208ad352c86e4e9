import BatchFlow.Item

/-! Error conditions: their kinds, their text, and what a step may answer instead of items. -/

namespace BatchFlow

/-- A named sort of error, by which error routes are chosen. -/
structure Kind where
  name : String
deriving DecidableEq

namespace Kind

/-- The kind above every other. -/
def root : Kind := ⟨"error"⟩

/-- The kind of conditions raised while an item is processed. -/
def processing : Kind := ⟨"processing"⟩

/-- The kind of items of the wrong form. -/
def dataFormat : Kind := ⟨"data_format"⟩

/-- The kind of lost or refused connections. -/
def connection : Kind := ⟨"connection"⟩

/-- Whether a kind is the one above every other. -/
def isRoot (kind : Kind) : Bool := kind == root

end Kind

/-- An error raised by a collaborator. A fatal one ends the traversal, others only the item. -/
structure Condition where
  kind : Kind
  message : String
  fatal : Bool
deriving DecidableEq

namespace Condition

/-- The condition made fatal. -/
def intoFatal (c : Condition) : Condition := { c with fatal := true }

/-- An item could not be processed. -/
def processing (message : String) : Condition := ⟨.processing, message, false⟩

/-- An item has the wrong form. -/
def dataFormat (message : String) : Condition := ⟨.dataFormat, message, false⟩

/-- A connection failed, which is always fatal. -/
def connection (message : String) : Condition := ⟨.connection, message, true⟩

/-- Processing cannot go on. -/
def fatalError (message : String) : Condition := (processing message).intoFatal

/-- The text of a condition. -/
def text (c : Condition) : String :=
  c.kind.name ++ " error: " ++ c.message

/-- A condition as an item. -/
def toItem (c : Condition) : Item :=
  .record [("kind", .string c.kind.name), ("message", .string c.message), ("fatal", .bool c.fatal)]

end Condition

/-- Why a step has no outputs for an item. -/
inductive Rejection where
  /-- The item is deliberately not processed further. -/
  | discarded (reason : String)
  | failed (condition : Condition)
deriving DecidableEq

namespace Rejection

/-- The text of a rejection. -/
def text : Rejection → String
  | .discarded reason => "item discarded: " ++ reason
  | .failed condition => condition.text

end Rejection

/-- The outputs for one item, or why there are none. -/
abbrev StepResult := Except Rejection (List Item)

end BatchFlow
