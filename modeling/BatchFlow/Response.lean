import BatchFlow.FailedItem

/-! Responses: what a node makes of a message, classified into output, discards and errors. -/

namespace BatchFlow

/-- Items that a node chose not to process further, for one reason. -/
structure DiscardBatch where
  items : List Item
  reason : String

/-- A discard batch as an item. -/
def DiscardBatch.toItem (batch : DiscardBatch) : Item :=
  .record [("items", .array batch.items), ("reason", .string batch.reason)]

/-- Items that failed in a node with conditions of one kind. -/
structure ErrorBatch where
  kind : Kind
  errors : List FailedItem

namespace ErrorBatch

/-- Items that all failed for the same cause in one node. -/
def ofItems (items : List Item) (cause : Condition) (origin worker : String) : ErrorBatch :=
  ⟨cause.kind, items.map fun data => ⟨data, cause, origin, worker⟩⟩

/-- The failed items, in item order. -/
def items (batch : ErrorBatch) : List Item :=
  batch.errors.map (·.data)

/-- The message of the first condition, empty for an empty batch. -/
def firstMessage (batch : ErrorBatch) : String :=
  match batch.errors with
  | [] => ""
  | first :: _ => first.cause.message

/-- An error batch as an item, with what can be asked of it. -/
def toItem (batch : ErrorBatch) : Item :=
  .record [("kind", .string batch.kind.name), ("len", .nat batch.errors.length),
    ("is_empty", .bool batch.errors.isEmpty), ("first_message", .string batch.firstMessage),
    ("errors", .array (batch.errors.map (·.toItem)))]

end ErrorBatch

/-- The classified result of applying one node to one message. -/
structure Response where
  output : List Item
  discards : List DiscardBatch
  errors : List ErrorBatch

namespace Response

/-- The response that says nothing. -/
def empty : Response := ⟨[], [], []⟩

/-- Appends a discard batch, joining it to the last one if the reasons are the same. -/
def joinDiscard : List DiscardBatch → DiscardBatch → List DiscardBatch
  | [], batch => [batch]
  | [last], batch =>
    if last.reason = batch.reason then [⟨last.items ++ batch.items, last.reason⟩]
    else [last, batch]
  | first :: next :: rest, batch => first :: joinDiscard (next :: rest) batch

/-- Appends an error batch, joining it to the last one if the kinds are the same. -/
def joinError : List ErrorBatch → ErrorBatch → List ErrorBatch
  | [], batch => [batch]
  | [last], batch =>
    if last.kind = batch.kind then [⟨last.kind, last.errors ++ batch.errors⟩]
    else [last, batch]
  | first :: next :: rest, batch => first :: joinError (next :: rest) batch

/-- Adds outputs after those already there. -/
def addOutput (response : Response) (items : List Item) : Response :=
  { response with output := response.output ++ items }

/-- Adds items discarded for a reason. -/
def addDiscard (response : Response) (items : List Item) (reason : String) : Response :=
  { response with discards := joinDiscard response.discards ⟨items, reason⟩ }

/-- Adds failed items of one kind. -/
def addError (response : Response) (batch : ErrorBatch) : Response :=
  { response with errors := joinError response.errors batch }

/-- Appends another response, batches at the seam being joined as if they had been added here. -/
def merge (response other : Response) : Response :=
  { output := response.output ++ other.output
    discards := other.discards.foldl joinDiscard response.discards
    errors := other.errors.foldl joinError response.errors }

/-- Whether there is no output and no batch, be it an empty one. -/
def isEmpty (response : Response) : Bool :=
  response.output.isEmpty && response.discards.isEmpty && response.errors.isEmpty

/-- A response as an item, with whether it is empty. -/
def toItem (response : Response) : Item :=
  .record [("output", .array response.output),
    ("discards", .array (response.discards.map (·.toItem))),
    ("errors", .array (response.errors.map (·.toItem))), ("is_empty", .bool response.isEmpty)]

/-- The number of discarded items. -/
def discardCount (response : Response) : Nat :=
  (response.discards.flatMap (·.items)).length

/-- The number of failed items. -/
def errorCount (response : Response) : Nat :=
  (response.errors.flatMap (·.errors)).length

end Response

end BatchFlow
