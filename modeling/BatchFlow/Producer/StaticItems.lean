import BatchFlow.Item

/-! The producer that yields a fixed list of items in batches, and then reports exhaustion. -/

namespace BatchFlow

/-- A list of items and the position of the next one, which is a 64-bit count. -/
structure StaticItems where
  items : List Item
  batchSize : UInt64
  cursor : UInt64

namespace StaticItems

/-- A producer at the start of its list. -/
def ofItems (items : List Item) (batchSize : UInt64) : StaticItems := ⟨items, batchSize, 0⟩

/-- The name of the implementation. -/
def name : String := "static_items"

/-- The number of items that are left. -/
def remaining (producer : StaticItems) : Nat :=
  producer.items.length - producer.cursor.toNat

/-- Nothing is left. -/
def isExhausted (producer : StaticItems) : Bool :=
  producer.remaining == 0

/-- The number of items that a poll takes at most. -/
def stride (producer : StaticItems) : UInt64 := max producer.batchSize 1

/-- The producer after a poll, and the batch it yields: none at the end of the list. The end of a
batch must be a 64-bit count, and a poll that would go beyond that panics. -/
def poll (producer : StaticItems) : StaticItems × Option (Option (List Item)) :=
  let start := min producer.cursor.toNat producer.items.length
  let next := { producer with cursor := producer.cursor + producer.stride }
  if twoTo 64 ≤ start + producer.stride.toNat then (next, none)
  else
    match (producer.items.drop start).take producer.stride.toNat with
    | [] => (next, some none)
    | batch => (next, some (some batch))

/-- The index of the next item. -/
def context (producer : StaticItems) : Item :=
  .nat (min producer.cursor.toNat producer.items.length)

/-- Goes on from an index; anything else is ignored. -/
def setContext (producer : StaticItems) (context : Item) : StaticItems :=
  match context.word? with
  | some index => { producer with cursor := .ofNat index }
  | none => producer

/-- What is wrong with the options. -/
def problems (producer : StaticItems) : List String :=
  if producer.batchSize = 0 then ["batch_size must be at least 1"] else []

end StaticItems

end BatchFlow
