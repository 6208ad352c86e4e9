import BatchFlow.FailedItem
import BatchFlow.Text.Inspect

/-! Messages: ordered batches of items, with what is needed to route them. -/

namespace BatchFlow

/-- Something whose work is committed or rolled back together with the traversal that used it.
Resources of one name are told apart by their keys. -/
structure Resource where
  key : Nat
  name : String
deriving DecidableEq

/-- A batch of items on its way. The metadata is a map that all messages of one traversal share;
a message holds its number. -/
structure Message where
  sender : String
  data : List Item
  /-- The position that the producer reported with the batch, if any. -/
  context : Option Item
  worker : String
  /-- The number of the transaction that the message is routed in. -/
  transaction : Option Nat
  /-- The resource of the producer that yielded the batch. -/
  origin : Option Resource
  metadata : Nat

namespace Message

/-- A message from a sender in the same unit of work. The origin resource is not passed on. -/
def derive (message : Message) (sender : String) (data : List Item) : Message :=
  { message with sender, data, origin := none }

/-- A message from the same sender with a single item. -/
def single (message : Message) (item : Item) : Message :=
  message.derive message.sender [item]

/-- The diagnostic text of a message. -/
def inspect (message : Message) : String :=
  Text.inspectRecord "Message" [
    ("sender", Text.inspect message.sender),
    ("data", "[" ++ Item.inspectItems message.data ++ "]"),
    ("sender_context", Text.inspectOption (message.context.map Item.inspect)),
    ("worker", Text.inspect message.worker),
    ("transaction", Text.inspectOption (message.transaction.map toString)),
    ("origin_resource", Text.inspectOption (message.origin.map fun r => Text.inspect r.name))]

end Message

end BatchFlow
