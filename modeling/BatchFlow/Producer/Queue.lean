import BatchFlow.Handoff.Poller
import BatchFlow.Handoff.Pusher
import BatchFlow.Message

/-! The producer that yields the items pushed into its hand-off queue. Transacted, it holds the
acknowledgements of a batch until the traversal commits or rolls back. -/

namespace BatchFlow

/-- A hand-off queue as a producer, with the acknowledgements of the current traversal. -/
structure QueueProducer where
  queue : Handoff.Queue
  /-- The acknowledgements that the producer's resource holds. -/
  held : List Nat
  batchSize : Nat
  transacted : Bool
  resource : Resource

namespace QueueProducer

/-- A producer over an empty queue. -/
def make (resource : Resource) (capacity batchSize : Nat) (transacted : Bool) :
    QueueProducer :=
  ⟨.ofCapacity capacity, [], max batchSize 1, transacted, resource⟩

/-- The name of the implementation. -/
def name : String := "queue"

/-- Connecting lets the queue accept items again. -/
def connect (producer : QueueProducer) : QueueProducer :=
  { producer with queue := producer.queue.resume }

/-- After the run nobody polls any more, so nothing is accepted or kept. -/
def shutdown (producer : QueueProducer) : QueueProducer :=
  { producer with queue := producer.queue.suspend }

/-- No item will ever come: the queue was closed and has drained. -/
def isExhausted (producer : QueueProducer) : Bool :=
  producer.queue.closed && producer.queue.items.isEmpty

/-- Takes over a batch from the queue. Transacted, its acknowledgements are held; otherwise the
pushers are told at once that their items were taken. -/
def receive (producer : QueueProducer) (batch : List Handoff.Pending) : QueueProducer :=
  let acks := batch.map (·.ack)
  if producer.transacted then { producer with held := producer.held ++ acks }
  else { producer with queue := producer.queue.settleAll (.ok ()) acks }

/-- Answers everybody whose acknowledgement is held. -/
def release (producer : QueueProducer) (answer : Handoff.Answer) : QueueProducer :=
  { producer with queue := producer.queue.settleAll answer producer.held, held := [] }

/-- The traversal committed. -/
def commit (producer : QueueProducer) : QueueProducer := producer.release (.ok ())

/-- The traversal rolled back for a cause. -/
def rollback (producer : QueueProducer) (cause : String) : QueueProducer :=
  producer.release (.error (.rolledBack cause))

/-- The resource to enlist for a batch. -/
def resource? (producer : QueueProducer) : Option Resource :=
  if producer.transacted then some producer.resource else none

end QueueProducer

end BatchFlow
