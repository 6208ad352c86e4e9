import BatchFlow.Node.Apply
import BatchFlow.Nodes
import BatchFlow.Topology

/-! Routing one top-level message through a topology. The walk is depth first: a node is applied,
what it returns is followed (output, then discards, then errors), and only then comes the next
destination. Everything touched on the way commits or rolls back together. -/

namespace BatchFlow

/-- One application of a node during a traversal. -/
structure Visit where
  /-- The nodes whose batches led here, outermost first and this one last. -/
  trail : List String
  message : Message
  result : Except RouteFailure Response

/-- A traversal under way: its transaction, what stopped at leaves, and the applications so far. -/
structure Traversal where
  transaction : Transaction
  outputs : List TerminalBatch
  discards : List TerminalBatch
  unhandled : List FailedItem
  visits : List Visit

namespace Traversal

/-- A traversal that has not left its starting point. -/
def opened (id : Nat) : Traversal := ⟨.opened id, [], [], [], []⟩

/-- What the traversal leaves behind. -/
def results (traversal : Traversal) (committed : Bool) : Terminal :=
  ⟨traversal.transaction.id, traversal.outputs, traversal.discards, traversal.unhandled, committed⟩

/-- Work on the transaction of the traversal. -/
def onTransaction {α : Type} (work : Work Transaction α) : Work Traversal α :=
  work.onPart (·.transaction) fun transaction traversal => { traversal with transaction }

end Traversal

/-- A topology with the nodes that it names. -/
structure Router where
  topology : Topology
  nodes : Nodes

namespace Router

/-- Work done with the items that reach some destinations. -/
abbrev Descent := Message → List String → Work Traversal Unit

/-- Applies a node once, and keeps account of it whatever comes of it. -/
def visit (trail : List String) (node : Node) (message : Message) : Work Traversal Response :=
  fun traversal => (node.apply message traversal.transaction).bind fun (transaction, result) =>
    -- The visit is noted even if the walk is abandoned for it.
    let visits := traversal.visits ++ [⟨trail, message, result⟩]
    .done ({ traversal with transaction, visits }, result)

/-- Applies a node to each item by itself, and merges the responses. -/
def visitEach (trail : List String) (node : Node) (message : Message) :
    Response → List Item → Work Traversal Response
  | response, [] => return response
  | response, item :: rest => do
    let next ← visit trail node (message.single item)
    visitEach trail node message (response.merge next) rest

/-- Applies a node to a message in the way it accepts: at once or one item at a time. -/
def apply (trail : List String) (node : Node) (message : Message) : Work Traversal Response :=
  -- A single item is passed on as it came, and so keeps its message.
  if node.acceptsBatches || message.data.length ≤ 1 then visit trail node message
  else visitEach trail node message .empty message.data

/-- Items stop at the output leaf of a node. -/
def outputLeaf (node : String) (items : List Item) : Work Traversal Unit := do
  Work.log (.leafReached node "output" items.length)
  Work.modify fun traversal => { traversal with outputs := traversal.outputs ++ [⟨node, items⟩] }

/-- Items stop at the discard leaf of a node. -/
def discardLeaf (node : String) (items : List Item) : Work Traversal Unit := do
  Work.log (.leafReached node "discard" items.length)
  Work.modify fun traversal => { traversal with discards := traversal.discards ++ [⟨node, items⟩] }

/-- An error batch without destinations: it is recorded for a best-effort node, and ends the
traversal for any other. -/
def unrouted (node : Node) (batch : ErrorBatch) : Work Traversal Unit := do
  if node.bestEffort then
    Work.log (.unhandledError node.id batch.kind.name batch.errors.length)
    Work.modify fun traversal => { traversal with unhandled := traversal.unhandled ++ batch.errors }
  else
    Work.log (.unroutedError node.id batch.kind.name batch.errors.length)
    Work.abandon (.unrouted node.id batch.kind batch.firstMessage)

/-- Follows the output of a node, if there is any. -/
def followOutput (router : Router) (descend : Descent) (node : Node) (message : Message)
    (output : List Item) : Work Traversal Unit :=
  if output.isEmpty then return ()
  else
    let destinations := router.topology.outputOf node.id
    if destinations.isEmpty then outputLeaf node.id output
    else descend (message.derive node.id output) destinations

/-- Follows one discard batch of a node. -/
def followDiscard (router : Router) (descend : Descent) (node : Node) (message : Message)
    (batch : DiscardBatch) : Work Traversal Unit :=
  let destinations := router.topology.discardOf node.id
  if destinations.isEmpty then discardLeaf node.id batch.items
  else descend (message.derive node.id batch.items) destinations

/-- Follows one error batch of a node, each failed item being delivered as a value of its own. -/
def followError (router : Router) (descend : Descent) (node : Node) (message : Message)
    (batch : ErrorBatch) : Work Traversal Unit :=
  let destinations := router.topology.errorDestinations node.id batch.kind
  if destinations.isEmpty then unrouted node batch
  else descend (message.derive node.id (batch.errors.map (·.toItem))) destinations

/-- Follows everything that a node returned for a message. -/
def follow (router : Router) (descend : Descent) (node : Node) (message : Message)
    (response : Response) : Work Traversal Unit := do
  router.followOutput descend node message response.output
  Work.forEach response.discards (router.followDiscard descend node message)
  Work.forEach response.errors (router.followError descend node message)

/-- Applies a message to one destination and follows what that returns. -/
def handTo (router : Router) (descend : List String → Descent) (trail : List String)
    (message : Message) (destination : String) : Work Traversal Unit :=
  match router.nodes.get? destination with
  | none => Work.abandon (.unknownDestination destination message.sender)
  | some node => do
    let trail := trail ++ [node.id]
    let response ← apply trail node message
    router.follow (descend trail) node message response

/-- Applies a message to each destination in order and follows what each one returns. At most
`depth` applications are nested in one another. -/
def dispatch (router : Router) : Nat → List String → Descent
  -- The walk would go deeper than it may, so nothing is said of how it ends.
  | 0, _, _, _ => Work.starve
  | depth + 1, trail, message, destinations =>
    Work.forEach destinations (router.handTo (router.dispatch depth) trail message)

/-- The producer's resource takes part in the transaction, if the message brings one. -/
def enlistOrigin (message : Message) : Work Traversal Unit :=
  match message.origin with
  | some resource => Traversal.onTransaction (Work.ofFaulty (·.enlist resource))
  | none => pure ()

/-- The producer's resource has done its work. -/
def delistOrigin (message : Message) : Work Traversal Unit :=
  Traversal.onTransaction (Node.delist message.origin)

/-- Takes a top-level message to where the output of its sender goes. -/
def depart (router : Router) (depth : Nat) (message : Message) : Work Traversal Unit :=
  let destinations := router.topology.outputOf message.sender
  if destinations.isEmpty then outputLeaf message.sender message.data
  else router.dispatch depth [] message destinations

/-- Walks a top-level message through the topology, its origin resource taking part. -/
def traverse (router : Router) (depth : Nat) (message : Message) : Work Traversal Unit := do
  enlistOrigin message
  router.depart depth message
  delistOrigin message

/-- The time since a moment. -/
def elapsedSince (start : Duration) : Plan Duration := do
  let now ← Plan.call .clock
  return ⟨now.nanoseconds - start.nanoseconds⟩

/-- Resolves the transaction of a finished walk. A failed walk is rolled back with the failure as
the cause; any other is committed, and a failed commit shows in the results. -/
def resolve (message : Message) (start : Duration) :
    Traversal × Except RouteFailure Unit → Plan (Traversal × Except RouteFailure Terminal)
  | (traversal, .error failure) => do
    -- Only what had begun is rolled back, for the failure that is returned.
    let transaction ← traversal.transaction.rollback failure.text
    Plan.log (.traversalFailed transaction.id message.sender failure.text)
    return ({ traversal with transaction }, .error failure)
  | (traversal, .ok ()) => do
    let (transaction, outcome) ← traversal.transaction.commit
    -- A transaction that could not commit is no failure of the walk.
    let committed := match outcome with
      | .ok () => true
      | .error _ => false
    Plan.log (.traversalCompleted transaction.id message.sender traversal.outputs.length
      traversal.discards.length traversal.unhandled.length committed (← elapsedSince start))
    return ({ traversal with transaction }, .ok (traversal.results committed))

/-- Routes a top-level message inside its own transaction, and keeps the account of the walk. -/
def walk (router : Router) (depth : Nat) (message : Message) :
    Plan (Traversal × Except RouteFailure Terminal) := do
  let id ← Plan.call .openTransaction
  -- From here on, the nodes may let their resources take part.
  let message := { message with transaction := some id }
  Plan.log (.traversalStarted id message.sender message.data.length)
  let start ← Plan.call .clock
  let walked ← router.traverse depth message (.opened id)
  resolve message start walked

/-- Routes a top-level message: what it leaves behind, or why the traversal was abandoned. -/
def route (router : Router) (depth : Nat) (message : Message) :
    Plan (Except RouteFailure Terminal) := do
  return (← router.walk depth message).2

end Router

end BatchFlow
