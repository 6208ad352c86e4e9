import BatchFlow.Node
import BatchFlow.Response
import BatchFlow.Transaction
import BatchFlow.Work

/-! Applying a node to a message, and classifying what becomes of each item. -/

namespace BatchFlow.Node

/-- Files the result for one item under output, discard or error. A fatal condition abandons the
work, and with it the items that follow. -/
def classify {σ : Type} (node : Node) (message : Message) (response : Response) (item : Item)
    (result : StepResult) : Work σ Response :=
  match result with
  | .ok outputs => return response.addOutput outputs
  | .error (.discarded reason) => do
    Work.log (.itemDiscarded node.id reason)
    return response.addDiscard [item] reason
  | .error (.failed cause) =>
    -- Even a best-effort node does not survive a fatal condition.
    if cause.fatal then Work.abandon (.fatal node.id cause)
    else do
      Work.log (.itemFailed node.id cause.kind.name cause.text)
      return response.addError (.ofItems [item] cause node.id message.worker)

/-- Applies some work to each item in turn and classifies the results. -/
def applyEach {σ : Type} (node : Node) (message : Message) (work : Item → Work σ StepResult) :
    Response → List Item → Work σ Response
  | response, [] => return response
  | response, item :: rest => do
    let result ← work item
    -- Each result is filed before the next item is worked on.
    let response ← node.classify message response item result
    applyEach node message work response rest

/-- Reports a read for which the item gave no parameters. -/
def reportMissing {σ : Type} (node : Node) (parameters : Option Item) : Work σ Unit :=
  if parameters.isNone then Work.log (.readWithoutParameters node.id) else pure ()

/-- Reads records for an item in limited time, and merges them in. -/
def enrich {σ : Type} (node : Node) (reader : String) (timeout : Duration) (item : Item) :
    Work σ StepResult := do
  let parameters ← Work.call (.parametersFor node.id item)
  -- A reader may well do without parameters, so this is only worth a report.
  node.reportMissing parameters
  match ← Work.call (.readRecords node.id parameters timeout) with
  | .failed cause => return .error (.failed cause)
  | .timedOut =>
    return .error (.failed (.processing s!"{reader} read timed out after {timeout.text}"))
  | .records records =>
    Work.log (.enrichmentRead node.id reader records.length)
    Work.call (.enrichItem node.id item records)

/-- Delivers the whole message. A failure that is not fatal fails every item of it. -/
def deliver {σ : Type} (node : Node) (message : Message) : Work σ Response := do
  match ← Work.call (.deliver node.id message.data) with
  | .ok (some reply) => return Response.empty.addOutput [reply]
  | .ok none => return Response.empty
  | .error cause =>
    if cause.fatal then Work.abandon (.fatal node.id cause)
    else do
      Work.log (.itemFailed node.id cause.kind.name cause.text)
      return Response.empty.addError (.ofItems message.data cause node.id message.worker)

/-- What the node's role makes of a message. -/
def perform {σ : Type} (node : Node) (message : Message) : Work σ Response := do
  match node.role with
  | .step =>
    -- What a step remembers of earlier batches is reset once for each message.
    Work.call (.resetStep node.id message.context)
    node.applyEach message (fun item => Work.call (.applyStep node.id item)) .empty message.data
  | .sink => node.deliver message
  | .enrich reader timeout =>
    node.applyEach message (node.enrich reader timeout) .empty message.data

/-- Tells the collaborator the metadata of a message, if it wants to know. -/
def shareMetadata {σ : Type} (node : Node) (message : Message) : Work σ Unit :=
  if node.metadataAware then Work.call (.shareMetadata node.id message.metadata) else pure ()

/-- The resource that the collaborator offers, if it may take part in transactions. -/
def offered {σ : Type} (node : Node) : Work σ (Option Resource) :=
  if node.transactional then Work.call (.nodeResource node.id) else pure none

/-- The resource that the node uses for a message: one that takes part in its transaction. -/
def enlist (node : Node) (message : Message) : Work Transaction (Option Resource) := do
  match ← node.offered, message.transaction with
  -- Without a transaction, the resource of the node stands aside.
  | some resource, some _ =>
    Work.ofFaulty (·.enlist resource)
    return some resource
  | _, _ => return none

/-- The node is done with the resource that it used, if it used one. -/
def delist : Option Resource → Work Transaction Unit
  | some resource => Work.ofFaulty fun transaction => .done (transaction.delist resource)
  | none => pure ()

/-- Applies the node to a message. Failures of items end up in the response; only a fatal condition
or a fault of the transaction abandons the work. -/
def apply (node : Node) (message : Message) : Work Transaction Response := do
  node.shareMetadata message
  let enlisted ← node.enlist message
  let response ← node.perform message
  -- If the work was abandoned, the resource has not been delisted, and is rolled back with the
  -- rest.
  delist enlisted
  Work.log (.nodeApplied node.id message.data.length response.output.length
    response.discardCount response.errorCount)
  return response

end BatchFlow.Node
