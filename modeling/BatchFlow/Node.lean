import BatchFlow.Plan

/-! Nodes: named collaborators that are wired into a topology, and how they start and stop. -/

namespace BatchFlow

/-- What a node does with the messages it receives. -/
inductive Role where
  /-- Turns each item into zero or more items. -/
  | step
  /-- Delivers the whole message, and may reply. -/
  | sink
  /-- Reads records for each item, by a named reader in limited time, and merges them in. -/
  | enrich (reader : String) (timeout : Duration)
deriving DecidableEq

/-- The name of a role. -/
def Role.name : Role → String
  | .step => "step"
  | .sink => "sink"
  | .enrich .. => "enrich"

/-- A node. Its collaborator is the one known under the node's id. -/
structure Node where
  id : String
  role : Role
  /-- The name of the collaborator. -/
  implementation : String
  /-- Whether the collaborator may take part in transactions. -/
  transactional : Bool
  /-- Whether the collaborator is told the metadata of each message. -/
  metadataAware : Bool
  /-- Otherwise the node is fed one item at a time. -/
  acceptsBatches : Bool
  /-- Unrouted errors of the node are recorded and not fatal. -/
  bestEffort : Bool
  /-- What the collaborator finds wrong with its own options. -/
  problems : List String

namespace Node

/-- A node that takes batches, and whose collaborator has no further capabilities. -/
def plain (id : String) (role : Role) (implementation : String) : Node where
  id; role; implementation
  transactional := false
  metadataAware := false
  acceptsBatches := true
  bestEffort := false
  problems := []

/-- How long the node waits for its reader, if it has one. -/
def readTimeout? (node : Node) : Option Duration :=
  match node.role with
  | .enrich _ timeout => some timeout
  | _ => none

/-- Whether there is anything to connect when the node starts. -/
def isConnected (node : Node) : Bool :=
  match node.role with
  | .step => false
  | _ => true

/-- Connects the collaborator, unless the node has been started before. -/
def start (node : Node) : Plan (Except Condition Unit) := do
  if !(← Plan.advance (.node node.id) .start) then
    return .ok ()
  let connected ← if node.isConnected then Plan.call (.connectNode node.id) else pure (.ok ())
  match connected with
  | .error cause =>
    let _ ← Plan.advance (.node node.id) .abortStart
    return .error cause
  | .ok () =>
    Plan.log (.nodeStarted node.id node.role.name node.implementation)
    return .ok ()

/-- Disconnects the collaborator of a started node; a failure is only reported. -/
def stop (node : Node) : Plan Unit := do
  if !(← Plan.advance (.node node.id) .beginStop) then
    return ()
  let disconnected ← if node.isConnected then Plan.call (.disconnectNode node.id) else pure (.ok ())
  match disconnected with
  | .error cause => Plan.log (.nodeDisconnectFailed node.id cause.text)
  | .ok () => pure ()
  let _ ← Plan.advance (.node node.id) .finishStop
  Plan.log (.nodeStopped node.id)

/-- The diagnostic text of a node in a state. -/
def inspect (node : Node) (state : Lifecycle) : String :=
  Text.inspectRecord "Node" [
    ("id", Text.inspect node.id),
    ("role", Text.inspect node.role.name),
    ("implementation", Text.inspect node.implementation),
    ("transactional", toString node.transactional),
    ("metadata_aware", toString node.metadataAware),
    ("accepts_batches", toString node.acceptsBatches),
    ("best_effort", toString node.bestEffort),
    ("state", state.inspect)]

end Node

end BatchFlow
