import BatchFlow.Condition
import BatchFlow.Defect

/-! The failures of transactions, traversals, workers, runs and hand-overs, and their text. -/

namespace BatchFlow

/-- How far a transaction has come. -/
inductive Phase where
  | notStarted
  | active
  | committing
  | committed
  | rolledBack
deriving DecidableEq

namespace Phase

/-- Whether nothing more can happen to the transaction. -/
def isFinished : Phase → Bool
  | committed | rolledBack => true
  | _ => false

/-- The name of a phase in reports. -/
def name : Phase → String
  | notStarted => "NOT_STARTED"
  | active => "ACTIVE"
  | committing => "COMMITTING"
  | committed => "COMMITTED"
  | rolledBack => "ROLLED_BACK"

/-- The name of a phase in diagnostic text. -/
def inspect : Phase → String
  | notStarted => "NotStarted"
  | active => "Active"
  | committing => "Committing"
  | committed => "Committed"
  | rolledBack => "RolledBack"

end Phase

/-- Why a transaction refused a request or could not carry it out. -/
inductive TransactionFault where
  | enlistAfterCompletion (transaction : Nat) (resource : String) (phase : Phase)
  | notEnlisted (transaction : Nat) (resource : String)
  | notDelisted (transaction : Nat) (resource : String)
  | invalidPhase (transaction : Nat) (operation : String) (phase : Phase)
  | beginFailed (transaction : Nat) (resource : String) (cause : Condition)
  | commitFailed (transaction : Nat) (resource : String) (cause : Condition)
deriving DecidableEq

namespace TransactionFault

/-- The text of a fault. -/
def text : TransactionFault → String
  | enlistAfterCompletion transaction resource phase =>
    s!"cannot enlist resource '{resource}' in transaction {transaction}: " ++
      s!"transaction is {phase.name}"
  | notEnlisted transaction resource =>
    s!"resource '{resource}' is not enlisted in transaction {transaction}"
  | notDelisted transaction resource =>
    s!"resource '{resource}' was never delisted for commit in transaction {transaction}"
  | invalidPhase transaction operation phase =>
    s!"transaction {transaction} cannot {operation} while {phase.name}"
  | beginFailed transaction resource cause =>
    s!"resource '{resource}' failed to begin in transaction {transaction}: {cause.text}"
  | commitFailed transaction resource cause =>
    s!"resource '{resource}' failed to commit in transaction {transaction}: {cause.text}"

end TransactionFault

/-- Why a traversal was abandoned. -/
inductive RouteFailure where
  /-- An error batch had no matching rule, and no default destination took it. -/
  | unrouted (node : String) (kind : Kind) (message : String)
  /-- A collaborator raised a fatal condition. -/
  | fatal (node : String) (cause : Condition)
  /-- A route leads to an id without a registered node. -/
  | unknownDestination (destination origin : String)
  | transaction (fault : TransactionFault)
deriving DecidableEq

namespace RouteFailure

/-- The text of a failure. -/
def text : RouteFailure → String
  | unrouted node kind message =>
    s!"unrouted {kind.name} error raised by node '{node}': {message}"
  | fatal node cause => s!"fatal error in node '{node}': {cause.text}"
  | unknownDestination destination origin =>
    s!"destination '{destination}' routed from '{origin}' is not a registered node"
  | transaction fault => fault.text

end RouteFailure

/-- Why a worker stopped before its producer was exhausted. -/
inductive WorkerFailure where
  | connect (producer : String) (cause : Condition)
  | poll (producer : String) (cause : Condition)
  | routing (failure : RouteFailure)
  | terminal (producer : String) (cause : Condition)
  | panicked (producer : String)
  | cancelled (producer : String)
deriving DecidableEq

namespace WorkerFailure

/-- The text of a failure. -/
def text : WorkerFailure → String
  | connect producer cause => s!"failed to connect producer '{producer}': {cause.text}"
  | poll producer cause => s!"producer '{producer}' failed to poll: {cause.text}"
  | routing failure => failure.text
  | terminal producer cause =>
    s!"producer '{producer}' rejected terminal results: {cause.text}"
  | panicked producer => s!"worker for producer '{producer}' panicked"
  | cancelled producer => s!"worker for producer '{producer}' was cancelled while restarting"

end WorkerFailure

/-- Why an adaptor did not run. -/
inductive Refusal where
  | defective (defects : List Defect)
  | alreadyRunning
  | nodeStartFailed (node : String) (cause : Condition)
deriving DecidableEq

namespace Refusal

/-- The text of a refusal. -/
def text : Refusal → String
  | defective defects =>
    "adaptor is not runnable: " ++ String.intercalate "; " (defects.map (·.text))
  | alreadyRunning => "adaptor is already running"
  | nodeStartFailed node cause => s!"failed to start node '{node}': {cause.text}"

/-- The causes behind a refusal, each with its own text. -/
def causes : Refusal → List String
  | nodeStartFailed _ cause => [cause.text]
  | defective _ | alreadyRunning => []

end Refusal

/-- Why a pushed item was not accepted downstream. -/
inductive PushFailure where
  | rolledBack (cause : String)
  | closed
  | abandoned
deriving DecidableEq

namespace PushFailure

/-- The text of a failure. -/
def text : PushFailure → String
  | rolledBack cause => s!"traversal rolled back: {cause}"
  | closed => "hand-off queue is closed"
  | abandoned => "item was dropped before its traversal finished"

end PushFailure

/-- Why a component could not be made from its configuration. -/
inductive ComponentFault where
  | missingImplementation (component : String)
  | unknownImplementation (component implementation : String)
  | invalidOptions (component implementation reason : String)
deriving DecidableEq

namespace ComponentFault

/-- The text of a fault. -/
def text : ComponentFault → String
  | missingImplementation component => s!"Component '{component}' is missing the 'impl_' field"
  | unknownImplementation component implementation =>
    s!"Unknown implementation '{implementation}' for component '{component}'"
  | invalidOptions component implementation reason =>
    s!"Failed to create '{implementation}' for component '{component}': {reason}"

end ComponentFault

/-- Why a configuration could not be loaded or made into an adaptor. -/
inductive ConfigFault where
  /-- The file could not be read. -/
  | unreadable (path reason : String)
  /-- The file is not a configuration in the first of the two formats, with the parser's reason. -/
  | yaml (reason : String)
  /-- The file is not a configuration in the second of the two formats, with the parser's reason. -/
  | toml (reason : String)
  | defective (defects : List Defect)
  | component (fault : ComponentFault)
deriving DecidableEq

namespace ConfigFault

/-- The text of a fault. -/
def text : ConfigFault → String
  | unreadable path reason => s!"failed to read config file '{path}': {reason}"
  | yaml reason => s!"invalid YAML configuration: {reason}"
  | toml reason => s!"invalid TOML configuration: {reason}"
  | defective defects =>
    "configuration validation failed:\n" ++
      String.intercalate "\n" (defects.map fun defect => "  - " ++ defect.text)
  | component fault => fault.text

/-- The causes behind a fault, each with its own text. -/
def causes : ConfigFault → List String
  | unreadable _ reason | yaml reason | toml reason => [reason]
  | defective _ | component _ => []

end ConfigFault

end BatchFlow
