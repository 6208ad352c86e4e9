import BatchFlow.Defect
import BatchFlow.Duration
import BatchFlow.Item

/-! Operational events: their text, their level, and the fields they carry into logs and spans. -/

namespace BatchFlow

/-- How much attention an event calls for. -/
inductive Level where
  | error
  | warn
  | info
  | debug
deriving DecidableEq

/-- The name of a level. -/
def Level.name : Level → String
  | .error => "ERROR"
  | .warn => "WARN"
  | .info => "INFO"
  | .debug => "DEBUG"

/-- Something worth logging. Causes are held as the text they are reported with. -/
inductive Event where
  -- Traversals and their transactions.
  | traversalStarted (transaction : Nat) (producer : String) (items : Nat)
  | traversalCompleted (transaction : Nat) (producer : String) (outputs discards unhandled : Nat)
      (committed : Bool) (elapsed : Duration)
  | traversalFailed (transaction : Nat) (producer cause : String)
  | unroutedError (node kind : String) (items : Nat)
  | unhandledError (node kind : String) (items : Nat)
  | leafReached (node channel : String) (items : Nat)
  | resourceEnlisted (transaction : Nat) (resource : String)
  | transactionCommitted (transaction resources : Nat)
  | transactionRolledBack (transaction resources : Nat) (cause : String)
  | resourceCommitFailed (transaction : Nat) (resource cause : String)
  | resourceRollbackFailed (transaction : Nat) (resource cause : String)
  -- The adaptor and its workers.
  | adaptorStarting (producers nodes : Nat) (failFast : Bool)
  | adaptorStopped (exitCode : Int) (failures : Nat) (elapsed : Duration)
  | workerStarted (producer worker : String)
  | workerStopped (producer : String) (exitCode : Int)
  | workerFailed (producer cause : String)
  | workerRestarting (producer : String) (attempt limit : Nat) (delay : Duration) (cause : String)
  | pollFailed (producer cause : String)
  | producerDisconnectFailed (producer cause : String)
  | failFastShutdown (producer : String) (exitCode : Int) (remaining : Nat)
  -- Nodes.
  | nodeApplied (node : String) (input output discarded failed : Nat)
  | itemFailed (node kind cause : String)
  | itemDiscarded (node reason : String)
  | nodeStarted (node role implementation : String)
  | nodeStopped (node : String)
  | nodeDisconnectFailed (node cause : String)
  | readWithoutParameters (node : String)
  | enrichmentRead (node reader : String) (records : Nat)
  -- Checking a configuration.
  | checkStarted (producers nodes : Nat)
  | checkFound (defect : Defect)
  | checkPassed (producers nodes : Nat)
  | checkFailed (defects : Nat)

namespace Event

/-- The text of an event, measured times being written as `measured` says. -/
def textWith (measured : Duration → String) : Event → String
  | traversalStarted transaction producer items =>
    s!"Transaction {transaction}: routing {items} item(s) from '{producer}'"
  | traversalCompleted transaction producer outputs discards unhandled committed elapsed =>
    let outcome := if committed then "committed" else "rolled back"
    s!"Transaction {transaction}: routing from '{producer}' finished ({outcome}) in " ++
      s!"{measured elapsed}: {outputs} output batch(es), {discards} discard batch(es), " ++
      s!"{unhandled} unhandled error(s)"
  | traversalFailed transaction producer cause =>
    s!"Transaction {transaction}: routing from '{producer}' failed and was rolled back: {cause}"
  | unroutedError node kind items =>
    s!"No route for {kind} error from node '{node}' ({items} item(s))"
  | unhandledError node kind items =>
    s!"Best-effort node '{node}' dropped {items} item(s) with unrouted {kind} error"
  | leafReached node channel items => s!"{items} item(s) stopped at {channel} leaf of '{node}'"
  | resourceEnlisted transaction resource =>
    s!"Transaction {transaction}: enlisted resource '{resource}'"
  | transactionCommitted transaction resources =>
    s!"Transaction {transaction} committed {resources} resource(s)"
  | transactionRolledBack transaction resources cause =>
    s!"Transaction {transaction} rolled back {resources} resource(s): {cause}"
  | resourceCommitFailed transaction resource cause =>
    s!"Transaction {transaction}: resource '{resource}' failed to commit: {cause}"
  | resourceRollbackFailed transaction resource cause =>
    s!"Transaction {transaction}: resource '{resource}' failed to roll back: {cause}"
  | adaptorStarting producers nodes failFast =>
    s!"Starting adaptor: {producers} producer(s), {nodes} node(s), fail_fast={failFast}"
  | adaptorStopped exitCode failures elapsed =>
    s!"Adaptor stopped after {measured elapsed}: exit_code={exitCode}, " ++
      s!"failed workers={failures}"
  | workerStarted producer worker => s!"Worker '{worker}' started for producer '{producer}'"
  | workerStopped producer exitCode =>
    s!"Worker for producer '{producer}' stopped with exit code {exitCode}"
  | workerFailed producer cause => s!"Worker for producer '{producer}' failed: {cause}"
  | workerRestarting producer attempt limit delay cause =>
    s!"Restarting worker for producer '{producer}' in {delay.text} " ++
      s!"(attempt {attempt}/{limit}) after: {cause}"
  | pollFailed producer cause => s!"Producer '{producer}' poll failed: {cause}"
  | producerDisconnectFailed producer cause =>
    s!"Producer '{producer}' failed to disconnect: {cause}"
  | failFastShutdown producer exitCode remaining =>
    s!"Worker for producer '{producer}' exited with code {exitCode}; " ++
      s!"cancelling {remaining} remaining worker(s)"
  | nodeApplied node input output discarded failed =>
    s!"Node '{node}' applied to {input} item(s): output={output}, discarded={discarded}, " ++
      s!"failed={failed}"
  | itemFailed node kind cause => s!"Node '{node}' failed an item with {kind} error: {cause}"
  | itemDiscarded node reason => s!"Node '{node}' discarded an item: {reason}"
  | nodeStarted node role implementation => s!"Started {role} node '{node}' ({implementation})"
  | nodeStopped node => s!"Stopped node '{node}'"
  | nodeDisconnectFailed node cause => s!"Node '{node}' failed to disconnect: {cause}"
  | readWithoutParameters node => s!"Node '{node}' has no reader parameters for an item"
  | enrichmentRead node reader records => s!"Node '{node}' read {records} record(s) from {reader}"
  | checkStarted producers nodes =>
    s!"Starting configuration validation for {producers} producer(s) and {nodes} node(s)"
  | checkFound defect => s!"Configuration problem: {defect.text}"
  | checkPassed producers nodes =>
    s!"Configuration validation completed successfully for {producers} producer(s) " ++
      s!"and {nodes} node(s)"
  | checkFailed defects => s!"Configuration validation failed with {defects} errors"

/-- The text of an event. -/
def text : Event → String := textWith Duration.text

/-- The level of an event. -/
def level : Event → Level
  | traversalFailed .. | unroutedError .. | resourceCommitFailed .. | resourceRollbackFailed ..
  | workerFailed .. | checkFound .. | checkFailed .. => .error
  | unhandledError .. | transactionRolledBack .. | workerRestarting .. | pollFailed ..
  | producerDisconnectFailed .. | failFastShutdown .. | itemFailed .. | nodeDisconnectFailed ..
  | readWithoutParameters .. => .warn
  | adaptorStarting .. | workerStarted .. | workerStopped .. | nodeStarted .. | nodeStopped ..
  | checkStarted .. | checkPassed .. => .info
  | traversalStarted .. | traversalCompleted .. | leafReached .. | resourceEnlisted ..
  | transactionCommitted .. | nodeApplied .. | itemDiscarded .. | enrichmentRead .. => .debug
  -- A run that ended well is news, any other is an error.
  | adaptorStopped exitCode .. => if exitCode = 0 then .info else .error

/-- The fields attached to an event. -/
def fields : Event → List (String × Item)
  | traversalStarted transaction producer items =>
    [("transaction_id", .nat transaction), ("producer_id", .string producer),
      ("item_count", .nat items)]
  | traversalCompleted transaction producer outputs discards unhandled committed elapsed =>
    [("transaction_id", .nat transaction), ("producer_id", .string producer),
      ("output_batches", .nat outputs), ("discard_batches", .nat discards),
      ("unhandled_errors", .nat unhandled), ("committed", .bool committed),
      ("duration_ms", .nat elapsed.millisWord)]
  | traversalFailed transaction producer cause =>
    [("transaction_id", .nat transaction), ("producer_id", .string producer),
      ("error", .string cause)]
  | unroutedError node kind items | unhandledError node kind items =>
    [("node_id", .string node), ("kind", .string kind), ("item_count", .nat items)]
  | leafReached node channel items =>
    [("node_id", .string node), ("channel", .string channel), ("item_count", .nat items)]
  | resourceEnlisted transaction resource =>
    [("transaction_id", .nat transaction), ("resource", .string resource)]
  | transactionCommitted transaction resources =>
    [("transaction_id", .nat transaction), ("resource_count", .nat resources)]
  | transactionRolledBack transaction resources cause =>
    [("transaction_id", .nat transaction), ("resource_count", .nat resources),
      ("cause", .string cause)]
  | resourceCommitFailed transaction resource cause
  | resourceRollbackFailed transaction resource cause =>
    [("transaction_id", .nat transaction), ("resource", .string resource),
      ("error", .string cause)]
  | adaptorStarting producers nodes failFast =>
    [("producer_count", .nat producers), ("node_count", .nat nodes), ("fail_fast", .bool failFast)]
  | adaptorStopped exitCode failures elapsed =>
    [("exit_code", .int exitCode), ("failure_count", .nat failures),
      ("duration_ms", .nat elapsed.millisWord)]
  | workerStarted producer worker =>
    [("producer_id", .string producer), ("worker", .string worker)]
  | workerStopped producer exitCode =>
    [("producer_id", .string producer), ("exit_code", .int exitCode)]
  | workerFailed producer cause | pollFailed producer cause
  | producerDisconnectFailed producer cause =>
    [("producer_id", .string producer), ("error", .string cause)]
  | workerRestarting producer attempt limit delay cause =>
    [("producer_id", .string producer), ("attempt", .nat attempt), ("limit", .nat limit),
      ("delay_ms", .nat delay.millisWord), ("error", .string cause)]
  | failFastShutdown producer exitCode remaining =>
    [("producer_id", .string producer), ("exit_code", .int exitCode),
      ("remaining_workers", .nat remaining)]
  | nodeApplied node input output discarded failed =>
    [("node_id", .string node), ("input_count", .nat input), ("output_count", .nat output),
      ("discard_count", .nat discarded), ("error_count", .nat failed)]
  | itemFailed node kind cause =>
    [("node_id", .string node), ("kind", .string kind), ("error", .string cause)]
  | itemDiscarded node reason => [("node_id", .string node), ("reason", .string reason)]
  | nodeStarted node role implementation =>
    [("node_id", .string node), ("role", .string role), ("implementation", .string implementation)]
  | nodeStopped node | readWithoutParameters node => [("node_id", .string node)]
  | nodeDisconnectFailed node cause => [("node_id", .string node), ("error", .string cause)]
  | enrichmentRead node reader records =>
    [("node_id", .string node), ("reader", .string reader), ("record_count", .nat records)]
  | checkStarted producers nodes | checkPassed producers nodes =>
    [("producer_count", .nat producers), ("node_count", .nat nodes)]
  | checkFound defect => [("error", .string defect.text)]
  | checkFailed defects => [("error_count", .nat defects)]

/-- A stretch of work done on behalf of an event. -/
structure Span where
  name : String
  level : Level
  fields : List (String × Item)

/-- A span whose name is kept under `span_name`, with some of the event's own fields. -/
def spanOf (event : Event) (name : String) (level : Level) (kept : List String) (title : String) :
    Span :=
  ⟨title, level, ("span_name", .string name) :: event.fields.filter (·.1 ∈ kept)⟩

/-- A span that is itself called `span_name` and keeps the name it is given under `name`. -/
def checkSpan (event : Event) (name : String) (level : Level) (kept : List String) : Span :=
  ⟨"span_name", level, ("name", .string name) :: event.fields.filter (·.1 ∈ kept)⟩

/-- The span for the work that an event announces, under a name of the caller's choice. -/
def span (event : Event) (name : String) : Span :=
  match event with
  | traversalStarted .. =>
    event.spanOf name .info ["transaction_id", "producer_id"] "traversal"
  | traversalCompleted _ _ _ _ _ _ elapsed =>
    let span := event.spanOf name .debug ["transaction_id"] "traversal_completed"
    { span with fields := span.fields ++ [("duration", .string elapsed.text)] }
  | traversalFailed .. =>
    event.spanOf name .error ["transaction_id", "producer_id"] "traversal_failed"
  | unroutedError .. => event.spanOf name .error ["node_id", "kind"] "unrouted_error"
  | unhandledError .. => event.spanOf name .warn ["node_id", "kind"] "unhandled_error"
  | leafReached .. => event.spanOf name .debug ["node_id", "channel"] "leaf"
  | resourceEnlisted .. => event.spanOf name .debug ["transaction_id", "resource"] "enlist"
  | transactionCommitted .. => event.spanOf name .debug ["transaction_id"] "commit"
  | transactionRolledBack .. => event.spanOf name .warn ["transaction_id"] "rollback"
  | resourceCommitFailed .. =>
    event.spanOf name .error ["transaction_id", "resource"] "commit_failed"
  | resourceRollbackFailed .. =>
    event.spanOf name .error ["transaction_id", "resource"] "rollback_failed"
  | adaptorStarting .. => event.spanOf name .info ["producer_count", "node_count"] "adaptor"
  | adaptorStopped .. => event.spanOf name .info ["exit_code"] "adaptor_stopped"
  | workerStarted .. => event.spanOf name .info ["producer_id", "worker"] "worker"
  | workerStopped .. => event.spanOf name .info ["producer_id"] "worker_stopped"
  | workerFailed .. => event.spanOf name .error ["producer_id"] "worker_failed"
  | workerRestarting .. => event.spanOf name .warn ["producer_id", "attempt"] "worker_restart"
  | pollFailed .. => event.spanOf name .warn ["producer_id"] "poll_failed"
  | producerDisconnectFailed .. =>
    event.spanOf name .warn ["producer_id"] "producer_disconnect_failed"
  | failFastShutdown .. => event.spanOf name .warn ["producer_id"] "fail_fast"
  | nodeApplied .. => event.spanOf name .debug ["node_id", "input_count"] "node"
  | itemFailed .. => event.spanOf name .warn ["node_id", "kind"] "item_failed"
  | itemDiscarded .. => event.spanOf name .debug ["node_id"] "item_discarded"
  | nodeStarted .. => event.spanOf name .info ["node_id", "role"] "node_started"
  | nodeStopped .. => event.spanOf name .info ["node_id"] "node_stopped"
  | nodeDisconnectFailed .. => event.spanOf name .warn ["node_id"] "node_disconnect_failed"
  | readWithoutParameters .. => event.spanOf name .warn ["node_id"] "enrichment_without_parameters"
  | enrichmentRead .. => event.spanOf name .debug ["node_id", "reader"] "enrichment_read"
  | checkStarted .. | checkPassed .. =>
    event.checkSpan name .info ["producer_count", "node_count"]
  | checkFound .. => event.checkSpan name .error []
  | checkFailed .. => event.checkSpan name .error ["error_count"]

end Event

end BatchFlow
