import BatchFlow.Router

/-! Workers: each polls one producer and routes every batch that it yields. A failed worker may
reconnect its producer and carry on from the position that the producer reported. -/

namespace BatchFlow

/-- A producer wired for an adaptor. -/
structure Source where
  /-- The place among the registered producers. -/
  key : Nat
  id : String
  /-- The name of the producer's implementation. -/
  implementation : String
  /-- Whether batches bring a resource with them. -/
  transactional : Bool
  /-- How long one poll may take. -/
  pollTimeout : Duration
  /-- What the producer finds wrong with its own options. -/
  problems : List String

namespace Source

/-- Connects the producer, unless it is connected already. -/
def start (source : Source) : Plan (Except Condition Unit) := do
  -- Somebody else has started it before.
  if !(← Plan.advance (.producer source.key) .start) then
    return .ok ()
  match ← Plan.call (.connectProducer source.key) with
  | .error cause =>
    -- A producer that could not be connected may be tried again.
    let _ ← Plan.advance (.producer source.key) .abortStart
    return .error cause
  | .ok () => return .ok ()

/-- Disconnects a connected producer; a failure is only reported. -/
def stop (source : Source) : Plan Unit := do
  if !(← Plan.advance (.producer source.key) .beginStop) then
    return ()
  match ← Plan.call (.disconnectProducer source.key) with
  | .error cause => Plan.log (.producerDisconnectFailed source.id cause.text)
  | .ok () => pure ()
  let _ ← Plan.advance (.producer source.key) .finishStop

/-- The diagnostic text of a source in a state. -/
def inspect (source : Source) (state : Lifecycle) : String :=
  Text.inspectRecord "ProducerHandle" [
    ("id", Text.inspect source.id),
    ("producer", Text.inspect source.implementation),
    ("transactional", toString source.transactional),
    ("poll_timeout", source.pollTimeout.text),
    ("state", state.inspect)]

end Source

/-- How often and how soon a failed worker reconnects its producer. -/
structure RestartPolicy where
  limit : Nat
  delay : Duration
deriving DecidableEq

/-- A failed worker stays down. -/
def RestartPolicy.never : RestartPolicy := ⟨0, ⟨0⟩⟩

/-- How far plans are unfolded: the depth of one walk, and the polls between two failures. -/
structure Allowance where
  depth : Nat
  rounds : Nat

/-- A worker before it runs. -/
structure Worker where
  source : Source
  router : Router
  restart : RestartPolicy
  allowance : Allowance

namespace Worker

/-- The name under which a worker appears in messages. -/
def name (worker : Worker) : String :=
  "worker-" ++ worker.source.id

/-- The message for a batch that was just polled. -/
def messageFor (worker : Worker) (items : List Item) : Plan Message := do
  let metadata ← Plan.call .newMetadata
  let context ← Plan.call (.contextOf worker.source.key)
  let origin ←
    if worker.source.transactional then Plan.call (.producerResource worker.source.key)
    else pure none
  return {
    sender := worker.source.id
    data := items
    context
    worker := worker.name
    transaction := none
    origin
    metadata }

/-- Routes a batch, and shows the producer what it left behind. -/
def routeBatch (worker : Worker) (items : List Item) : Plan (Except WorkerFailure Unit) := do
  let message ← worker.messageFor items
  match ← worker.router.route worker.allowance.depth message with
  | .error failure => return .error (.routing failure)
  | .ok results =>
    match ← Plan.call (.onTerminal worker.source.key results) with
    | .error cause => return .error (.terminal worker.source.id cause)
    | .ok () => return .ok ()

/-- Polls and routes until the producer is exhausted, the run is cancelled or something fails. A
traversal under way is not interrupted by cancellation. -/
def pollLoop (worker : Worker) : Nat → Plan (Except WorkerFailure Unit)
  | 0 => .starved
  | rounds + 1 => do
    -- The run is looked at between traversals only.
    if ← Plan.call .isCancelled then return .ok ()
    if ← Plan.call (.isExhausted worker.source.key) then return .ok ()
    match ← Plan.call (.poll worker.source.key worker.source.pollTimeout) with
    | .cancelled => return .ok ()
    -- An empty batch is not worth a traversal.
    | .nothing | .batch [] => worker.pollLoop rounds
    | .batch (first :: rest) =>
      match ← worker.routeBatch (first :: rest) with
      | .error failure => return .error failure
      | .ok () => worker.pollLoop rounds
    | .failed cause =>
      -- Any other failure of a poll is reported, and the next poll may do better.
      if cause.fatal then return .error (.poll worker.source.id cause)
      Plan.log (.pollFailed worker.source.id cause.text)
      worker.pollLoop rounds

/-- A clean end. -/
def clean (worker : Worker) : WorkerExit := ⟨worker.source.id, none⟩

/-- An end with a failure. -/
def failed (worker : Worker) (failure : WorkerFailure) : WorkerExit :=
  ⟨worker.source.id, some failure⟩

/-- What happens between a failure and the next connection: the producer is disconnected, time
passes, and the position that it reported is given back to it. Tells whether to go on. -/
def recover (worker : Worker) (attempt : Nat) (failure : WorkerFailure) : Plan Bool := do
  Plan.log (.workerRestarting worker.source.id attempt worker.restart.limit worker.restart.delay
    failure.text)
  -- The position is asked for while the producer is still connected.
  let context ← Plan.call (.contextOf worker.source.key)
  worker.source.stop
  if ← Plan.call (.pause worker.restart.delay) then return false
  match context with
  | some context => Plan.call (.setContext worker.source.key context)
  | none => pure ()
  return true

/-- Connects the producer and polls it, with so many restarts left. -/
def serve (worker : Worker) (left : Nat) : Plan WorkerExit := do
  match ← worker.source.start with
  | .error cause => return worker.failed (.connect worker.source.id cause)
  | .ok () =>
    match ← worker.pollLoop worker.allowance.rounds with
    | .ok () =>
      worker.source.stop
      return worker.clean
    | .error failure =>
      match left with
      -- No restarts are left.
      | 0 =>
        worker.source.stop
        return worker.failed failure
      | left + 1 =>
        -- Nobody restarts while the run is being cancelled.
        if ← Plan.call .isCancelled then
          worker.source.stop
          return worker.failed failure
        if ← worker.recover (worker.restart.limit - left) failure then
          worker.serve left
        else
          -- The pause was cut short, so the run is over.
          return worker.failed (.cancelled worker.source.id)

/-- Runs the worker to its end, and reports how it ended. -/
def run (worker : Worker) : Plan WorkerExit := do
  Plan.log (.workerStarted worker.source.id worker.name)
  let exit ← worker.serve worker.restart.limit
  match exit.failure with
  | some failure => Plan.log (.workerFailed exit.producer failure.text)
  | none => pure ()
  Plan.log (.workerStopped exit.producer exit.code.toInt)
  return exit

end Worker

end BatchFlow
