import BatchFlow.Stage.World

/-! How the world answers each question of a plan: at once, after some time, or by a panic. -/

namespace BatchFlow.Stage

/-- What a task waits for that cannot be answered at once. -/
inductive Wait : Call → Type where
  /-- A reply at a certain time, or another one as soon as the run is cancelled. A reply that is
  missing is a panic. -/
  | timed {call : Call} (due : Nat) (reply : Option call.Reply) (ifCancelled : Option call.Reply) :
      Wait call
  /-- An item in the queue of a producer, until a certain time. -/
  | polling (producer : Nat) (timeout : Duration) (poller : Handoff.Poller) (due : Nat) :
      Wait (.poll producer timeout)
  /-- The end of a worker. -/
  | exit : Wait .nextExit
  /-- Another turn of the task, which then uses the metadata that it meant to use. -/
  | turn {call : Call} (metadata : Nat) : Wait call

/-- What comes of a question. -/
inductive Answer (call : Call) where
  | reply (world : World) (reply : call.Reply)
  | wait (world : World) (wait : Wait call)
  | panic (world : World)

namespace World

/-- More steps than a pusher or a poller takes before it has to wait. -/
def stepsInARow : Nat := 64

/-- A reply now if its time has come, and later otherwise. -/
def after (world : World) {call : Call} (delay : Nat) (reply : Option call.Reply)
    (ifCancelled : Option call.Reply) : Answer call :=
  if delay = 0 then
    match reply with
    | some reply => .reply world reply
    | none => .panic world
  else .wait world (.timed (world.now + delay) reply ifCancelled)

/-- Nanoseconds in a millisecond. -/
def millisecond : Nat := 1000000

/-- A failing call of a scripted resource. -/
def refusal (call name : String) (fails : Bool) : Except Condition Unit :=
  if fails then .error (.processing s!"{call} refused by {name}") else .ok ()

/-- The key of the queue producer that owns a resource. -/
def queueOwning? (world : World) (resource : Resource) : Option (Nat × QueueProducer) :=
  world.outlets.zipIdx.findSome? fun (outlet, key) =>
    match outlet.feed with
    | .queue producer =>
      if producer.resource.key == resource.key then some (key, producer) else none
    | _ => none

/-- A resource begins to work. -/
def beginWork (world : World) (resource : Resource) : World × Except Condition Unit :=
  match world.resources[resource.key]? with
  | some script =>
    if script.plain then (world, .ok ())
    else (world.note (.began script.name), refusal "begin" script.name script.failsBegin)
  | none => (world, .ok ())

/-- A resource commits its work. -/
def commitWork (world : World) (resource : Resource) : World × Except Condition Unit :=
  match world.resources[resource.key]? with
  | some script =>
    (world.note (.committed script.name), refusal "commit" script.name script.failsCommit)
  | none =>
    match world.queueOwning? resource with
    | some (key, producer) => (world.putFeed key (.queue producer.commit), .ok ())
    | none => (world, .ok ())

/-- A resource rolls its work back. -/
def rollbackWork (world : World) (resource : Resource) (cause : String) :
    World × Except Condition Unit :=
  match world.resources[resource.key]? with
  | some script =>
    (world.note (.rolledBack script.name cause),
      refusal "rollback" script.name script.failsRollback)
  | none =>
    match world.queueOwning? resource with
    | some (key, producer) => (world.putFeed key (.queue (producer.rollback cause)), .ok ())
    | none => (world, .ok ())

/-- The scripted link of a node's collaborator, if it has one. -/
def linkOf? : Actor → Option LinkScript
  | .scriptedSink script => some script.link
  | .enrich _ (.scripted script) => script.link
  | _ => none

/-- A node's collaborator is connected. -/
def connectNode (world : World) (node : String) : World × Except Condition Unit :=
  match world.station? node with
  | none => (world, .ok ())
  | some station =>
    let connected := world.putStation { station with connects := station.connects + 1 }
    match linkOf? station.actor with
    | some link => (connected.note (.connected node), callResult link.connect station.connects)
    | none => (connected, .ok ())

/-- A node's collaborator is disconnected. -/
def disconnectNode (world : World) (node : String) : World × Except Condition Unit :=
  match world.station? node with
  | none => (world, .ok ())
  | some station =>
    let disconnected := world.putStation { station with disconnects := station.disconnects + 1 }
    match linkOf? station.actor with
    | some link =>
      (disconnected.note (.disconnected node), callResult link.disconnect station.disconnects)
    | none => (disconnected, .ok ())

/-- A node's collaborator is told the metadata of a message. -/
def shareMetadata (world : World) (node : String) (metadata : Nat) : World :=
  match world.station? node with
  | some station => world.putStation { station with metadata := some metadata }
  | none => world

/-- A node's step is reset; each scripted step in it takes note. -/
def resetStep (world : World) (node : String) (context : Option Item) : World :=
  match world.station? node with
  | some { actor := .step step, .. } =>
    (List.range step.scriptCount).foldl (fun world _ => world.note (.reset node context)) world
  | _ => world

/-- The number of the metadata that a question to a collaborator is about: those that it was told of
last, if it reads or writes any. -/
def concerns? (world : World) : Call → Option Nat
  | .applyStep node _ =>
    match world.station? node with
    | some { actor := .step step, metadata, .. } => if step.writes?.isSome then metadata else none
    | _ => none
  | .deliver node _ =>
    match world.station? node with
    | some { actor := .memory _, metadata, .. } => metadata
    | _ => none
  | _ => none

/-- A node's step is applied to an item, for which it may write into some metadata. -/
def applyStep (world : World) (metadata : Option Nat) (node : String) (item : Item) :
    World × StepResult :=
  match world.station? node with
  | some { actor := .step step, .. } =>
    let world := match step.writes?, metadata with
      | some fields, some number => world.writeMetadata number fields
      | _, _ => world
    (world, step.resultFor item)
  | _ => (world, .ok [item])

/-- Items are delivered to a node's sink, which may take a snapshot of some metadata. -/
def deliver (world : World) (metadata : Option Nat) (node : String) (items : List Item) :
    World × Except Condition (Option Item) :=
  match world.station? node with
  | none => (world, .ok none)
  | some station =>
    match station.actor with
    | .stdout pretty =>
      let lines := items.map fun item => if pretty then item.pretty else item.compact
      ({ world with printed := lines.reverse ++ world.printed }, .ok none)
    | .memory reply =>
      let snapshots := match metadata with
        | some number => station.snapshots ++ [world.metadataOf number]
        | none => station.snapshots
      let deliveries := station.deliveries ++ [items]
      let answer := if reply then some (.record [("delivered", .nat items.length)]) else none
      (world.putStation { station with deliveries, snapshots }, .ok answer)
    | .scriptedSink script =>
      let deliveries := station.deliveries ++ [items]
      ((world.putStation { station with deliveries }).note (.delivered node items),
        script.resultOf station.deliveries.length)
    | _ => (world, .ok none)

/-- The parameters that a node's enricher takes from an item. -/
def parametersFor (world : World) (node : String) (item : Item) : Option Item :=
  match world.station? node with
  | some { actor := .enrich enricher _, .. } => enricher.parametersFor item
  | _ => none

/-- A node's reader reads records in limited time. -/
def readRecords (world : World) (node : String) (parameters : Option Item) (timeout : Duration) :
    Answer (.readRecords node parameters timeout) :=
  match world.station? node with
  | some { actor := .enrich _ (.table table), .. } =>
    .reply world (.records (table.read parameters))
  | some { actor := .enrich _ (.scripted script), .. } =>
    let world := world.note (.read node parameters timeout)
    let delay := script.delay * millisecond
    let outcome := match script.result with
      | .ok records => ReadOutcome.records records
      | .error condition => .failed condition
    -- A read that ends just when its time is over still counts.
    if delay ≤ timeout.nanoseconds then world.after delay (some outcome) none
    else world.after timeout.nanoseconds (some .timedOut) none
  | _ => .reply world (.records [])

/-- A node's enricher merges records into an item. -/
def enrichItem (world : World) (node : String) (item : Item) (records : List Item) : StepResult :=
  match world.station? node with
  | some { actor := .enrich enricher _, .. } => enricher.resultFor item records
  | _ => .ok [item]

/-- A producer is connected. -/
def connectProducer (world : World) (key : Nat) : World × Except Condition Unit :=
  match world.outlet? key with
  | some { id, feed := .scripted state, .. } =>
    let next := { state with connects := state.connects + 1 }
    ((world.putFeed key (.scripted next)).note (.connected id),
      callResult state.script.link.connect state.connects)
  | some { feed := .queue producer, .. } => (world.putFeed key (.queue producer.connect), .ok ())
  | _ => (world, .ok ())

/-- A producer is disconnected. -/
def disconnectProducer (world : World) (key : Nat) : World × Except Condition Unit :=
  match world.outlet? key with
  | some { id, feed := .scripted state, .. } =>
    let next := { state with disconnects := state.disconnects + 1 }
    ((world.putFeed key (.scripted next)).note (.disconnected id),
      callResult state.script.link.disconnect state.disconnects)
  | _ => (world, .ok ())

/-- A producer is told that nobody will poll it any more. -/
def shutdownProducer (world : World) (key : Nat) : World :=
  match world.outlet? key with
  | some { id, feed := .scripted _, .. } => world.note (.shutDown id)
  | some { feed := .queue producer, .. } => world.putFeed key (.queue producer.shutdown)
  | _ => world

/-- Moves a feed to a position. -/
def setContext (world : World) (key : Nat) (context : Item) : World :=
  match world.outlet? key with
  | some { feed := .static producer, .. } =>
    world.putFeed key (.static (producer.setContext context))
  | some { id, feed := .scripted state, .. } =>
    let noted := world.note (.contextSet id context)
    match context.word? with
    | some cursor => noted.putFeed key (.scripted { state with cursor })
    | none => noted
  | _ => world

/-- Lets a poller of a queue go on as far as it can. -/
def goOnPolling (world : World) (key : Nat) (timeout : Duration) (producer : QueueProducer)
    (poller : Handoff.Poller) (due : Nat) : Answer (.poll key timeout) :=
  match poller.run producer.batchSize producer.queue stepsInARow with
  | (queue, .finished batch) =>
    let producer := { producer with queue }.receive batch
    let reply := if batch.isEmpty then Polled.nothing else .batch (batch.map (·.item))
    .reply (world.putFeed key (.queue producer)) reply
  | (queue, poller) =>
    if due ≤ world.now then
      let producer := { producer with queue := poller.giveUp queue }
      .reply (world.putFeed key (.queue producer)) .nothing
    else
      .wait (world.putFeed key (.queue { producer with queue })) (.polling key timeout poller due)

/-- A producer is polled. -/
def poll (world : World) (key : Nat) (timeout : Duration) : Answer (.poll key timeout) :=
  match world.outlet? key with
  | some { feed := .static producer, .. } =>
    match producer.poll with
    | (next, some (some batch)) => .reply (world.putFeed key (.static next)) (.batch batch)
    | (next, some none) => .reply (world.putFeed key (.static next)) .nothing
    | (next, none) => .panic (world.putFeed key (.static next))
  | some { feed := .queue producer, .. } =>
    world.goOnPolling key timeout producer .starting (world.now + timeout.nanoseconds)
  | some { feed := .scripted state, .. } =>
    let moved := world.putFeed key (.scripted { state with cursor := state.cursor + 1 })
    match state.script.polls[state.cursor]? with
    | some (wait, result) =>
      let reply := match result with
        | .batch items => some (Polled.batch items)
        | .fail condition => some (.failed condition)
        | .panic => none
        | .nothing => some .nothing
      moved.after (wait * millisecond) reply (some .cancelled)
    | none => moved.after timeout.nanoseconds (some .nothing) (some .cancelled)
  | none => .reply world .nothing

/-- A producer sees what a traversal left behind. -/
def onTerminal (world : World) (key : Nat) (results : Terminal) : World × Except Condition Unit :=
  match world.outlet? key with
  | some { id, feed := .scripted state, .. } =>
    let next := { state with terminals := state.terminals + 1 }
    ((world.putFeed key (.scripted next)).note (.terminal id results),
      callResult state.script.terminal state.terminals)
  | _ => (world, .ok ())

/-- The resource that a producer offers. -/
def producerResource (world : World) (key : Nat) : Option Resource :=
  match world.outlet? key with
  | some { feed := .queue producer, resource, .. } => resource.or producer.resource?
  | some outlet => outlet.resource
  | none => none

/-- Moves a component through its lifecycle. -/
def advance (world : World) (component : Component) (transition : Transition) : World × Bool :=
  let (state, moved) := (world.lifecycleOf component).advance transition
  (world.putLifecycle component state, moved)

/-- Answers a question of a task, which is about some metadata or about none. Questions about other
tasks are for the scheduler, which does not pass them on. -/
def answerAbout (world : World) (metadata : Option Nat) : (call : Call) → Answer call
  | .log event => .reply { world with events := event :: world.events } ()
  | .clock => .reply world ⟨world.now⟩
  | .openTransaction =>
    .reply { world with nextTransaction := world.nextTransaction + 1 } world.nextTransaction
  | .newMetadata =>
    let (world, number) := world.addMetadata []
    .reply world number
  | .advance component transition =>
    let (world, moved) := world.advance component transition
    .reply world moved
  | .beginWork resource =>
    let (world, result) := world.beginWork resource
    .reply world result
  | .commitWork resource =>
    let (world, result) := world.commitWork resource
    .reply world result
  | .rollbackWork resource cause =>
    let (world, result) := world.rollbackWork resource cause
    .reply world result
  | .connectNode node =>
    let (world, result) := world.connectNode node
    .reply world result
  | .disconnectNode node =>
    let (world, result) := world.disconnectNode node
    .reply world result
  | .nodeResource node => .reply world ((world.station? node).bind (·.resource))
  | .shareMetadata node metadata => .reply (world.shareMetadata node metadata) ()
  | .resetStep node context => .reply (world.resetStep node context) ()
  | .applyStep node item =>
    let (world, result) := world.applyStep metadata node item
    .reply world result
  | .deliver node items =>
    let (world, result) := world.deliver metadata node items
    .reply world result
  | .parametersFor node item => .reply world (world.parametersFor node item)
  | .readRecords node parameters timeout => world.readRecords node parameters timeout
  | .enrichItem node item records => .reply world (world.enrichItem node item records)
  | .connectProducer key =>
    let (world, result) := world.connectProducer key
    .reply world result
  | .disconnectProducer key =>
    let (world, result) := world.disconnectProducer key
    .reply world result
  | .shutdownProducer key => .reply (world.shutdownProducer key) ()
  | .isExhausted key =>
    .reply world (match world.outlet? key with
      | some outlet => outlet.feed.isExhausted
      | none => true)
  | .poll key timeout => world.poll key timeout
  | .contextOf key => .reply world ((world.outlet? key).bind fun outlet => outlet.feed.context?)
  | .setContext key context => .reply (world.setContext key context) ()
  | .producerResource key => .reply world (world.producerResource key)
  | .onTerminal key results =>
    let (world, result) := world.onTerminal key results
    .reply world result
  | .openRun => .reply { world with runCancelled := false } ()
  | .isCancelled => .reply world world.isCancelled
  | .cancelRun => .reply { world with runCancelled := true } ()
  | .pause delay => world.after delay.nanoseconds (some false) (some true)
  | .spawnWorker _ => .reply world ()
  | .nextExit => .wait world .exit
  | .collectExit _ => .reply world none

/-- Answers a question of a task, as long as the task has its turn. -/
def answer (world : World) (call : Call) : Answer call :=
  world.answerAbout (world.concerns? call) call

end World

end BatchFlow.Stage
