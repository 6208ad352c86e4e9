import BatchFlow.Enrichment
import BatchFlow.Plan
import BatchFlow.Producer.Queue
import BatchFlow.Producer.StaticItems
import BatchFlow.Step

/-! The world in which plans are carried out: the state of every collaborator, of the shared parts
of the engine, and the records that are kept of what happens. -/

namespace BatchFlow.Stage

/-- The collaborator of a node. -/
inductive Actor where
  | step (step : Step)
  | stdout (pretty : Bool)
  /-- Keeps what is delivered, and replies with the number of items if asked to. -/
  | memory (reply : Bool)
  | scriptedSink (script : SinkScript)
  | enrich (enricher : Enricher) (reader : Reader)

/-- A node's collaborator with what has happened to it. -/
structure Station where
  node : String
  actor : Actor
  /-- The resource that the collaborator offers to transactions. -/
  resource : Option Resource
  connects : Nat
  disconnects : Nat
  deliveries : List (List Item)
  /-- The metadata seen at each delivery, if the collaborator is told any. -/
  snapshots : List Fields
  /-- The metadata that the collaborator was told of last. -/
  metadata : Option Nat

/-- A collaborator nothing has happened to. -/
def Station.fresh (node : String) (actor : Actor) (resource : Option Resource) : Station :=
  ⟨node, actor, resource, 0, 0, [], [], none⟩

/-- Which of its calls a scripted resource fails. -/
structure ResourceScript where
  name : String
  failsBegin : Bool
  failsCommit : Bool
  failsRollback : Bool
  /-- A plain resource takes no notice of being enlisted. -/
  plain : Bool

/-- The state of a scripted producer. -/
structure ScriptState where
  script : ProducerScript
  cursor : Nat
  connects : Nat
  disconnects : Nat
  terminals : Nat

/-- A producer behind a source. -/
inductive Feed where
  | static (producer : StaticItems)
  | queue (producer : QueueProducer)
  | scripted (state : ScriptState)

namespace Feed

/-- Whether a feed will never yield anything more. -/
def isExhausted : Feed → Bool
  | .static producer => producer.isExhausted
  | .queue producer => producer.isExhausted
  | .scripted state => !state.script.idle && state.script.polls.length ≤ state.cursor

/-- The position of a feed. -/
def context? : Feed → Option Item
  | .static producer => some producer.context
  | .queue _ => none
  | .scripted state => if state.script.contextless then none else some (.nat state.cursor)

end Feed

/-- A producer with its id, and the resource that it offers if it is not a queue. -/
structure Outlet where
  id : String
  feed : Feed
  resource : Option Resource

/-- A call that a scripted collaborator received. -/
inductive Entry where
  | began (resource : String)
  | committed (resource : String)
  | rolledBack (resource cause : String)
  | reset (node : String) (context : Option Item)
  | connected (id : String)
  | disconnected (id : String)
  | delivered (node : String) (items : List Item)
  | read (node : String) (parameters : Option Item) (timeout : Duration)
  | shutDown (producer : String)
  | contextSet (producer : String) (context : Item)
  | terminal (producer : String) (results : Terminal)

/-- A call as an item: a list of its name and its arguments. -/
def Entry.toItem : Entry → Item
  | .began resource => .strings ["begin", resource]
  | .committed resource => .strings ["commit", resource]
  | .rolledBack resource cause => .strings ["rollback", resource, cause]
  | .reset node context => .array [.string "reset", .string node, .optional context]
  | .connected id => .strings ["connect", id]
  | .disconnected id => .strings ["disconnect", id]
  | .delivered node items => .array [.string "deliver", .string node, .array items]
  | .read node parameters timeout =>
    let given := Item.record [("parameters", .optional parameters),
      ("given", .bool parameters.isSome)]
    .array [.string "read", .string node, given, .nat timeout.millisWord]
  | .shutDown producer => .strings ["shutdown", producer]
  | .contextSet producer context => .array [.string "set_context", .string producer, context]
  | .terminal producer results =>
    .array [.string "terminal", .string producer, .object results.fields]

/-- Everything that plans act on. -/
structure World where
  stations : List Station
  resources : List ResourceScript
  /-- The producers, in the order of their keys. -/
  outlets : List Outlet
  /-- The metadata maps, in the order of their numbers. -/
  metadata : List Fields
  lifecycles : List (Component × Lifecycle)
  nextTransaction : Nat
  /-- Set once the adaptor was asked to stop. -/
  stopRequested : Bool
  /-- Set once the current run was cancelled. -/
  runCancelled : Bool
  /-- The time that has passed, in nanoseconds. -/
  now : Nat
  /-- What scripted collaborators were asked, the latest first. -/
  journal : List Entry
  /-- What was logged, the latest first. -/
  events : List Event
  /-- What was printed, the latest line first. -/
  printed : List String

namespace World

/-- A world without collaborators. -/
def empty : World := ⟨[], [], [], [], [], 1, false, false, 0, [], [], []⟩

/-- Makes a metadata map, and gives its number. -/
def addMetadata (world : World) (fields : Fields) : World × Nat :=
  ({ world with metadata := world.metadata ++ [fields] }, world.metadata.length)

/-- Writes into a metadata map. -/
def writeMetadata (world : World) (number : Nat) (fields : Fields) : World :=
  { world with metadata := world.metadata.modify number (Fields.merge · fields) }

/-- The contents of a metadata map. -/
def metadataOf (world : World) (number : Nat) : Fields :=
  world.metadata[number]?.getD []

/-- The collaborator of a node. -/
def station? (world : World) (node : String) : Option Station :=
  world.stations.find? (·.node == node)

/-- Replaces the collaborator of a node. -/
def putStation (world : World) (station : Station) : World :=
  { world with
    stations := world.stations.map fun old => if old.node == station.node then station else old }

/-- The collaborator that is found for a node is that of the node. -/
theorem station?_node {world : World} {node : String} {station : Station}
    (found : world.station? node = some station) : station.node = node := by
  simpa using List.find?_some found

/-- A collaborator that is put in its place is found there, and the others as before. -/
theorem station?_putStation (world : World) (station : Station) (node : String) :
    (world.putStation station).station? node =
      (world.station? node).map fun old => if old.node == station.node then station else old := by
  unfold station? putStation
  rw [List.find?_map]
  -- Whoever takes a place takes it under the same name.
  congr 2
  funext old
  by_cases same : old.node = station.node <;> simp [same]

/-- The producer of a key. -/
def outlet? (world : World) (key : Nat) : Option Outlet := world.outlets[key]?

/-- Changes the producer of a key. -/
def putFeed (world : World) (key : Nat) (feed : Feed) : World :=
  { world with outlets := world.outlets.modify key fun outlet => { outlet with feed } }

/-- Notes a call. -/
def note (world : World) (entry : Entry) : World :=
  { world with journal := entry :: world.journal }

/-- Where a component stands; everything is stopped in the beginning. -/
def lifecycleOf (world : World) (component : Component) : Lifecycle :=
  match world.lifecycles.find? (·.1 == component) with
  | some (_, lifecycle) => lifecycle
  | none => .stopped

/-- Sets where a component stands. -/
def putLifecycle (world : World) (component : Component) (lifecycle : Lifecycle) : World :=
  let others := world.lifecycles.filter (·.1 != component)
  { world with lifecycles := (component, lifecycle) :: others }

/-- Whether the current run is to end. -/
def isCancelled (world : World) : Bool := world.stopRequested || world.runCancelled

end World

end BatchFlow.Stage
